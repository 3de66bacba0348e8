import LambdaStack.FunctionSpec.Trigger
import LambdaStack.Stack.Invocation
import LambdaStack.Stack.Role

/-!
# Rule triggers

An event rule, fired by a pattern or a schedule, and its permission to invoke the function.
-/

namespace LambdaStack
namespace RuleTrigger

/-- Start of the identifiers of a rule: the name of the function and the kind of the source. -/
def eventName (function : String) (source : RuleSource) : String :=
  function ++ Text.capitalizeFirst source.kind

/-- Identifier of the rule. -/
def ruleName (function : String) (source : RuleSource) : String :=
  eventName function source ++ "Rule"

/-- Identifier of the permission to invoke. -/
def permissionName (function : String) (source : RuleSource) : String :=
  eventName function source ++ "Permission"

/-- Property that tells what fires a rule. -/
def sourceProperty : RuleSource → String × Json
  | .pattern value => ("EventPattern", value)
  | .schedule expression => ("ScheduleExpression", expression)

/-- The rule, which invokes the function with the chosen role. -/
def rule (function : String) (source : RuleSource) : Json :=
  .object [
    ("Type", "AWS::Events::Rule"),
    ("Properties", .object [
      ("RoleArn", Role.arn),
      ("State", "ENABLED"),
      ("Targets", .array [
        .object [
          ("Arn", Expression.attributeOf function "Arn"),
          ("Id", function)
        ]
      ]),
      sourceProperty source
    ])
  ]

/-- Resources of a rule trigger. -/
def resources (function : String) (source : RuleSource) : List (String × Json) :=
  [
    (permissionName function source, invocationPermission function "events.amazonaws.com"
      (Expression.attributeOf (ruleName function source) "Arn")),
    (ruleName function source, rule function source)
  ]

/-- The fragment of a rule and its permission. -/
def fragment (spec : FunctionSpec) (source : RuleSource) : Fragment where
  resources := .ofList (resources spec.name source)

end RuleTrigger
end LambdaStack

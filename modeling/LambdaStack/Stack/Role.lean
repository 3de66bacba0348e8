import LambdaStack.Document.Expression
import LambdaStack.Document.Fragment
import LambdaStack.FunctionSpec.Trigger
import LambdaStack.Stack.Names

/-!
# Execution roles

The role with which a function runs: who may assume it, the rights that every function has, and the
statements of the spec. One of two roles is chosen by the dispatch condition.
-/

namespace LambdaStack
namespace Role

/-- The role that the dispatch condition chooses. -/
def arn : Json :=
  Expression.choice Names.hasDispatch
    (Expression.attributeOf Names.dispatchRole "Arn")
    (Expression.attributeOf Names.defaultRole "Arn")

/-- A service may assume the role. -/
def trust (service : String) : Json :=
  .object [
    ("Sid", ""),
    ("Effect", "Allow"),
    ("Principal", .object [("Service", service)]),
    ("Action", "sts:AssumeRole")
  ]

/-- The services that may assume the role; the gateway is one of them if there is a webhook. -/
def trusted (triggers : List Trigger) : List Json :=
  [trust "lambda.amazonaws.com", trust "events.amazonaws.com"] ++
    if triggers.any Trigger.isWebhook then [trust "apigateway.amazonaws.com"] else []

/-- Permission of an action on a resource. -/
def allow (action : String) (resource : Json) : Json :=
  .object [
    ("Effect", "Allow"),
    ("Action", .array [action]),
    ("Resource", resource)
  ]

/-- The rights that every function has. -/
def basicStatements : List Json :=
  [
    allow "logs:*" (Expression.join ["arn:aws:logs:*:", Expression.accountId, ":*"]),
    allow "sns:Publish" (Expression.reference Names.alarmTopic),
    allow "iam:SimulateCustomPolicy" "*"
  ]

/-- A named policy of statements. -/
def policy (name : String) (statements : List Json) : Json :=
  .object [
    ("PolicyName", name),
    ("PolicyDocument", .object [("Statement", .array statements)])
  ]

/-- A statement has a member that is set. -/
def sets (statement : OrderedMap Json) (key : String) : Bool :=
  (statement.find? key).any Json.isTruthy

/-- A statement has an effect, resources and actions. -/
def validateStatement (statement : OrderedMap Json) (index : Nat) : Except Failure Unit :=
  let place := " (statement " ++ toString index ++ ")"
  if !sets statement "Effect" then
    .error (.invalidStatement ("statement must contain Effect" ++ place))
  else if !sets statement "Resource" && !sets statement "NotResource" then
    .error (.invalidStatement ("statement must contain Resource or NotResource" ++ place))
  else if !sets statement "Action" && !sets statement "NotAction" then
    .error (.invalidStatement ("statement must contain Action or NotAction" ++ place))
  else .ok ()

/-- All statements, the first of which has an index, are valid. -/
def validateFrom : Nat → List (OrderedMap Json) → Except Failure Unit
  | _, [] => .ok ()
  | index, statement :: rest => do
    validateStatement statement index
    validateFrom (index + 1) rest

/-- All statements are valid. -/
def validateStatements (statements : List (OrderedMap Json)) : Except Failure Unit :=
  validateFrom 0 statements

/-- The policy of the statements of a spec, named after the function. -/
def specPolicies (spec : FunctionSpec) : Except Failure (List Json) :=
  match spec.statements with
  | none => .ok []
  | some statements =>
    (validateStatements statements).map fun _ =>
      [policy spec.name (statements.map Json.ofMap)]

/-- Members of the resource of a role; the extra statements end the basic policy, which the other
policies follow. -/
def members (triggers : List Trigger) (extra policies : List Json) : List (String × Json) :=
  [
    ("Type", "AWS::IAM::Role"),
    ("Properties", .object [
      ("AssumeRolePolicyDocument", .object [("Statement", .array (trusted triggers))]),
      ("Path", "/"),
      ("Policies", .array (policy "basic" (basicStatements ++ extra) :: policies))
    ])
  ]

/-- Members of the resource of a role that carries the statements of a spec. -/
def body (spec : FunctionSpec) (triggers : List Trigger) (extra : List Json) :
    Except Failure (List (String × Json)) :=
  (specPolicies spec).map (members triggers extra)

/-- The fragment of a role of a given name. -/
def namedFragment (spec : FunctionSpec) (triggers : List Trigger) (name : String) :
    Except Failure Fragment :=
  (body spec triggers []).map fun members =>
    { resources := .ofList [(name, .object members)] }

/-- The fragment of the default role. -/
def fragment (spec : FunctionSpec) (triggers : List Trigger) : Except Failure Fragment :=
  namedFragment spec triggers Names.defaultRole

end Role
end LambdaStack

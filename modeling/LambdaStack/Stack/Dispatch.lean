import LambdaStack.Stack.Parameters
import LambdaStack.Stack.Role

/-!
# Dispatch support

The optional parameter of a dispatch topic, the condition that it is set, and the role that a
function has while it is: the default role with the right to publish to that topic.
-/

namespace LambdaStack
namespace Dispatch

/-- The condition that a dispatch topic is set. -/
def condition : Json :=
  Expression.notEquals "" (Expression.reference Names.dispatchTopic)

/-- The parameter of the dispatch topic. -/
def parameter : Json :=
  Parameters.textParameter "Dispatch SNS ARN (Optional)"

/-- The right to publish to the dispatch topic. -/
def publishStatement : Json :=
  Role.allow "sns:Publish" (Expression.reference Names.dispatchTopic)

/-- The fragment with the condition, unless it has one of that name already. -/
def withCondition (fragment : Fragment) : Fragment :=
  if fragment.conditions.contains Names.hasDispatch then fragment
  else fragment.insert .conditions Names.hasDispatch condition

/-- Members of the dispatch role. -/
def role (spec : FunctionSpec) (triggers : List Trigger) : Except Failure Json :=
  (Role.body spec triggers [publishStatement]).map fun members =>
    .object (members ++ [("Condition", .string Names.hasDispatch)])

/-- The fragment with dispatch support. Neither the parameter nor the role may be there before. -/
def support (fragment : Fragment) (spec : FunctionSpec) (triggers : List Trigger) :
    Except Failure Fragment := do
  let withParameter ←
    (withCondition fragment).insertNew .parameters Names.dispatchTopic parameter
  let role ← role spec triggers
  withParameter.insertNew .resources Names.dispatchRole role

end Dispatch
end LambdaStack

import LambdaStack.Document.Expression
import LambdaStack.Document.Fragment
import LambdaStack.Stack.Names

/-!
# Completion

The last steps on a merged fragment: the number of parameters is bounded, the variables and all
parameters enter the environment of the function, and the policies enter the execution roles.
-/

namespace LambdaStack
namespace Completion

/-- Greatest number of parameters of a document. -/
def parameterLimit : Nat := 60

/-- The fragment has no more parameters than are admitted. -/
def checkParameters (fragment : Fragment) : Except Failure Unit :=
  let count := fragment.parameters.size
  if parameterLimit < count then .error (.tooManyParameters count parameterLimit) else .ok ()

/-- Variables that identify the stack. -/
def stackVariables : List (String × Json) :=
  [
    ("StackName", Expression.stackName),
    ("Region", Expression.region),
    ("AccountId", Expression.accountId),
    ("StackId", Expression.stackId)
  ]

/-- The environment of the function: the variables of the fragment, those of the stack, and every
parameter, a later one replacing an earlier one of the same name in place. -/
def environment (fragment : Fragment) : OrderedMap Json :=
  (fragment.environment.insertAll stackVariables).insertAll
    (fragment.parameters.keys.map fun name => (name, Expression.reference name))

/-- Set the variables of an environment. -/
def setVariables (bound : OrderedMap Json) : Json → Option Json
  | .object members => some (.object (Entries.insert "Variables" (.ofMap bound) members))
  | _ => none

/-- Move the variables and the parameters into the environment of the function. -/
def injectEnvironment (fragment : Fragment) (function : String) : Except Failure Fragment :=
  let bound := environment fragment
  let injected := (fragment.resources.find? function).bind
    (Json.modifyAt? (setVariables bound) ["Properties", "Environment"])
  match injected with
  | some resource =>
    .ok { fragment with
      resources := fragment.resources.insert function resource
      environment := ∅ }
  | none =>
    .error (.missingField ("Resources." ++ function ++ ".Properties.Environment")
      ("Function resource " ++ function ++ " has no environment to receive variables"))

/-- Add policies at the end of a list of policies. -/
def addPolicies (policies : List Json) : Json → Option Json
  | .array existing => some (.array (existing ++ policies))
  | _ => none

/-- Add policies to a role. -/
def extendRole (policies : List Json) (resources : OrderedMap Json) (role : String) :
    Except Failure (OrderedMap Json) :=
  let extended := (resources.find? role).bind
    (Json.modifyAt? (addPolicies policies) ["Properties", "Policies"])
  match extended with
  | some resource => .ok (resources.insert role resource)
  | none =>
    .error (.missingField ("Resources." ++ role ++ ".Properties.Policies")
      ("Execution role " ++ role ++ " has no policy list to receive policies"))

/-- Move the policies into both execution roles. -/
def aggregatePolicies (fragment : Fragment) : Except Failure Fragment :=
  if fragment.policies.isEmpty then .ok fragment
  else
    ([Names.defaultRole, Names.dispatchRole].foldlM (extendRole fragment.policies)
      fragment.resources).map fun resources => { fragment with resources, policies := [] }

end Completion
end LambdaStack

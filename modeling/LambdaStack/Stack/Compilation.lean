import LambdaStack.Document.Template
import LambdaStack.Stack.Alarms
import LambdaStack.Stack.Completion
import LambdaStack.Stack.Dispatch
import LambdaStack.Stack.Function
import LambdaStack.Stack.RuleTrigger
import LambdaStack.Stack.TopicDestinations
import LambdaStack.Stack.TopicTrigger
import LambdaStack.Stack.WebhookTrigger

/-!
# Compilation

From a spec to a template. Name, triggers and destinations are checked before anything is built;
then the fragments are built in a fixed order, merged, and completed.
-/

namespace LambdaStack
namespace FunctionSpec

/-- The name is there and alphanumeric, since identifiers begin with it. -/
def checkName (spec : FunctionSpec) : Except Failure Unit :=
  if spec.name = "" then .error (.missingField "name" "Function name is required")
  else if !isAlphanumeric spec.name then
    .error (.invalidOption "name" ("function name must be alphanumeric: " ++ spec.name))
  else .ok ()

/-- The fragment of a trigger. -/
def triggerFragment (spec : FunctionSpec) (settings : Settings) : Trigger → Fragment
  | .topic => TopicTrigger.fragment spec
  | .rule source => RuleTrigger.fragment spec source
  | .webhook options => WebhookTrigger.fragment spec options settings

/-- The fragments of a spec: parameters, alarms, the function, its role, then one for each trigger
and one for each destination. -/
def fragments (spec : FunctionSpec) (settings : Settings) (triggers : List Trigger)
    (destinations : List Destination) : Except Failure (List Fragment) := do
  let parameters ← Parameters.fragment spec
  let alarms := Alarms.fragment spec settings
  let function ← Function.fragment spec settings
  let role ← Role.fragment spec triggers
  return [parameters, alarms, function, role] ++
    triggers.map (spec.triggerFragment settings) ++
    destinations.map fun destination => TopicDestination.fragment spec destination.entries

/-- The body of the template of a spec, for merging into a larger stack. -/
def embed (spec : FunctionSpec) (settings : Settings) : Except Failure Template := do
  spec.checkName
  let triggers ← spec.triggers
  let destinations ← spec.readDestinations
  let fragments ← spec.fragments settings triggers destinations
  let merged ← Fragment.mergeAll fragments
  let supported ← Dispatch.support merged spec triggers
  Completion.checkParameters supported
  let injected ← Completion.injectEnvironment supported spec.name
  let completed ← Completion.aggregatePolicies injected
  return Template.ofFragment completed

/-- The standalone template of a spec. -/
def compile (spec : FunctionSpec) (settings : Settings) : Except Failure Template :=
  (spec.embed settings).map fun template =>
    template.standalone (spec.name ++ " stackfn function")

end FunctionSpec
end LambdaStack

import LambdaStack.Json.Basic

/-!
# Function specs

The declarative description of one deployable function. Triggers and destinations stay raw JSON
here; they are read when a document is made of the spec.
-/

namespace LambdaStack

/-- A template parameter that the caller declares. -/
structure ParameterDefinition where
  /-- Type of the parameter. -/
  type : Option String := none
  /-- Description of the parameter. -/
  description : Option String := none
  /-- All other properties, which are passed through. -/
  extra : OrderedMap Json := ∅
  deriving DecidableEq

/-- The description of one function. -/
structure FunctionSpec where
  /-- Name of the function, with which its identifiers begin. -/
  name : String := ""
  /-- Runtime that executes the function. -/
  runtime : Option String := none
  /-- Memory in megabytes. -/
  memorySize : Option Binary64 := none
  /-- Time limit in seconds. -/
  timeout : Option Binary64 := none
  /-- Entry point of the code. -/
  handler : Option String := none
  /-- Number of errors that an alarm tolerates. -/
  threshold : Option Binary64 := none
  /-- Number of periods after which an alarm is raised. -/
  evaluationPeriods : Option Binary64 := none
  /-- Length of an alarm period in seconds. -/
  period : Option Binary64 := none
  /-- Declared parameters, in order. -/
  parameters : OrderedMap ParameterDefinition := ∅
  /-- Policy statements that the execution role gets in addition. -/
  statements : Option (List (OrderedMap Json)) := none
  /-- Kinds of triggers with their options. -/
  eventSources : Option (OrderedMap Json) := none
  /-- Kinds of destinations with their options. -/
  destinations : Option (OrderedMap Json) := none
  deriving DecidableEq

namespace ParameterDefinition

/-- The definition as it stands in a template: type, description, then the other properties, of
which one with the name of the first two replaces it in place. -/
def toJson (definition : ParameterDefinition) : Json :=
  let type := definition.type.toList.map fun text => ("Type", Json.string text)
  let description :=
    definition.description.toList.map fun text => ("Description", Json.string text)
  .object (definition.extra.entries.foldl (fun members entry =>
    Entries.insert entry.1 entry.2 members) (type ++ description))

end ParameterDefinition

namespace FunctionSpec

/-- Keys of the fields, in order of declaration. -/
def fieldKeys : List String :=
  ["name", "runtime", "memorySize", "timeout", "handler", "threshold", "evaluationPeriods",
    "period", "parameters", "statements", "eventSources", "destinations"]

/-- Keys of the fields that hold numbers, in the order in which they are checked. -/
def numericKeys : List String :=
  ["memorySize", "timeout", "threshold", "evaluationPeriods", "period"]

end FunctionSpec
end LambdaStack

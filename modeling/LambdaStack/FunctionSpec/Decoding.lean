import LambdaStack.Failure
import LambdaStack.FunctionSpec.Basic
import LambdaStack.Json.Mismatch

/-!
# Decoding function specs

A spec is an object whose members are visited in their order, or a list of the field values in
order of declaration. The numeric members of an object are checked before all others, so that a
failure can name them.
-/

namespace LambdaStack

namespace ParameterDefinition

/-- Add one property to a definition. -/
def decodeProperty (definition : ParameterDefinition) (property : String × Json) :
    Except Mismatch ParameterDefinition :=
  match property.1 with
  | "Type" => (property.2.decodeOptional Json.decodeText).map fun type =>
      { definition with type }
  | "Description" => (property.2.decodeOptional Json.decodeText).map fun description =>
      { definition with description }
  | key => .ok { definition with extra := definition.extra.insert key property.2 }

/-- The definition that an object of properties stands for. -/
def decode : Json → Except Mismatch ParameterDefinition
  | .object properties => properties.foldlM decodeProperty {}
  | value => .error (.type value "struct ParameterSpec")

end ParameterDefinition

namespace FunctionSpec

/-- The definitions of an object of parameters. -/
def decodeParameters : Json → Except Mismatch (OrderedMap ParameterDefinition)
  | .object members => members.foldlM (fun parameters member =>
      (ParameterDefinition.decode member.2).map (parameters.insert member.1)) ∅
  | value => .error (.type value "a map")

/-- Set the field of a key; other keys are ignored. -/
def decodeField (spec : FunctionSpec) (field : String × Json) : Except Mismatch FunctionSpec :=
  match field.1 with
  | "name" => field.2.decodeText.map fun name => { spec with name }
  | "runtime" => (field.2.decodeOptional Json.decodeText).map fun runtime =>
      { spec with runtime }
  | "memorySize" => (field.2.decodeOptional Json.decodeNumber).map fun memorySize =>
      { spec with memorySize }
  | "timeout" => (field.2.decodeOptional Json.decodeNumber).map fun timeout =>
      { spec with timeout }
  | "handler" => (field.2.decodeOptional Json.decodeText).map fun handler =>
      { spec with handler }
  | "threshold" => (field.2.decodeOptional Json.decodeNumber).map fun threshold =>
      { spec with threshold }
  | "evaluationPeriods" => (field.2.decodeOptional Json.decodeNumber).map fun evaluationPeriods =>
      { spec with evaluationPeriods }
  | "period" => (field.2.decodeOptional Json.decodeNumber).map fun period =>
      { spec with period }
  | "parameters" => (decodeParameters field.2).map fun parameters =>
      { spec with parameters }
  | "statements" =>
    (field.2.decodeOptional (Json.decodeList Json.decodeMap)).map fun statements =>
      { spec with statements }
  | "eventSources" => (field.2.decodeOptional Json.decodeMap).map fun eventSources =>
      { spec with eventSources }
  | "destinations" => (field.2.decodeOptional Json.decodeMap).map fun destinations =>
      { spec with destinations }
  | _ => .ok spec

/-- The spec that an object or a list of field values stands for. -/
def decode : Json → Except Mismatch FunctionSpec
  | .object members => members.foldlM decodeField {}
  | .array items =>
    match (fieldKeys.zip items).foldlM decodeField {} with
    | .error mismatch => .error mismatch
    | .ok spec =>
      if fieldKeys.length < items.length then
        .error (.length items.length "fewer elements in array")
      else .ok spec
  | value => .error (.type value "struct FunctionSpec")

/-- A member that may stand at a numeric key. -/
def isNumeric : Json → Bool
  | .null => true
  | .number _ => true
  | _ => false

/-- The first numeric key of an object that holds something else, with its value. -/
def nonNumericMember? (value : Json) : Option (String × Json) :=
  numericKeys.findSome? fun key =>
    ((value.member? key).filter (!isNumeric ·)).map fun member => (key, member)

/-- The spec that a JSON value stands for. -/
def ofJson (value : Json) : Except Failure FunctionSpec :=
  match nonNumericMember? value with
  | some (key, member) => .error (.invalidOption key ("expected a number, got " ++ member.compact))
  | none =>
    match decode value with
    | .error mismatch => .error (.invalidOption "spec" mismatch.message)
    | .ok spec => .ok spec

end FunctionSpec
end LambdaStack

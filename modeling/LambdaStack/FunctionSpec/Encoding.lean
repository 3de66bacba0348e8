import LambdaStack.FunctionSpec.Basic

/-!
# Encoding function specs

The JSON object of a spec: the fields in order of declaration, without those that are absent.
-/

namespace LambdaStack
namespace FunctionSpec

/-- A numeric field, which is null when it is no finite number. -/
def encodeNumber : Binary64 → Json
  | .finite value => .number (.float value)
  | _ => .null

/-- The member of a field that may be absent. -/
def encodeField {α : Type} (key : String) (encode : α → Json) (value : Option α) :
    List (String × Json) :=
  value.toList.map fun value => (key, encode value)

/-- Members of the parameters field, which is left out when empty. -/
def encodeParameters (parameters : OrderedMap ParameterDefinition) : List (String × Json) :=
  if parameters.isEmpty then []
  else [("parameters", .ofMap (parameters.map ParameterDefinition.toJson))]

/-- The object of a spec. -/
def toJson (spec : FunctionSpec) : Json :=
  .object <|
    [("name", .string spec.name)] ++
    encodeField "runtime" Json.string spec.runtime ++
    encodeField "memorySize" encodeNumber spec.memorySize ++
    encodeField "timeout" encodeNumber spec.timeout ++
    encodeField "handler" Json.string spec.handler ++
    encodeField "threshold" encodeNumber spec.threshold ++
    encodeField "evaluationPeriods" encodeNumber spec.evaluationPeriods ++
    encodeField "period" encodeNumber spec.period ++
    encodeParameters spec.parameters ++
    encodeField "statements" (fun statements => .array (statements.map Json.ofMap))
      spec.statements ++
    encodeField "eventSources" Json.ofMap spec.eventSources ++
    encodeField "destinations" Json.ofMap spec.destinations

end FunctionSpec
end LambdaStack

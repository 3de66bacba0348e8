import LambdaStack.Json.Printer
import LambdaStack.Text.Quoted

/-!
# Mismatches

What is reported when a JSON value has not the form that is wanted of it, and the elementary forms.
-/

namespace LambdaStack

/-- A value that is not of the wanted form. -/
inductive Mismatch where
  /-- The value is of another type. -/
  | type (found : Json) (wanted : String)
  /-- A list has not the wanted number of items. -/
  | length (count : Nat) (wanted : String)
  /-- An object lacks a member. -/
  | missing (field : String)
  deriving DecidableEq

namespace Mismatch

/-- A value inside a message. -/
def describe : Json → String
  | .null => "null"
  | .bool value => "boolean `" ++ (if value then "true" else "false") ++ "`"
  | .number (.integer value _) => "integer `" ++ toString value ++ "`"
  | .number (.float value) => "floating point `" ++ value.jsonText ++ "`"
  | .string value => "string " ++ Text.quoted value
  | .array _ => "sequence"
  | .object _ => "map"

/-- Wording of a mismatch. -/
def message : Mismatch → String
  | type found wanted => "invalid type: " ++ describe found ++ ", expected " ++ wanted
  | length count wanted => "invalid length " ++ toString count ++ ", expected " ++ wanted
  | missing field => "missing field `" ++ field ++ "`"

end Mismatch

namespace Json

/-- The text of a string. -/
def decodeText : Json → Except Mismatch String
  | .string value => .ok value
  | value => .error (.type value "a string")

/-- The nearest binary number of a number. -/
def decodeNumber : Json → Except Mismatch Binary64
  | .number value => .ok value.toBinary64
  | value => .error (.type value "f64")

/-- The members of an object. -/
def decodeMap : Json → Except Mismatch (OrderedMap Json)
  | .object members => .ok (.ofList members)
  | value => .error (.type value "a map")

/-- The decoded items of a list. -/
def decodeList {α : Type} (decode : Json → Except Mismatch α) : Json → Except Mismatch (List α)
  | .array items => items.mapM decode
  | value => .error (.type value "a sequence")

/-- A value that is absent when null. -/
def decodeOptional {α : Type} (decode : Json → Except Mismatch α) :
    Json → Except Mismatch (Option α)
  | .null => .ok none
  | value => (decode value).map some

end Json
end LambdaStack

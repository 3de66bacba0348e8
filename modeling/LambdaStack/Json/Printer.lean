import LambdaStack.Decimal.Notation
import LambdaStack.Json.Basic

/-!
# JSON text

The two layouts in which a value is written: compact, without any white space, and pretty, with one
item a line and two more spaces of indentation at each level.
-/

namespace LambdaStack

/-- Text of a number. -/
def JsonNumber.text : JsonNumber → String
  | .integer value _ => toString value
  | .float value => value.jsonText

namespace Json

/-- One character between the quotes of a string. -/
def escaped (c : Char) : List Char :=
  match c with
  | '"' => ['\\', '"']
  | '\\' => ['\\', '\\']
  | '\x08' => ['\\', 'b']
  | '\x0c' => ['\\', 'f']
  | '\n' => ['\\', 'n']
  | '\r' => ['\\', 'r']
  | '\t' => ['\\', 't']
  | c =>
    if c.toNat < 0x20 then
      ['\\', 'u', '0', '0', Nat.digitChar (c.toNat / 16), Nat.digitChar (c.toNat % 16)]
    else [c]

/-- Characters of a string value, quotes included. -/
def stringChars (text : String) : List Char :=
  '"' :: text.toList.flatMap escaped ++ ['"']

mutual

/-- Characters of the compact layout. -/
def compactChars : Json → List Char
  | .null => ['n', 'u', 'l', 'l']
  | .bool true => ['t', 'r', 'u', 'e']
  | .bool false => ['f', 'a', 'l', 's', 'e']
  | .number value => value.text.toList
  | .string value => stringChars value
  | .array items => '[' :: compactItems items ++ [']']
  | .object members => '\x7b' :: compactMembers members ++ ['\x7d']

/-- Items between the brackets of the compact layout. -/
def compactItems : List Json → List Char
  | [] => []
  | [item] => compactChars item
  | item :: rest => compactChars item ++ ',' :: compactItems rest

/-- Members between the braces of the compact layout. -/
def compactMembers : List (String × Json) → List Char
  | [] => []
  | [(key, value)] => stringChars key ++ ':' :: compactChars value
  | (key, value) :: rest =>
    stringChars key ++ ':' :: compactChars value ++ ',' :: compactMembers rest

end

/-- A value without white space. -/
def compact (value : Json) : String :=
  String.ofList value.compactChars

/-- A new line at a level of indentation. -/
def lineBreak (level : Nat) : List Char :=
  '\n' :: List.replicate (2 * level) ' '

mutual

/-- Characters of the pretty layout of a value that starts at a level of indentation. -/
def prettyChars (level : Nat) : Json → List Char
  | .array [] => ['[', ']']
  | .array (item :: rest) =>
    '[' :: prettyItems (level + 1) (item :: rest) ++ lineBreak level ++ [']']
  | .object [] => ['\x7b', '\x7d']
  | .object (member :: rest) =>
    '\x7b' :: prettyMembers (level + 1) (member :: rest) ++ lineBreak level ++ ['\x7d']
  | .null => compactChars .null
  | .bool value => compactChars (.bool value)
  | .number value => compactChars (.number value)
  | .string value => compactChars (.string value)

/-- Items of the pretty layout, each on a line of its own. -/
def prettyItems (level : Nat) : List Json → List Char
  | [] => []
  | [item] => lineBreak level ++ prettyChars level item
  | item :: rest => lineBreak level ++ prettyChars level item ++ ',' :: prettyItems level rest

/-- Members of the pretty layout, each on a line of its own. -/
def prettyMembers (level : Nat) : List (String × Json) → List Char
  | [] => []
  | [(key, value)] => lineBreak level ++ stringChars key ++ ':' :: ' ' :: prettyChars level value
  | (key, value) :: rest =>
    lineBreak level ++ stringChars key ++ ':' :: ' ' :: prettyChars level value ++
      ',' :: prettyMembers level rest

end

/-- A value with one item a line. -/
def pretty (value : Json) : String :=
  String.ofList (value.prettyChars 0)

end Json
end LambdaStack

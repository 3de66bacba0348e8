import LambdaStack.Decimal.Literal
import LambdaStack.Json.Basic
import LambdaStack.Json.SyntaxError

/-!
# Reading JSON text

A reader that takes one value from the front of a list of characters and returns the rest. Nesting
is bounded, and a repeated member name keeps its first place and its last value.
-/

namespace LambdaStack
namespace Json

/-- Reading from the front of a list of characters. -/
abbrev ReaderResult (α : Type) := Except SyntaxError (α × List Char)

/-- A problem at the first of the remaining characters. -/
def failAt {α : Type} (problem : SyntaxProblem) (rest : List Char) : Except SyntaxError α :=
  .error ⟨problem, rest, 1⟩

/-- A problem just before the remaining characters. -/
def failBefore {α : Type} (problem : SyntaxProblem) (rest : List Char) : Except SyntaxError α :=
  .error ⟨problem, rest, 0⟩

/-- A text that ends too early. -/
def failAtEnd {α : Type} (problem : SyntaxProblem) : Except SyntaxError α :=
  .error ⟨problem, [], 0⟩

/-- White space between tokens. -/
def isSpace (c : Char) : Bool :=
  c == ' ' || c == '\t' || c == '\n' || c == '\r'

/-- The characters from the next token on. -/
def skipSpace (input : List Char) : List Char :=
  input.dropWhile isSpace

/-- The rest of a word whose value is known. -/
def readWord (value : Json) : List Char → List Char → ReaderResult Json
  | [], input => .ok (value, input)
  | _ :: _, [] => failAtEnd .endInValue
  | letter :: word, c :: rest =>
    if c = letter then readWord value word rest else failAt .expectedWord (c :: rest)

/-- Value of a hexadecimal digit. -/
def hexValue? (c : Char) : Option Nat :=
  if c.isDigit then some (c.toNat - '0'.toNat)
  else if 'a' ≤ c ∧ c ≤ 'f' then some (c.toNat - 'a'.toNat + 10)
  else if 'A' ≤ c ∧ c ≤ 'F' then some (c.toNat - 'A'.toNat + 10)
  else none

/-- The 16-bit unit of four hexadecimal digits. Fewer than four bytes end the text early, and
anything else in those bytes is one error after them. -/
def readUnit (input : List Char) : ReaderResult Nat :=
  if SyntaxError.byteLength input < 4 then failAtEnd .endInString
  else
    match input with
    | a :: b :: c :: d :: rest =>
      match hexValue? a, hexValue? b, hexValue? c, hexValue? d with
      | some a, some b, some c, some d => .ok (((a * 16 + b) * 16 + c) * 16 + d, rest)
      | _, _, _, _ => .error ⟨.invalidEscape, input, 4⟩
    | _ => .error ⟨.invalidEscape, input, 4⟩

/-- The character of an escaped 16-bit unit, which may need a second one. -/
def readUnicodeEscape (input : List Char) : ReaderResult Char :=
  match readUnit input with
  | .error error => .error error
  | .ok (unit, rest) =>
    if 0xdc00 ≤ unit ∧ unit ≤ 0xdfff then failBefore .loneSurrogate rest
    else if unit < 0xd800 ∨ 0xdbff < unit then .ok (Char.ofNat unit, rest)
    else
      match rest with
      | [] => failAtEnd .endInString
      | '\\' :: [] => failAtEnd .endInString
      | '\\' :: 'u' :: rest =>
        match readUnit rest with
        | .error error => .error error
        | .ok (second, rest) =>
          if second < 0xdc00 ∨ 0xdfff < second then failBefore .loneSurrogate rest
          else .ok (Char.ofNat (0x10000 + (unit - 0xd800) * 0x400 + (second - 0xdc00)), rest)
      | '\\' :: rest => failAt .unfinishedSurrogatePair rest
      | rest => failAt .unfinishedSurrogatePair rest

/-- The character of an escape, after its backslash. -/
def readEscape : List Char → ReaderResult Char
  | [] => failAtEnd .endInString
  | '"' :: rest => .ok ('"', rest)
  | '\\' :: rest => .ok ('\\', rest)
  | '/' :: rest => .ok ('/', rest)
  | 'b' :: rest => .ok ('\x08', rest)
  | 'f' :: rest => .ok ('\x0c', rest)
  | 'n' :: rest => .ok ('\n', rest)
  | 'r' :: rest => .ok ('\r', rest)
  | 't' :: rest => .ok ('\t', rest)
  | 'u' :: rest => readUnicodeEscape rest
  | rest => failAt .invalidEscape rest

/-- The rest of a string, after its opening quote. The text read so far is reversed, and the fuel
bounds the number of characters that follow. -/
def readString : Nat → List Char → List Char → ReaderResult String
  | 0, _, _ => failAtEnd .endInString
  | _ + 1, _, [] => failAtEnd .endInString
  | fuel + 1, read, c :: rest =>
    if c = '"' then .ok (String.ofList read.reverse, rest)
    else if c = '\\' then
      match readEscape rest with
      | .error error => .error error
      | .ok (escaped, rest) => readString fuel (escaped :: read) rest
    else if c.toNat < 0x20 then failAt .controlCharacter (c :: rest)
    else readString fuel (c :: read) rest

/-- The digits at the front of a text. -/
def spanDigits (input : List Char) : List Char × List Char :=
  (input.takeWhile Char.isDigit, input.dropWhile Char.isDigit)

/-- The digits before the point. A leading zero stands alone. -/
def readWhole : List Char → ReaderResult (List Char)
  | [] => failAtEnd .endInValue
  | '0' :: rest =>
    match rest with
    | [] => .ok (['0'], [])
    | c :: _ => if c.isDigit then failAt .invalidNumber rest else .ok (['0'], rest)
  | c :: rest =>
    if c.isDigit then .ok (spanDigits (c :: rest)) else failAt .invalidNumber (c :: rest)

/-- At least one digit. -/
def readDigits : List Char → ReaderResult (List Char)
  | [] => failAtEnd .endInValue
  | c :: rest =>
    if c.isDigit then .ok (spanDigits (c :: rest)) else failAt .invalidNumber (c :: rest)

/-- The point and the digits after it, if a point comes next. -/
def readFraction : List Char → ReaderResult (Option (List Char))
  | '.' :: rest => (readDigits rest).map fun (digits, rest) => (some digits, rest)
  | input => .ok (none, input)

/-- The exponent, if one comes next. -/
def readExponent (input : List Char) : ReaderResult (Option (Bool × List Char)) :=
  match input with
  | [] => .ok (none, [])
  | c :: rest =>
    if c = 'e' ∨ c = 'E' then
      match rest with
      | '+' :: rest => (readDigits rest).map fun (digits, rest) => (some (false, digits), rest)
      | '-' :: rest => (readDigits rest).map fun (digits, rest) => (some (true, digits), rest)
      | rest => (readDigits rest).map fun (digits, rest) => (some (false, digits), rest)
    else .ok (none, input)

/-- The spelling of a number, after its sign. -/
def readLiteral (negative : Bool) (input : List Char) : ReaderResult Literal :=
  match readWhole input with
  | .error error => .error error
  | .ok (whole, rest) =>
    match readFraction rest with
    | .error error => .error error
    | .ok (fraction, rest) =>
      match readExponent rest with
      | .error error => .error error
      | .ok (exponent, rest) => .ok (⟨negative, whole, fraction, exponent⟩, rest)

/-- The integer that a literal stands for, unless it has a fraction or an exponent, is a negative
zero or does not fit. -/
def integerOf? (literal : Literal) : Option JsonNumber :=
  match literal.fraction, literal.exponent with
  | none, none =>
    let magnitude : Int := Literal.digitsValue literal.whole
    if literal.negative ∧ magnitude = 0 then none
    else
      let value := if literal.negative then -magnitude else magnitude
      if bounds : -0x8000000000000000 ≤ value ∧ value < 0x10000000000000000 then
        some (.integer value bounds)
      else none
  | _, _ => none

/-- The place at which a literal is found to be too large: the digit with which its exponent leaves
the admitted range, or its end. -/
def excessPlace (literal : Literal) (rest : List Char) : List Char :=
  match literal.exponent with
  | none => rest
  | some (_, digits) =>
    match Literal.excessLength? digits with
    | none => rest
    | some count => digits.drop count ++ rest

/-- A number, after its sign. -/
def readNumber (negative : Bool) (input : List Char) : ReaderResult Json :=
  match readLiteral negative input with
  | .error error => .error error
  | .ok (literal, rest) =>
    match integerOf? literal with
    | some value => .ok (.number value, rest)
    | none =>
      match literal.toFinite? with
      | some value => .ok (.number (.float value), rest)
      | none => failBefore .numberOutOfRange (excessPlace literal rest)

/-- The rest of a list. The items read so far are reversed, and the fuel bounds their number. -/
def readItems (readItem : List Char → ReaderResult Json) :
    Nat → List Json → List Char → ReaderResult Json
  | 0, _, _ => failAtEnd .endInList
  | fuel + 1, items, input =>
    match skipSpace input with
    | [] => failAtEnd .endInList
    | ']' :: rest => .ok (.array items.reverse, rest)
    | c :: rest =>
      let start : Except SyntaxError (List Char) :=
        if items.isEmpty then .ok (c :: rest)
        else if c = ',' then
          match skipSpace rest with
          | [] => failAtEnd .endInValue
          | ']' :: rest => failAt .trailingComma (']' :: rest)
          | rest => .ok rest
        else failAt .expectedCommaOrBracket (c :: rest)
      match start with
      | .error error => .error error
      | .ok input =>
        match readItem input with
        | .error error => .error error
        | .ok (item, rest) => readItems readItem fuel (item :: items) rest

/-- The value of a member, after its name. -/
def readMemberValue (readValue : List Char → ReaderResult Json) (input : List Char) :
    ReaderResult Json :=
  match skipSpace input with
  | [] => failAtEnd .endInObject
  | ':' :: rest => readValue rest
  | rest => failAt .expectedColon rest

/-- The rest of an object. `first` tells that no member has been read, and the fuel bounds the
number of members. -/
def readMembers (readValue : List Char → ReaderResult Json) :
    Nat → Bool → List (String × Json) → List Char → ReaderResult Json
  | 0, _, _, _ => failAtEnd .endInObject
  | fuel + 1, first, members, input =>
    match skipSpace input with
    | [] => failAtEnd .endInObject
    | '\x7d' :: rest => .ok (.object members, rest)
    | c :: rest =>
      let start : Except SyntaxError (List Char) :=
        if first then .ok (c :: rest)
        else if c = ',' then .ok (skipSpace rest)
        else failAt .expectedCommaOrBrace (c :: rest)
      match start with
      | .error error => .error error
      | .ok [] => failAtEnd .endInValue
      | .ok ('"' :: rest) =>
        match readString (rest.length + 1) [] rest with
        | .error error => .error error
        | .ok (key, rest) =>
          match readMemberValue readValue rest with
          | .error error => .error error
          | .ok (value, rest) =>
            readMembers readValue fuel false (Entries.insert key value members) rest
      | .ok ('\x7d' :: rest) => failAt .trailingComma ('\x7d' :: rest)
      | .ok rest => failAt .keyMustBeString rest

/-- A value whose lists and objects are nested at most to a depth. -/
def readValue : Nat → List Char → ReaderResult Json
  | depth, input =>
    match skipSpace input with
    | [] => failAtEnd .endInValue
    | 'n' :: rest => readWord .null ['u', 'l', 'l'] rest
    | 't' :: rest => readWord (.bool true) ['r', 'u', 'e'] rest
    | 'f' :: rest => readWord (.bool false) ['a', 'l', 's', 'e'] rest
    | '-' :: rest => readNumber true rest
    | '"' :: rest =>
      (readString (rest.length + 1) [] rest).map fun (text, rest) => (.string text, rest)
    | '[' :: rest =>
      match depth with
      | 0 => failAt .nestedTooDeeply ('[' :: rest)
      | depth + 1 => readItems (readValue depth) (rest.length + 1) [] rest
    | '\x7b' :: rest =>
      match depth with
      | 0 => failAt .nestedTooDeeply ('\x7b' :: rest)
      | depth + 1 => readMembers (readValue depth) (rest.length + 1) true [] rest
    | c :: rest =>
      if c.isDigit then readNumber false (c :: rest) else failAt .expectedValue (c :: rest)

/-- Greatest admitted depth of nested lists and objects. -/
def nestingLimit : Nat := 127

/-- The value of a text that holds nothing else. -/
def readChars (depth : Nat) (input : List Char) : Except SyntaxError Json :=
  match readValue depth input with
  | .error error => .error error
  | .ok (value, rest) =>
    match skipSpace rest with
    | [] => .ok value
    | rest => failAt .trailingCharacters rest

/-- The value of a text, nested at most to the admitted depth. -/
def read (text : String) : Except SyntaxError Json :=
  readChars nestingLimit text.toList

end Json
end LambdaStack

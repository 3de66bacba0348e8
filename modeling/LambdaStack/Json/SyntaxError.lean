/-!
# Syntax errors

What can be wrong with a JSON text, and where. An error keeps the text that was left when it was
found; lines and columns are counted from there, columns in bytes.
-/

namespace LambdaStack

/-- What is wrong with a JSON text. -/
inductive SyntaxProblem where
  /-- No value starts with this character. -/
  | expectedValue
  /-- A letter differs from the word that was begun. -/
  | expectedWord
  /-- A member does not start with a string. -/
  | keyMustBeString
  /-- No colon follows the name of a member. -/
  | expectedColon
  /-- A member is followed neither by a comma nor by the end of the object. -/
  | expectedCommaOrBrace
  /-- An item is followed neither by a comma nor by the end of the list. -/
  | expectedCommaOrBracket
  /-- A comma stands before a closing bracket. -/
  | trailingComma
  /-- Something follows the value. -/
  | trailingCharacters
  /-- A control character stands in a string. -/
  | controlCharacter
  /-- No escape has this letter or these digits. -/
  | invalidEscape
  /-- A leading surrogate is not followed by an escape. -/
  | unfinishedSurrogatePair
  /-- An escaped surrogate has no partner. -/
  | loneSurrogate
  /-- A character that no number has at this place. -/
  | invalidNumber
  /-- A number is too large. -/
  | numberOutOfRange
  /-- Lists and objects are nested too deeply. -/
  | nestedTooDeeply
  /-- The text ends where a value is due. -/
  | endInValue
  /-- The text ends within a string. -/
  | endInString
  /-- The text ends within an object. -/
  | endInObject
  /-- The text ends within a list. -/
  | endInList
  deriving DecidableEq

/-- Wording of a problem. -/
def SyntaxProblem.message : SyntaxProblem → String
  | .expectedValue => "expected value"
  | .expectedWord => "expected ident"
  | .keyMustBeString => "key must be a string"
  | .expectedColon => "expected `:`"
  | .expectedCommaOrBrace => "expected `,` or `\x7d`"
  | .expectedCommaOrBracket => "expected `,` or `]`"
  | .trailingComma => "trailing comma"
  | .trailingCharacters => "trailing characters"
  | .controlCharacter => "control character (\\u0000-\\u001F) found while parsing a string"
  | .invalidEscape => "invalid escape"
  | .unfinishedSurrogatePair => "unexpected end of hex escape"
  | .loneSurrogate => "lone leading surrogate in hex escape"
  | .invalidNumber => "invalid number"
  | .numberOutOfRange => "number out of range"
  | .nestedTooDeeply => "recursion limit exceeded"
  | .endInValue => "EOF while parsing a value"
  | .endInString => "EOF while parsing a string"
  | .endInObject => "EOF while parsing an object"
  | .endInList => "EOF while parsing a list"

/-- A problem and the place where it was found. -/
structure SyntaxError where
  /-- What is wrong. -/
  problem : SyntaxProblem
  /-- The characters from the place on. -/
  rest : List Char
  /-- Bytes of those characters that belong to the error. -/
  extent : Nat
  deriving DecidableEq

namespace SyntaxError

/-- Number of bytes of a run of characters. -/
def byteLength (chars : List Char) : Nat :=
  chars.foldl (fun count char => count + char.utf8Size) 0

/-- Bytes of a text up to and including the error. -/
def bytesBefore (error : SyntaxError) (text : String) : List UInt8 :=
  text.toUTF8.toList.take (text.utf8ByteSize - byteLength error.rest + error.extent)

/-- The line of the error, counted from one. -/
def line (error : SyntaxError) (text : String) : Nat :=
  (error.bytesBefore text).count 10 + 1

/-- Number of bytes of the line up to and including the error. -/
def column (error : SyntaxError) (text : String) : Nat :=
  ((error.bytesBefore text).reverse.takeWhile (· != 10)).length

/-- Wording of the error within a text. -/
def message (error : SyntaxError) (text : String) : String :=
  error.problem.message ++ " at line " ++ toString (error.line text) ++ " column " ++
    toString (error.column text)

end SyntaxError
end LambdaStack

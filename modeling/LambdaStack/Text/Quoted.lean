import LambdaStack.Text.Case
import LambdaStack.Text.HiddenTable

/-!
# Quoted text

The form in which a text appears inside a message: between double quotes, with controls and other
characters that cannot be seen spelled out by number.
-/

namespace LambdaStack
namespace Text

/-- One character as it stands between the quotes. -/
def quotedChar (c : Char) : List Char :=
  match c with
  | '\x00' => ['\\', '0']
  | '\t' => ['\\', 't']
  | '\r' => ['\\', 'r']
  | '\n' => ['\\', 'n']
  | '"' => ['\\', '"']
  | '\\' => ['\\', '\\']
  | c =>
    if inRanges hiddenRanges c then
      ['\\', 'u', '\x7b'] ++ Nat.toDigits 16 c.toNat ++ ['\x7d']
    else [c]

/-- A text between double quotes. -/
def quoted (text : String) : String :=
  String.ofList ('"' :: text.toList.flatMap quotedChar ++ ['"'])

end Text
end LambdaStack

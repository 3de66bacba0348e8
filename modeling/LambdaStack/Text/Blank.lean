import LambdaStack.Text.Segments

/-!
# Blank characters

White space in the sense of the Unicode property, trimming, and lists of items between commas.
-/

namespace LambdaStack
namespace Text

/-- White space: the property `White_Space` of a character. -/
def isBlank (c : Char) : Bool :=
  (9 ≤ c.toNat && c.toNat ≤ 13) || c.toNat == 0x20 || c.toNat == 0x85 || c.toNat == 0xa0 ||
    c.toNat == 0x1680 || (0x2000 ≤ c.toNat && c.toNat ≤ 0x200a) || c.toNat == 0x2028 ||
    c.toNat == 0x2029 || c.toNat == 0x202f || c.toNat == 0x205f || c.toNat == 0x3000

/-- Characters without the white space at either end. -/
def trim (chars : List Char) : List Char :=
  ((chars.dropWhile isBlank).reverse.dropWhile isBlank).reverse

/-- Trimmed items of a comma-separated value; an unset or empty value has none. -/
def splitOnComma (value : Option String) : List String :=
  match value with
  | none => []
  | some text =>
    if text = "" then []
    else (segments ',' text.toList).map fun segment => String.ofList (trim segment)

end Text
end LambdaStack

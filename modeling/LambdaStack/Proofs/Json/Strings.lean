import LambdaStack.Json.Printer
import LambdaStack.Json.Reader

/-!
# Written strings

The reader takes a written string back whole, whatever characters it holds: each character is
written as itself or as an escape of its own, and neither form can be mistaken for the closing
quote.
-/

namespace LambdaStack

theorem SyntaxError.foldl_utf8Size (chars : List Char) (count : Nat) :
    count + chars.length ≤ chars.foldl (fun count char => count + char.utf8Size) count := by
  induction chars generalizing count with
  | nil => simp
  | cons char rest ih =>
      have size_pos := char.utf8Size_pos
      have rest_le := ih (count + char.utf8Size)
      rw [List.foldl_cons, List.length_cons]
      omega

/-- Every character takes a byte. -/
theorem SyntaxError.length_le_byteLength (chars : List Char) :
    chars.length ≤ byteLength chars := by
  simpa [byteLength] using foldl_utf8Size chars 0

namespace Json

theorem hexValue?_digitChar {digit : Nat} (hexadecimal : digit < 16) :
    hexValue? (Nat.digitChar digit) = some digit := by
  have every : ∀ digit < 16, hexValue? (Nat.digitChar digit) = some digit := by decide
  exact every digit hexadecimal

/-- Two hexadecimal digits after two zeros make one byte. -/
theorem readUnit_digitChar {unit : Nat} (byte : unit < 0x100) (rest : List Char) :
    readUnit ('0' :: '0' :: Nat.digitChar (unit / 16) :: Nat.digitChar (unit % 16) :: rest) =
      .ok (unit, rest) := by
  have long := SyntaxError.length_le_byteLength
    ('0' :: '0' :: Nat.digitChar (unit / 16) :: Nat.digitChar (unit % 16) :: rest)
  have zero : hexValue? '0' = some 0 := rfl
  have unit_eq : ((0 * 16 + 0) * 16 + unit / 16) * 16 + unit % 16 = unit := by omega
  simp only [List.length_cons] at long
  rw [readUnit, if_neg (by omega)]
  simp only [zero, hexValue?_digitChar (show unit / 16 < 16 by omega),
    hexValue?_digitChar (show unit % 16 < 16 by omega), unit_eq]

theorem readUnicodeEscape_control {c : Char} (control : c.toNat < 0x20) (rest : List Char) :
    readUnicodeEscape
        ('0' :: '0' :: Nat.digitChar (c.toNat / 16) :: Nat.digitChar (c.toNat % 16) :: rest) =
      .ok (c, rest) := by
  rw [readUnicodeEscape, readUnit_digitChar (by omega)]
  simp only
  rw [if_neg (by omega), if_pos (by omega), Char.ofNat_toNat]

/-- The reader takes one written character back. -/
theorem readString_escaped (fuel : Nat) (read : List Char) (c : Char) (rest : List Char) :
    readString (fuel + 1) read (escaped c ++ rest) = readString fuel (c :: read) rest := by
  unfold escaped
  split
  case h_8 _ not_quote not_backslash _ _ _ _ _ =>
    by_cases control : c.toNat < 0x20
    · rw [if_pos control]
      simp only [List.cons_append, List.nil_append, readString, readEscape,
        readUnicodeEscape_control control]
      rfl
    · rw [if_neg control]
      simp only [List.singleton_append, readString]
      rw [if_neg not_quote, if_neg not_backslash, if_neg control]
  all_goals rfl

theorem length_le_flatMap_escaped (chars : List Char) :
    chars.length ≤ (chars.flatMap escaped).length := by
  have escaped_pos (c : Char) : 0 < (escaped c).length := by
    unfold escaped
    split
    case h_8 => split <;> simp
    all_goals simp
  induction chars with
  | nil => simp
  | cons c rest ih =>
      have head_pos := escaped_pos c
      rw [List.flatMap_cons, List.length_append, List.length_cons]
      omega

theorem readString_flatMap_escaped {fuel : Nat} {chars : List Char} (enough : chars.length < fuel)
    (read rest : List Char) :
    readString fuel read (chars.flatMap escaped ++ '"' :: rest) =
      .ok (String.ofList (read.reverse ++ chars), rest) := by
  induction chars generalizing fuel read with
  | nil =>
      obtain ⟨fuel, rfl⟩ := Nat.exists_eq_add_one_of_ne_zero (Nat.ne_zero_of_lt enough)
      simp [readString]
  | cons c chars ih =>
      obtain ⟨fuel, rfl⟩ := Nat.exists_eq_add_one_of_ne_zero (Nat.ne_zero_of_lt enough)
      have enough_left : chars.length < fuel := by simpa using enough
      rw [List.flatMap_cons, List.append_assoc, readString_escaped, ih enough_left]
      simp

/-- Characters between the quotes of a string value, with those that follow the quotes. -/
def stringTail (text : String) (rest : List Char) : List Char :=
  text.toList.flatMap escaped ++ '"' :: rest

theorem stringChars_append (text : String) (rest : List Char) :
    stringChars text ++ rest = '"' :: stringTail text rest := by
  simp [stringChars, stringTail]

/-- After its opening quote a written string is taken back. -/
theorem readString_stringTail (text : String) (rest : List Char) :
    readString ((stringTail text rest).length + 1) [] (stringTail text rest) =
      .ok (text, rest) := by
  have enough : text.toList.length < (stringTail text rest).length + 1 := by
    have escapes := length_le_flatMap_escaped text.toList
    simp only [stringTail, List.length_append, List.length_cons]
    omega
  rw [stringTail] at enough ⊢
  rw [readString_flatMap_escaped enough]
  simp

end Json
end LambdaStack

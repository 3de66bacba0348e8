import LambdaStack.Proofs.Entries
import LambdaStack.Proofs.Json.Strings

/-!
# Reading compact text

The reader takes compact text back to the value it was written for, provided that no object repeats
a member, all numbers are integers and lists and objects are not nested too deeply. The order of
members is kept. Fractions are left out since their digits are read with an error of their own.
-/

namespace LambdaStack
namespace Json

mutual

/-- Greatest number of lists and objects that lie within one another. -/
def depth : Json → Nat
  | .array items => depthOfItems items + 1
  | .object members => depthOfMembers members + 1
  | _ => 0

/-- Greatest depth of an item. -/
def depthOfItems : List Json → Nat
  | [] => 0
  | item :: rest => max (depth item) (depthOfItems rest)

/-- Greatest depth of a member's value. -/
def depthOfMembers : List (String × Json) → Nat
  | [] => 0
  | (_, value) :: rest => max (depth value) (depthOfMembers rest)

end

mutual

/-- All numbers of the value are integers. -/
def Integral : Json → Prop
  | .number (.float _) => False
  | .array items => IntegralItems items
  | .object members => IntegralMembers members
  | _ => True

/-- All numbers of every item are integers. -/
def IntegralItems : List Json → Prop
  | [] => True
  | item :: rest => Integral item ∧ IntegralItems rest

/-- All numbers of every member's value are integers. -/
def IntegralMembers : List (String × Json) → Prop
  | [] => True
  | (_, value) :: rest => Integral value ∧ IntegralMembers rest

end

/-- A text that does not carry on a number which stands before it. -/
def EndsNumber (rest : List Char) : Prop :=
  ∀ c ∈ rest.head?, c.isDigit = false ∧ c ≠ '.' ∧ c ≠ 'e' ∧ c ≠ 'E'

theorem endsNumber_nil : EndsNumber [] := by
  simp [EndsNumber]

theorem endsNumber_cons {c : Char} (closing : c ∈ [',', ']', '\x7d']) (rest : List Char) :
    EndsNumber (c :: rest) := by
  intro head head_eq
  cases head_eq
  simp only [List.mem_cons, List.not_mem_nil, or_false] at closing
  rcases closing with rfl | rfl | rfl <;> decide

theorem spanDigits_append {digits rest : List Char} (digital : ∀ c ∈ digits, c.isDigit = true)
    (ends : EndsNumber rest) : spanDigits (digits ++ rest) = (digits, rest) := by
  have stops : ∀ c ∈ rest.head?, c.isDigit = false := fun c mem => (ends c mem).1
  have take_nil : rest.takeWhile Char.isDigit = [] := by
    cases rest with
    | nil => rfl
    | cons c rest => rw [List.takeWhile_cons_of_neg (by simp [stops c rfl])]
  have drop_nil : rest.dropWhile Char.isDigit = rest := by
    cases rest with
    | nil => rfl
    | cons c rest => rw [List.dropWhile_cons_of_neg (by simp [stops c rfl])]
  rw [spanDigits, List.takeWhile_append_of_pos digital, List.dropWhile_append_of_pos digital,
    take_nil, drop_nil, List.append_nil]

/-- Only the number zero starts with a zero. -/
theorem head_toDigits {number : Nat} (positive : 0 < number) :
    ∃ c rest, Nat.toDigits 10 number = c :: rest ∧ c ≠ '0' := by
  induction number using Nat.strongRecOn with
  | ind number ih =>
      rw [Nat.toDigits_eq_if (by decide)]
      by_cases small : number < 10
      · have every : ∀ digit < 10, 0 < digit → Nat.digitChar digit ≠ '0' := by decide
        rw [if_pos small]
        exact ⟨_, [], rfl, every number small positive⟩
      · obtain ⟨c, rest, digits_eq, not_zero⟩ := ih (number / 10) (by omega) (by omega)
        rw [if_neg small, digits_eq]
        exact ⟨c, _, rfl, not_zero⟩

theorem isDigit_toDigits (number : Nat) : ∀ c ∈ Nat.toDigits 10 number, c.isDigit = true :=
  fun _ mem => Nat.isDigit_of_mem_toDigits (by decide) (by decide) mem

theorem readWhole_toDigits (number : Nat) {rest : List Char} (ends : EndsNumber rest) :
    readWhole (Nat.toDigits 10 number ++ rest) = .ok (Nat.toDigits 10 number, rest) := by
  rcases Nat.eq_zero_or_pos number with rfl | positive
  · cases rest with
    | nil => rfl
    | cons c rest => simp [readWhole, (ends c rfl).1]
  · obtain ⟨c, digits, digits_eq, not_zero⟩ := head_toDigits positive
    have digital := isDigit_toDigits number
    have spanned := spanDigits_append digital ends
    rw [digits_eq] at digital spanned ⊢
    rw [List.cons_append] at spanned ⊢
    rw [readWhole, if_pos (digital c List.mem_cons_self), spanned]
    exact not_zero

theorem readLiteral_toDigits (negative : Bool) (number : Nat) {rest : List Char}
    (ends : EndsNumber rest) :
    readLiteral negative (Nat.toDigits 10 number ++ rest) =
      .ok (⟨negative, Nat.toDigits 10 number, none, none⟩, rest) := by
  have no_fraction : readFraction rest = .ok (none, rest) := by
    unfold readFraction
    split
    next => exact absurd rfl (ends '.' rfl).2.1
    next => rfl
  have no_exponent : readExponent rest = .ok (none, rest) := by
    cases rest with
    | nil => rfl
    | cons c rest => simp [readExponent, ends c rfl]
  simp only [readLiteral, readWhole_toDigits number ends, no_fraction, no_exponent]

theorem readNumber_toDigits (negative : Bool) {number : Nat} {value : Int}
    (bounds : -0x8000000000000000 ≤ value ∧ value < 0x10000000000000000)
    (value_eq : value = if negative then -(number : Int) else number)
    (signed : negative = true → number ≠ 0) {rest : List Char} (ends : EndsNumber rest) :
    readNumber negative (Nat.toDigits 10 number ++ rest) =
      .ok (.number (.integer value bounds), rest) := by
  have digits_value : Literal.digitsValue (Nat.toDigits 10 number) = number :=
    Nat.ofDigitChars_ten_toDigits
  have integer_eq : integerOf? ⟨negative, Nat.toDigits 10 number, none, none⟩ =
      some (.integer value bounds) := by
    subst value_eq
    have not_negative_zero : ¬(negative = true ∧ (number : Int) = 0) := fun both =>
      signed both.1 (by omega)
    simp only [integerOf?, digits_value]
    rw [if_neg not_negative_zero, dif_pos bounds]
  simp only [readNumber, readLiteral_toDigits negative number ends, integer_eq]

/-- A value that starts a token of its own and is read back, nested at most to a depth, from its
compact text and whatever follows it. -/
structure Legible (depth : Nat) (value : Json) : Prop where
  /-- Its text starts neither with white space nor with a closing bracket. -/
  starts : ∃ c rest, value.compactChars = c :: rest ∧ isSpace c = false ∧ c ≠ ']'
  /-- It is read back. -/
  reads : ∀ {rest : List Char}, EndsNumber rest →
    readValue depth (value.compactChars ++ rest) = .ok (value, rest)

theorem skipSpace_cons {c : Char} (token : isSpace c = false) (rest : List Char) :
    skipSpace (c :: rest) = c :: rest :=
  List.dropWhile_cons_of_neg (by simp [token])

theorem isSpace_of_isDigit {c : Char} (digit : c.isDigit = true) : isSpace c = false := by
  rw [Bool.eq_false_iff]
  intro space
  simp only [isSpace, Bool.or_eq_true, beq_iff_eq] at space
  rcases space with ((rfl | rfl) | rfl) | rfl <;> cases digit

theorem readValue_digit (depth : Nat) {c : Char} (digit : c.isDigit = true) (rest : List Char) :
    readValue depth (c :: rest) = readNumber false (c :: rest) := by
  unfold readValue
  rw [skipSpace_cons (isSpace_of_isDigit digit)]
  split
  case h_9 same =>
    cases same
    rw [if_pos digit]
  all_goals
    next same =>
      cases same
      try cases digit

theorem toList_toString_ofNat (number : Nat) :
    (toString (Int.ofNat number)).toList = Nat.toDigits 10 number :=
  String.toList_ofList

theorem toList_toString_negSucc (number : Nat) :
    (toString (Int.negSucc number)).toList = '-' :: Nat.toDigits 10 (number + 1) := by
  change ("-" ++ String.ofList (Nat.toDigits 10 (number + 1))).toList = _
  simp

theorem legible_integer (depth : Nat) (value : Int)
    (bounds : -0x8000000000000000 ≤ value ∧ value < 0x10000000000000000) :
    Legible depth (.number (.integer value bounds)) := by
  cases value with
  | ofNat number =>
      have text_eq : (Json.number (.integer (.ofNat number) bounds)).compactChars =
          Nat.toDigits 10 number := toList_toString_ofNat number
      have some_digits : Nat.toDigits 10 number ≠ [] := Nat.toDigits_ne_nil
      obtain ⟨c, digits, digits_eq⟩ := List.exists_cons_of_ne_nil some_digits
      have digit : c.isDigit = true :=
        isDigit_toDigits number c (digits_eq ▸ List.mem_cons_self)
      constructor
      · refine ⟨c, digits, text_eq.trans digits_eq, isSpace_of_isDigit digit, ?_⟩
        rintro rfl
        cases digit
      · intro rest ends
        rw [text_eq, digits_eq, List.cons_append, readValue_digit depth digit, ← List.cons_append,
          ← digits_eq]
        exact readNumber_toDigits false bounds rfl nofun ends
  | negSucc number =>
      have text_eq : (Json.number (.integer (.negSucc number) bounds)).compactChars =
          '-' :: Nat.toDigits 10 (number + 1) := toList_toString_negSucc number
      constructor
      · exact ⟨'-', _, text_eq, rfl, by decide⟩
      · intro rest ends
        rw [text_eq, List.cons_append, readValue]
        exact readNumber_toDigits true bounds rfl (fun _ => Nat.succ_ne_zero number) ends

theorem legible_string (depth : Nat) (text : String) : Legible depth (.string text) := by
  constructor
  · exact ⟨'"', _, rfl, rfl, by decide⟩
  · intro rest _
    rw [compactChars, stringChars_append, readValue]
    simp only [skipSpace_cons (show isSpace '"' = false from rfl), readString_stringTail]
    rfl

theorem legible_word (depth : Nat) {value : Json} (word : value = .null ∨ ∃ b, value = .bool b) :
    Legible depth value := by
  rcases word with rfl | ⟨_ | _, rfl⟩
  · exact ⟨⟨'n', _, rfl, rfl, by decide⟩, fun _ => by rw [compactChars, readValue]; rfl⟩
  · exact ⟨⟨'f', _, rfl, rfl, by decide⟩, fun _ => by rw [compactChars, readValue]; rfl⟩
  · exact ⟨⟨'t', _, rfl, rfl, by decide⟩, fun _ => by rw [compactChars, readValue]; rfl⟩

/-- The parts of a list or an object after the first, each after a comma. -/
def laterParts {α : Type} (write : α → List Char) (parts : List α) : List Char :=
  parts.flatMap fun part => ',' :: write part

theorem laterParts_cons {α : Type} (write : α → List Char) (part : α) (parts : List α)
    (rest : List Char) :
    laterParts write (part :: parts) ++ rest =
      ',' :: (write part ++ (laterParts write parts ++ rest)) := by
  simp [laterParts]

theorem length_le_laterParts {α : Type} (write : α → List Char) (parts : List α) :
    parts.length ≤ (laterParts write parts).length := by
  induction parts with
  | nil => simp
  | cons part parts ih =>
      have text_eq := laterParts_cons write part parts []
      rw [List.append_nil, List.append_nil] at text_eq
      rw [text_eq, List.length_cons, List.length_cons, List.length_append]
      omega

theorem endsNumber_laterParts {α : Type} (write : α → List Char) (parts : List α) {closing : Char}
    (closes : closing ∈ [',', ']', '\x7d']) (rest : List Char) :
    EndsNumber (laterParts write parts ++ closing :: rest) := by
  cases parts with
  | nil => exact endsNumber_cons closes rest
  | cons => exact endsNumber_cons (by decide) _

theorem compactItems_cons (item : Json) (items : List Json) :
    compactItems (item :: items) = item.compactChars ++ laterParts compactChars items := by
  induction items generalizing item with
  | nil => simp [compactItems, laterParts]
  | cons next items ih =>
      rw [compactItems, ih]
      · simp [laterParts]
      · simp

/-- One step of reading a list: its first item. -/
theorem readItems_first {depth : Nat} {item : Json} (legible : Legible depth item) (fuel : Nat)
    {rest : List Char} (ends : EndsNumber rest) :
    readItems (readValue depth) (fuel + 1) [] (item.compactChars ++ rest) =
      readItems (readValue depth) fuel [item] rest := by
  have read := legible.reads ends
  obtain ⟨c, chars, chars_eq, token, not_bracket⟩ := legible.starts
  rw [chars_eq, List.cons_append] at read ⊢
  rw [readItems, skipSpace_cons token]
  simp [read]

/-- One step of reading a list: an item after a comma. -/
theorem readItems_later {depth : Nat} {known : List Json} {item : Json} (begun : known ≠ [])
    (legible : Legible depth item) (fuel : Nat) {rest : List Char} (ends : EndsNumber rest) :
    readItems (readValue depth) (fuel + 1) known (',' :: (item.compactChars ++ rest)) =
      readItems (readValue depth) fuel (item :: known) rest := by
  have read := legible.reads ends
  have not_empty : known.isEmpty = false := by simpa using begun
  obtain ⟨c, chars, chars_eq, token, not_bracket⟩ := legible.starts
  rw [chars_eq, List.cons_append] at read ⊢
  rw [readItems, skipSpace_cons (show isSpace ',' = false from rfl)]
  simp [not_empty, skipSpace_cons token, not_bracket, read]

theorem readItems_laterParts {depth fuel : Nat} {known items : List Json}
    (legible : ∀ item ∈ items, Legible depth item) (begun : known ≠ [])
    (enough : items.length < fuel) (rest : List Char) :
    readItems (readValue depth) fuel known (laterParts compactChars items ++ ']' :: rest) =
      .ok (.array (known.reverse ++ items), rest) := by
  induction items generalizing known fuel with
  | nil =>
      obtain ⟨fuel, rfl⟩ := Nat.exists_eq_add_one_of_ne_zero (Nat.ne_zero_of_lt enough)
      rw [List.append_nil]
      rfl
  | cons item items ih =>
      obtain ⟨fuel, rfl⟩ := Nat.exists_eq_add_one_of_ne_zero (Nat.ne_zero_of_lt enough)
      obtain ⟨item_legible, later_legible⟩ := List.forall_mem_cons.mp legible
      have enough_left : items.length < fuel := by simpa using enough
      rw [laterParts_cons, readItems_later begun item_legible fuel
        (endsNumber_laterParts compactChars items (by decide) rest),
        ih later_legible (List.cons_ne_nil item known) enough_left]
      simp

theorem legible_array {depth : Nat} {items : List Json}
    (legible : ∀ item ∈ items, Legible depth item) : Legible (depth + 1) (.array items) := by
  constructor
  · exact ⟨'[', _, rfl, rfl, by decide⟩
  · intro rest _
    have opened : (Json.array items).compactChars ++ rest =
        '[' :: (compactItems items ++ ']' :: rest) := by
      simp [compactChars]
    rw [opened, readValue, skipSpace_cons (show isSpace '[' = false from rfl)]
    cases items with
    | nil => rfl
    | cons item items =>
        obtain ⟨item_legible, later_legible⟩ := List.forall_mem_cons.mp legible
        have enough := length_le_laterParts compactChars items
        rw [compactItems_cons, List.append_assoc]
        simp only
        rw [readItems_first item_legible _
          (endsNumber_laterParts compactChars items (by decide) rest),
          readItems_laterParts later_legible (List.cons_ne_nil item [])]
        · rfl
        · simp only [List.length_append, List.length_cons]
          omega

/-- Characters of a member: its name, a colon and its value. -/
def memberChars (member : String × Json) : List Char :=
  stringChars member.1 ++ ':' :: member.2.compactChars

theorem compactMembers_cons (member : String × Json) (members : List (String × Json)) :
    compactMembers (member :: members) = memberChars member ++ laterParts memberChars members := by
  induction members generalizing member with
  | nil => simp [compactMembers, laterParts, memberChars]
  | cons next members ih =>
      rw [compactMembers, ih]
      · simp [laterParts, memberChars]
      · simp

theorem memberChars_append (key : String) (value : Json) (rest : List Char) :
    memberChars (key, value) ++ rest =
      '"' :: stringTail key (':' :: (value.compactChars ++ rest)) := by
  rw [memberChars, List.append_assoc, List.cons_append, stringChars_append]

/-- One step of reading an object: its first member, or one after a comma. -/
theorem readMembers_member {depth : Nat} {known : List (String × Json)} {key : String}
    {value : Json} (legible : Legible depth value) (absent : key ∉ Entries.keys known)
    (fuel : Nat) {rest : List Char} (ends : EndsNumber rest) :
    readMembers (readValue depth) (fuel + 1) true known (memberChars (key, value) ++ rest) =
        readMembers (readValue depth) fuel false (known ++ [(key, value)]) rest ∧
      readMembers (readValue depth) (fuel + 1) false known
          (',' :: (memberChars (key, value) ++ rest)) =
        readMembers (readValue depth) fuel false (known ++ [(key, value)]) rest := by
  have quote : isSpace '"' = false := rfl
  have comma : isSpace ',' = false := rfl
  have colon : isSpace ':' = false := rfl
  rw [memberChars_append, ← Entries.insert_of_not_mem value absent]
  constructor
  · rw [readMembers, skipSpace_cons quote]
    simp [readString_stringTail, readMemberValue, skipSpace_cons colon, legible.reads ends]
  · rw [readMembers, skipSpace_cons comma]
    simp [skipSpace_cons quote, readString_stringTail, readMemberValue, skipSpace_cons colon,
      legible.reads ends]

theorem readMembers_laterParts {depth fuel : Nat} {known members : List (String × Json)}
    (legible : ∀ member ∈ members, Legible depth member.2)
    (nodup : (Entries.keys (known ++ members)).Nodup) (enough : members.length < fuel)
    (rest : List Char) :
    readMembers (readValue depth) fuel false known
        (laterParts memberChars members ++ '\x7d' :: rest) =
      .ok (.object (known ++ members), rest) := by
  induction members generalizing known fuel with
  | nil =>
      obtain ⟨fuel, rfl⟩ := Nat.exists_eq_add_one_of_ne_zero (Nat.ne_zero_of_lt enough)
      rw [List.append_nil]
      rfl
  | cons member members ih =>
      obtain ⟨fuel, rfl⟩ := Nat.exists_eq_add_one_of_ne_zero (Nat.ne_zero_of_lt enough)
      obtain ⟨member_legible, later_legible⟩ := List.forall_mem_cons.mp legible
      have enough_left : members.length < fuel := by simpa using enough
      have moved : known ++ member :: members = (known ++ [member]) ++ members := by simp
      have absent := Entries.not_mem_keys_of_nodup nodup
      rw [moved] at nodup ⊢
      rw [laterParts_cons, (readMembers_member member_legible absent fuel
        (endsNumber_laterParts memberChars members (by decide) rest)).2,
        ih later_legible nodup enough_left]

theorem legible_object {depth : Nat} {members : List (String × Json)}
    (legible : ∀ member ∈ members, Legible depth member.2)
    (nodup : (Entries.keys members).Nodup) : Legible (depth + 1) (.object members) := by
  constructor
  · exact ⟨'\x7b', _, rfl, rfl, by decide⟩
  · intro rest _
    have opened : (Json.object members).compactChars ++ rest =
        '\x7b' :: (compactMembers members ++ '\x7d' :: rest) := by
      simp [compactChars]
    rw [opened, readValue, skipSpace_cons (show isSpace '\x7b' = false from rfl)]
    cases members with
    | nil => rfl
    | cons member members =>
        obtain ⟨member_legible, later_legible⟩ := List.forall_mem_cons.mp legible
        have enough := length_le_laterParts memberChars members
        rw [compactMembers_cons, List.append_assoc]
        simp only
        rw [(readMembers_member member_legible List.not_mem_nil _
          (endsNumber_laterParts memberChars members (by decide) rest)).1,
          readMembers_laterParts later_legible nodup]
        · rfl
        · simp only [List.length_append, List.length_cons]
          omega

mutual

/-- A value is legible to a reader that admits its depth. -/
theorem legible_of_depth_le (value : Json) (bound : Nat) (well_formed : value.WellFormed)
    (integral : value.Integral) (depth_le : value.depth ≤ bound) : Legible bound value := by
  -- By induction on the value: with each list or object the bound falls by one, like the depth
  -- that the reader still admits.
  cases value with
  | null => exact legible_word bound (.inl rfl)
  | bool => exact legible_word bound (.inr ⟨_, rfl⟩)
  | number number =>
      cases number with
      | integer value bounds => exact legible_integer bound value bounds
      | float => exact integral.elim
  | string text => exact legible_string bound text
  | array items =>
      obtain ⟨bound, rfl⟩ := Nat.exists_eq_add_of_lt depth_le
      exact legible_array
        (legible_items items _ well_formed integral (by omega))
  | object members =>
      obtain ⟨bound, rfl⟩ := Nat.exists_eq_add_of_lt depth_le
      exact legible_object
        (legible_members members _ well_formed.2 integral (by omega)) well_formed.1

theorem legible_items (items : List Json) (bound : Nat) (well_formed : WellFormedItems items)
    (integral : IntegralItems items) (depth_le : depthOfItems items ≤ bound) :
    ∀ item ∈ items, Legible bound item := by
  cases items with
  | nil => simp
  | cons item items =>
      have item_le := Nat.le_trans (Nat.le_max_left _ _) depth_le
      have items_le := Nat.le_trans (Nat.le_max_right _ _) depth_le
      exact List.forall_mem_cons.mpr
        ⟨legible_of_depth_le item bound well_formed.1 integral.1 item_le,
          legible_items items bound well_formed.2 integral.2 items_le⟩

theorem legible_members (members : List (String × Json)) (bound : Nat)
    (well_formed : WellFormedMembers members) (integral : IntegralMembers members)
    (depth_le : depthOfMembers members ≤ bound) : ∀ member ∈ members, Legible bound member.2 := by
  match members with
  | [] => simp
  | (_, value) :: members =>
      have value_le := Nat.le_trans (Nat.le_max_left _ _) depth_le
      have members_le := Nat.le_trans (Nat.le_max_right _ _) depth_le
      exact List.forall_mem_cons.mpr
        ⟨legible_of_depth_le value bound well_formed.1 integral.1 value_le,
          legible_members members bound well_formed.2 integral.2 members_le⟩

end

/-- Compact text is read back. -/
theorem read_compact {value : Json} (well_formed : value.WellFormed) (integral : value.Integral)
    (depth_le : value.depth ≤ nestingLimit) : read value.compact = .ok value := by
  have legible := legible_of_depth_le value nestingLimit well_formed integral depth_le
  have reads := legible.reads endsNumber_nil
  rw [List.append_nil] at reads
  simp only [read, compact, String.toList_ofList, readChars, reads]
  rfl

end Json
end LambdaStack

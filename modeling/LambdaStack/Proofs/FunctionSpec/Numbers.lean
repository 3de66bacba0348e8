import LambdaStack.FunctionSpec.Decoding
import LambdaStack.Proofs.Entries
import LambdaStack.Proofs.Steps

/-!
# Numeric members of specs

The numeric members of an object are looked at twice: all together before anything is decoded, in an
order of their own, and once more among the other members. The first look finds everything that can
be wrong with them. After it they are never the reason of a failure, and what is decoded from the
other members does not depend on them.
-/

namespace LambdaStack
namespace FunctionSpec

/-- What may stand at a numeric key. -/
def NumberOrNull (value : Json) : Prop :=
  value = .null ∨ ∃ number, value = .number number

theorem isNumeric_iff {value : Json} : isNumeric value = true ↔ NumberOrNull value := by
  cases value <;> simp [isNumeric, NumberOrNull]

theorem isNumeric_eq_false_iff {value : Json} : isNumeric value = false ↔ ¬NumberOrNull value := by
  rw [← isNumeric_iff, Bool.not_eq_true]

/-- A key is the first of the numeric ones that holds something else than a number or null. -/
structure FirstNonNumeric (value : Json) (key : String) (member : Json) : Prop where
  /-- The key holds the member. -/
  found : value.member? key = some member
  /-- It is something else. -/
  not_numeric : ¬NumberOrNull member
  /-- The numeric keys before it hold numbers or nulls, if anything. -/
  first : ∃ before after, numericKeys = before ++ key :: after ∧
    ∀ earlier ∈ before, ∀ held, value.member? earlier = some held → NumberOrNull held

theorem FirstNonNumeric.mem {value : Json} {key : String} {member : Json}
    (offends : FirstNonNumeric value key member) : key ∈ numericKeys := by
  obtain ⟨before, after, keys_eq, -⟩ := offends.first
  simp [keys_eq]

theorem nonNumericMember?_eq_some_iff {value : Json} {key : String} {member : Json} :
    nonNumericMember? value = some (key, member) ↔ FirstNonNumeric value key member := by
  have passes {other : String} :
      ((value.member? other).filter (!isNumeric ·)).map (fun held => (other, held)) = none ↔
        ∀ held, value.member? other = some held → NumberOrNull held := by
    simp [Option.filter_eq_none_iff, isNumeric_iff]
  rw [nonNumericMember?, List.findSome?_eq_some_iff]
  constructor
  · rintro ⟨before, other, after, keys_eq, offends, earlier⟩
    obtain ⟨held, held_eq, same⟩ := Option.map_eq_some_iff.mp offends
    obtain ⟨rfl, rfl⟩ := Prod.mk.inj same
    obtain ⟨found, not_numeric⟩ := Option.filter_eq_some_iff.mp held_eq
    have not_numeric : ¬NumberOrNull held := by simpa [isNumeric_eq_false_iff] using not_numeric
    exact ⟨found, not_numeric, before, after, keys_eq, fun key mem => passes.mp (earlier key mem)⟩
  · rintro ⟨found, not_numeric, before, after, keys_eq, earlier⟩
    refine ⟨before, key, after, keys_eq, ?_, fun key mem => passes.mpr (earlier key mem)⟩
    have kept : (value.member? key).filter (!isNumeric ·) = some member :=
      Option.filter_eq_some_iff.mpr ⟨found, by simpa [isNumeric_eq_false_iff] using not_numeric⟩
    rw [kept, Option.map_some]

theorem nonNumericMember?_eq_none_iff {value : Json} :
    nonNumericMember? value = none ↔
      ∀ key ∈ numericKeys, ∀ member, value.member? key = some member → NumberOrNull member := by
  simp [nonNumericMember?, List.findSome?_eq_none_iff, Option.filter_eq_none_iff, isNumeric_iff]

/-- A failure names a numeric key just when the key is the first that holds something else. -/
theorem ofJson_eq_nonNumeric_iff {value : Json} {key : String} (numeric : key ∈ numericKeys)
    {reason : String} :
    ofJson value = .error (.invalidOption key reason) ↔
      ∃ member, FirstNonNumeric value key member ∧
        reason = "expected a number, got " ++ member.compact := by
  have not_spec : key ≠ "spec" := by
    rintro rfl
    exact absurd numeric (by decide)
  cases found : nonNumericMember? value with
  | some offender =>
      obtain ⟨other, member⟩ := offender
      have first := nonNumericMember?_eq_some_iff.mp found
      have ofJson_eq : ofJson value =
          .error (.invalidOption other ("expected a number, got " ++ member.compact)) := by
        rw [ofJson, found]
      rw [ofJson_eq]
      constructor
      · intro failed
        cases failed
        exact ⟨member, first, rfl⟩
      · rintro ⟨named, named_first, rfl⟩
        have same := found.symm.trans (nonNumericMember?_eq_some_iff.mpr named_first)
        cases same
        rfl
  | none =>
      constructor
      · intro failed
        rw [ofJson, found] at failed
        cases decoded : decode value with
        | error mismatch =>
            simp only [decoded, Except.error.injEq, Failure.invalidOption.injEq] at failed
            exact absurd failed.1.symm not_spec
        | ok spec => simp [decoded] at failed
      · rintro ⟨member, first, -⟩
        cases found.symm.trans (nonNumericMember?_eq_some_iff.mpr first)

/-- The spec without its numbers. -/
def withoutNumbers (spec : FunctionSpec) : FunctionSpec :=
  { spec with
    memorySize := none
    timeout := none
    threshold := none
    evaluationPeriods := none
    period := none }

/-- The members that do not stand at numeric keys. -/
def otherMembers (members : List (String × Json)) : List (String × Json) :=
  members.filter fun member => member.1 ∉ numericKeys

/-- Only numbers and nulls stand at the numeric keys. -/
def NumbersInPlace (members : List (String × Json)) : Prop :=
  ∀ member ∈ members, member.1 ∈ numericKeys → NumberOrNull member.2

theorem decodeOptional_decodeNumber {value : Json} (numeric : NumberOrNull value) :
    ∃ number, value.decodeOptional Json.decodeNumber = .ok number := by
  rcases numeric with rfl | ⟨number, rfl⟩
  · exact ⟨none, rfl⟩
  · exact ⟨some number.toBinary64, rfl⟩

/-- A number or null is accepted at a numeric key, and nothing but a number is set by it. -/
theorem decodeField_of_numeric (spec : FunctionSpec) {key : String} {member : Json}
    (at_numeric : key ∈ numericKeys) (numeric : NumberOrNull member) :
    (spec.decodeField (key, member)).map withoutNumbers = .ok spec.withoutNumbers := by
  obtain ⟨number, number_ok⟩ := decodeOptional_decodeNumber numeric
  simp only [numericKeys, List.mem_cons, List.not_mem_nil, or_false] at at_numeric
  rcases at_numeric with rfl | rfl | rfl | rfl | rfl <;>
    · simp only [decodeField, number_ok]
      rfl

/-- A member at another key does not depend on the numbers that were set before it. -/
theorem decodeField_of_not_numeric (spec : FunctionSpec) {field : String × Json}
    (other : field.1 ∉ numericKeys) :
    (spec.decodeField field).map withoutNumbers = spec.withoutNumbers.decodeField field := by
  have apart {key : String} (numeric : key ∈ numericKeys) (same : field.1 = key) : False :=
    other (same ▸ numeric)
  unfold decodeField
  split
  case h_3 same | h_4 same | h_6 same | h_7 same | h_8 same => exact (apart (by decide) same).elim
  case h_13 => rfl
  all_goals
    exact map_map

/-- Numbers in their places have no influence on how the other members are decoded. -/
theorem foldlM_decodeField {members : List (String × Json)} (numbers : NumbersInPlace members)
    (spec : FunctionSpec) :
    (members.foldlM decodeField spec).map withoutNumbers =
      (otherMembers members).foldlM decodeField spec.withoutNumbers := by
  induction members generalizing spec with
  | nil => rfl
  | cons member rest ih =>
      obtain ⟨head, later⟩ := List.forall_mem_cons.mp numbers
      rw [List.foldlM_cons]
      by_cases at_numeric : member.1 ∈ numericKeys
      · obtain ⟨next, step_ok, next_eq⟩ :=
          map_eq_ok_iff.mp (spec.decodeField_of_numeric at_numeric (head at_numeric))
        have others_eq : otherMembers (member :: rest) = otherMembers rest :=
          List.filter_cons_of_neg (by simpa using at_numeric)
        rw [step_ok, others_eq, ← next_eq]
        exact ih later next
      · have step_eq := spec.decodeField_of_not_numeric at_numeric
        have others_eq : otherMembers (member :: rest) = member :: otherMembers rest :=
          List.filter_cons_of_pos (by simpa using at_numeric)
        rw [others_eq, List.foldlM_cons, ← step_eq]
        cases spec.decodeField member with
        | error mismatch => rfl
        | ok next => exact ih later next

/-- An object whose numbers are in their places is read, apart from these, like the object without
them. -/
theorem ofJson_withoutNumbers {members : List (String × Json)} (numbers : NumbersInPlace members) :
    (ofJson (.object members)).map withoutNumbers = ofJson (.object (otherMembers members)) := by
  have passes {given : List (String × Json)} (in_place : NumbersInPlace given) :
      ofJson (.object given) =
        (given.foldlM decodeField {}).mapError fun mismatch =>
          .invalidOption "spec" mismatch.message := by
    have none_found : nonNumericMember? (.object given) = none :=
      nonNumericMember?_eq_none_iff.mpr fun key numeric member found =>
        in_place (key, member) (Entries.mem_of_lookup found) numeric
    rw [ofJson, none_found]
    simp only [decode]
    cases given.foldlM decodeField {} <;> rfl
  have others_in_place : NumbersInPlace (otherMembers members) := fun member mem numeric =>
    absurd numeric (by simpa using (List.mem_filter.mp mem).2)
  have folded : (members.foldlM decodeField {}).map withoutNumbers =
      (otherMembers members).foldlM decodeField {} := foldlM_decodeField numbers {}
  rw [passes numbers, passes others_in_place, ← folded]
  cases members.foldlM decodeField {} <;> rfl

/-- Two objects have the same other members in the same order, and each of them has any numbers or
nulls at the numeric keys, or nothing. -/
structure Renumbered (left right : List (String × Json)) : Prop where
  /-- The other members are the same. -/
  others : otherMembers left = otherMembers right
  /-- The numbers of the first object are in their places. -/
  left_numbers : NumbersInPlace left
  /-- The numbers of the second object are in their places. -/
  right_numbers : NumbersInPlace right

theorem Renumbered.trans {left middle right : List (String × Json)}
    (first : Renumbered left middle) (second : Renumbered middle right) : Renumbered left right :=
  ⟨first.others.trans second.others, first.left_numbers, second.right_numbers⟩

section Changes

variable {members : List (String × Json)} {key : String}

/-- A numeric key may get another number or null. -/
theorem renumbered_insert (numbers : NumbersInPlace members) (numeric : key ∈ numericKeys)
    {number : Json} (given : NumberOrNull number) :
    Renumbered members (Entries.insert key number members) where
  others := by
    clear numbers
    induction members with
    | nil => simp [Entries.insert, otherMembers, numeric]
    | cons member rest ih =>
        by_cases same : member.1 = key
        · simp [Entries.insert, otherMembers, same, numeric]
        · rw [Entries.insert, if_neg same]
          simp only [otherMembers, List.filter_cons] at ih ⊢
          rw [ih]
  left_numbers := numbers
  right_numbers := by
    intro member mem at_numeric
    rcases Entries.mem_insert mem with rfl | known
    · exact given
    · exact numbers member known at_numeric

/-- A numeric key may be left out. -/
theorem renumbered_without (numbers : NumbersInPlace members) (numeric : key ∈ numericKeys) :
    Renumbered members (members.filter (·.1 ≠ key)) where
  others := by
    rw [otherMembers, otherMembers, List.filter_filter]
    refine List.filter_congr fun member _ => ?_
    by_cases same : member.1 = key <;> simp [same, numeric]
  left_numbers := numbers
  right_numbers := fun member mem => numbers member (List.mem_filter.mp mem).1

end Changes

theorem ofJson_renumbered {left right : List (String × Json)} (changed : Renumbered left right) :
    (ofJson (.object left)).map withoutNumbers = (ofJson (.object right)).map withoutNumbers := by
  rw [ofJson_withoutNumbers changed.left_numbers, ofJson_withoutNumbers changed.right_numbers,
    changed.others]

/-- The first look at the numeric keys and the decoding of the others part the failures among them.
A failure names one of these keys just when something else than a number or null stands at one, and
then it names the first such key in their own order. Any other failure concerns the spec, and stays
the same whatever numbers or nulls stand at these keys, as does the rest of a spec that is read. -/
theorem numbers_refused_apart (members : List (String × Json)) :
    ((∃ key ∈ numericKeys, ∃ reason,
        ofJson (.object members) = .error (.invalidOption key reason)) ↔
      ∃ key ∈ numericKeys, ∃ member,
        (Json.object members).member? key = some member ∧ ¬NumberOrNull member) ∧
    (∀ key ∈ numericKeys, ∀ reason,
      ofJson (.object members) = .error (.invalidOption key reason) ↔
        ∃ member, FirstNonNumeric (.object members) key member ∧
          reason = "expected a number, got " ++ member.compact) ∧
    ((∀ key ∈ numericKeys, ∀ member, (Json.object members).member? key = some member →
        NumberOrNull member) →
      ∀ failure, ofJson (.object members) = .error failure →
        ∃ reason, failure = .invalidOption "spec" reason) ∧
    ∀ other, Renumbered members other →
      (∀ spec, ofJson (.object members) = .ok spec → ∃ renumbered,
        ofJson (.object other) = .ok renumbered ∧
        renumbered.withoutNumbers = spec.withoutNumbers) ∧
      ∀ failure, ofJson (.object members) = .error failure ↔
        ofJson (.object other) = .error failure := by
  refine ⟨⟨?_, ?_⟩, fun key numeric reason => ofJson_eq_nonNumeric_iff numeric, ?_, ?_⟩
  · rintro ⟨key, numeric, reason, failed⟩
    obtain ⟨member, first, -⟩ := (ofJson_eq_nonNumeric_iff numeric).mp failed
    exact ⟨key, numeric, member, first.found, first.not_numeric⟩
  · rintro ⟨key, numeric, member, found, not_numeric⟩
    cases outcome : nonNumericMember? (.object members) with
    | none =>
        exact absurd (nonNumericMember?_eq_none_iff.mp outcome key numeric member found) not_numeric
    | some offender =>
        have first := nonNumericMember?_eq_some_iff.mp outcome
        exact ⟨offender.1, first.mem, _,
          (ofJson_eq_nonNumeric_iff first.mem).mpr ⟨offender.2, first, rfl⟩⟩
  · intro numbers failure failed
    rw [ofJson, nonNumericMember?_eq_none_iff.mpr numbers] at failed
    cases decoded : decode (.object members) with
    | error mismatch =>
        simp only [decoded, Except.error.injEq] at failed
        exact ⟨_, failed.symm⟩
    | ok spec => simp [decoded] at failed
  · intro other changed
    have agree := ofJson_renumbered changed
    constructor
    · intro spec read_ok
      rw [read_ok] at agree
      obtain ⟨renumbered, renumbered_ok, same⟩ := map_eq_ok_iff.mp agree.symm
      exact ⟨renumbered, renumbered_ok, same⟩
    · intro failure
      rw [← map_eq_error_iff (f := withoutNumbers), agree, map_eq_error_iff]

/-- Members with faults at two numeric keys and at another one. -/
def misnumbered : List (String × Json) :=
  [("statements", "none"), ("timeout", "60"), ("memorySize", .bool true)]

/-- Members with a fault that is not at a numeric key. -/
def numbered : List (String × Json) :=
  [("timeout", .null), ("runtime", .array []), ("memorySize", .number (.integer 512 (by decide)))]

/-- The same members with a time limit and without a memory. -/
def renumbered : List (String × Json) :=
  [("timeout", .number (.integer 60 (by decide))), ("runtime", .array [])]

theorem renumbered_numbered : Renumbered numbered renumbered := by
  have in_place : NumbersInPlace numbered := by
    simp [NumbersInPlace, numbered, NumberOrNull, numericKeys]
  have memory : "memorySize" ∈ numericKeys := by decide
  have timeout : "timeout" ∈ numericKeys := by decide
  have without_memory := renumbered_without in_place memory
  have minute : NumberOrNull (.number (.integer 60 (by decide))) := .inr ⟨_, rfl⟩
  exact without_memory.trans (renumbered_insert without_memory.right_numbers timeout minute)

theorem misnumbered_refused_apart :
    ofJson (.object misnumbered) =
      .error (.invalidOption "memorySize" "expected a number, got true") ∧
    ofJson (.object numbered) =
      .error (.invalidOption "spec" "invalid type: sequence, expected a string") ∧
    ofJson (.object renumbered) =
      .error (.invalidOption "spec" "invalid type: sequence, expected a string") := by
  have failed : ofJson (.object numbered) =
      .error (.invalidOption "spec" "invalid type: sequence, expected a string") := by rfl
  have first : FirstNonNumeric (.object misnumbered) "memorySize" (.bool true) :=
    ⟨rfl, by simp [NumberOrNull], [], _, rfl, nofun⟩
  refine ⟨?_, failed, ?_⟩
  · exact ((numbers_refused_apart misnumbered).2.1 "memorySize" (by decide) _).mpr
      ⟨_, first, by decide⟩
  · exact (((numbers_refused_apart numbered).2.2.2 _ renumbered_numbered).2 _).mp failed

end FunctionSpec
end LambdaStack

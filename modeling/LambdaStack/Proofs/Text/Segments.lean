import LambdaStack.Text.Segments
import Mathlib.Data.List.Basic

/-!
# Stretches between separators

Stretches are what the library's splitting of lists yields: they are taken apart around a separator,
there is one more of them than there are separators, and none holds a separator.
-/

namespace LambdaStack
namespace Text

theorem segments_eq_splitOn (separator : Char) (chars : List Char) :
    segments separator chars = chars.splitOn separator := by
  induction chars with
  | nil => rfl
  | cons c rest ih =>
      rw [segments, List.splitOn_cons_eq_if_modifyHead, ih]
      by_cases same : c = separator
      · simp [same]
      · simp only [same, if_false, beq_iff_eq]
        cases pieces_eq : rest.splitOn separator with
        | nil => exact absurd pieces_eq (List.splitOn_ne_nil separator rest)
        | cons => rfl

theorem segments_ne_nil (separator : Char) (chars : List Char) : segments separator chars ≠ [] := by
  rw [segments_eq_splitOn]
  exact List.splitOn_ne_nil separator chars

theorem segments_append_cons (separator : Char) (front back : List Char) :
    segments separator (front ++ separator :: back) =
      segments separator front ++ segments separator back := by
  simp only [segments_eq_splitOn, List.splitOn_append_cons_self]

theorem segments_of_not_mem {separator : Char} {chars : List Char} (absent : separator ∉ chars) :
    segments separator chars = [chars] := by
  rw [segments_eq_splitOn, List.splitOn_eq_singleton absent]

/-- There is one stretch more than there are separators. -/
theorem length_segments (separator : Char) (chars : List Char) :
    (segments separator chars).length = chars.count separator + 1 := by
  induction chars with
  | nil => rfl
  | cons c rest ih =>
      rw [segments]
      by_cases same : c = separator
      · simp [same, ih]
      · rw [if_neg same, List.count_cons_of_ne same, ← ih]
        split <;> simp_all

theorem not_mem_of_mem_segments {separator : Char} {chars segment : List Char}
    (mem : segment ∈ segments separator chars) : separator ∉ segment := by
  induction chars generalizing segment with
  | nil => simp_all [segments]
  | cons c rest ih =>
      rw [segments] at mem
      split at mem
      · rcases List.mem_cons.mp mem with rfl | later
        · exact List.not_mem_nil
        · exact ih later
      next different =>
        have absent := Ne.symm different
        split at mem
        · rw [List.mem_singleton.mp mem, List.mem_singleton]
          exact absent
        next first more segments_eq =>
          rcases List.mem_cons.mp mem with rfl | later
          · rw [List.mem_cons, not_or]
            exact ⟨absent, ih (segments_eq ▸ List.mem_cons_self)⟩
          · exact ih (segments_eq ▸ List.mem_cons_of_mem first later)

end Text
end LambdaStack

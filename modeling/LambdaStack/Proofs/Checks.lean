import LambdaStack.Failure
import Mathlib.Data.List.Basic

/-!
# Checks in order

Steps that stop at the first thing that is wrong. What is wrong is listed without regard to the
steps, everything at once and in the order of the checks; a step fails with the first item of its
list, and chains of steps fail with the first item of the lists put together.
-/

namespace LambdaStack

variable {α β σ : Type}

/-- A failure, if there is cause for it. -/
def failIf (cause : Prop) [Decidable cause] (failure : Failure) : List Failure :=
  if cause then [failure] else []

theorem failIf_eq_nil_iff {cause : Prop} [Decidable cause] {failure : Failure} :
    failIf cause failure = [] ↔ ¬cause := by
  simp [failIf]

theorem mem_failIf_iff {cause : Prop} [Decidable cause] {failure other : Failure} :
    other ∈ failIf cause failure ↔ cause ∧ other = failure := by
  simp [failIf]

theorem head?_failIf_eq_some_iff {cause : Prop} [Decidable cause] {failure first : Failure} :
    (failIf cause failure).head? = some first ↔ cause ∧ first = failure := by
  by_cases held : cause <;> simp [failIf, held, eq_comm]

/-- The first of what is listed for several items is listed for the first item for which there is
anything. -/
theorem head?_flatMap_eq_some_iff {items : List α} {listed : α → List β} {first : β} :
    (items.flatMap listed).head? = some first ↔
      ∃ front item back, items = front ++ item :: back ∧
        (∀ earlier ∈ front, listed earlier = []) ∧ (listed item).head? = some first := by
  simp only [List.head?_flatMap, List.findSome?_eq_some_iff, List.head?_eq_none_iff]
  constructor
  · rintro ⟨front, item, back, items_eq, head_eq, nothing⟩
    exact ⟨front, item, back, items_eq, nothing, head_eq⟩
  · rintro ⟨front, item, back, items_eq, nothing, head_eq⟩
    exact ⟨front, item, back, items_eq, head_eq, nothing⟩

/-- A step fails with the first of the listed failures, and succeeds when there are none. -/
def FailsFirst (step : Except Failure α) (listed : List Failure) : Prop :=
  ∀ failure, step = .error failure ↔ listed.head? = some failure

namespace FailsFirst

theorem ok (value : α) : FailsFirst (.ok value) [] :=
  fun _ => by simp

theorem error (failure : Failure) (later : List Failure) :
    FailsFirst (.error failure : Except Failure α) (failure :: later) :=
  fun _ => by simp

/-- A check comes before what is checked once it is passed. -/
theorem check {cause : Prop} [Decidable cause] {failure : Failure} {step : Except Failure α}
    {later : List Failure} (passed : ¬cause → FailsFirst step later) :
    FailsFirst (if cause then .error failure else step) (failIf cause failure ++ later) := by
  by_cases held : cause
  · rw [if_pos held, failIf, if_pos held]
    exact .error failure later
  · rw [if_neg held, failIf, if_neg held]
    exact passed held

theorem lastCheck {cause : Prop} [Decidable cause] {failure : Failure} {value : α} :
    FailsFirst (if cause then .error failure else .ok value) (failIf cause failure) := by
  rw [← List.append_nil (failIf cause failure)]
  exact check fun _ => .ok value

/-- A step that succeeds has nothing listed. -/
theorem eq_nil {step : Except Failure α} {listed : List Failure} (first : FailsFirst step listed)
    {value : α} (step_ok : step = .ok value) : listed = [] := by
  cases listed with
  | nil => rfl
  | cons failure later =>
      have failed := (first failure).mpr rfl
      rw [step_ok] at failed
      cases failed

theorem isOk_iff {step : Except Failure α} {listed : List Failure}
    (first : FailsFirst step listed) : (∃ value, step = .ok value) ↔ listed = [] := by
  constructor
  · rintro ⟨value, step_ok⟩
    exact first.eq_nil step_ok
  · rintro rfl
    cases step with
    | error failure => exact absurd ((first failure).mp rfl) (by simp)
    | ok value => exact ⟨value, rfl⟩

theorem bind {step : Except Failure α} {next : α → Except Failure β} {front back : List Failure}
    (first : FailsFirst step front)
    (later : ∀ value, step = .ok value → FailsFirst (next value) back) :
    FailsFirst (step >>= next) (front ++ back) := by
  cases step with
  | error failure =>
      obtain ⟨rest, rfl⟩ := List.head?_eq_some_iff.mp ((first failure).mp rfl)
      exact .error failure (rest ++ back)
  | ok value =>
      rw [first.eq_nil rfl, List.nil_append]
      exact later value rfl

/-- A step that is followed by nothing that fails. -/
theorem bindLast {step : Except Failure α} {next : α → Except Failure β} {listed : List Failure}
    (first : FailsFirst step listed)
    (later : ∀ value, step = .ok value → FailsFirst (next value) []) :
    FailsFirst (step >>= next) listed := by
  rw [← List.append_nil listed]
  exact first.bind later

theorem map {step : Except Failure α} {listed : List Failure} (first : FailsFirst step listed)
    (f : α → β) : FailsFirst (step.map f) listed := by
  cases step with
  | error failure => exact fun other => by simpa [Except.map] using first other
  | ok value =>
      rw [first.eq_nil rfl]
      exact .ok (f value)

/-- A step repeated over a list fails with what is wrong with the first item that is refused. -/
theorem mapM {step : α → Except Failure β} {listed : α → List Failure}
    (first : ∀ item, FailsFirst (step item) (listed item)) (items : List α) :
    FailsFirst (items.mapM step) (items.flatMap listed) := by
  induction items with
  | nil => exact .ok []
  | cons item rest ih =>
      rw [List.mapM_cons, List.flatMap_cons]
      refine (first item).bind fun result _ => ?_
      exact ih.bindLast fun results _ => .ok (result :: results)

theorem foldlM {step : σ → α → Except Failure σ} {listed : α → List Failure}
    (first : ∀ state item, FailsFirst (step state item) (listed item)) (items : List α)
    (state : σ) : FailsFirst (items.foldlM step state) (items.flatMap listed) := by
  induction items generalizing state with
  | nil => exact .ok state
  | cons item rest ih =>
      rw [List.foldlM_cons, List.flatMap_cons]
      exact (first state item).bind fun next _ => ih next

end FailsFirst
end LambdaStack

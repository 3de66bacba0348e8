import Mathlib.Data.List.Forall2
import Mathlib.Data.List.Perm.Basic

/-!
# Steps that can fail

When a chain of steps, the image of a step, or a step repeated over a list succeeds.
-/

namespace LambdaStack

variable {ε α β : Type}

/-- A chain of two steps succeeds when both do. -/
theorem bind_eq_ok_iff {first : Except ε α} {next : α → Except ε β}
    {result : β} :
    (first >>= next) = .ok result ↔ ∃ value, first = .ok value ∧ next value = .ok result := by
  cases first with
  | error failure => simp [bind, Except.bind]
  | ok value => simp [bind, Except.bind]

/-- A chain of two steps fails where the first one does, or where the second one does after it. -/
theorem bind_eq_error_iff {first : Except ε α} {next : α → Except ε β} {failure : ε} :
    (first >>= next) = .error failure ↔
      first = .error failure ∨ ∃ value, first = .ok value ∧ next value = .error failure := by
  cases first with
  | error other => simp [bind, Except.bind]
  | ok value => simp [bind, Except.bind]

/-- The image of a step succeeds when the step does. -/
theorem map_eq_ok_iff {step : Except ε α} {f : α → β} {result : β} :
    step.map f = .ok result ↔ ∃ value, step = .ok value ∧ f value = result := by
  cases step with
  | error failure => simp [Except.map]
  | ok value => simp [Except.map]

/-- A step repeated over a list succeeds when it does on every item. -/
theorem mapM_eq_ok_iff {step : α → Except ε β} {items : List α} {results : List β} :
    items.mapM step = .ok results ↔
      List.Forall₂ (fun item result => step item = .ok result) items results := by
  induction items generalizing results with
  | nil => simp [pure, Except.pure, eq_comm]
  | cons item rest ih =>
      rw [List.mapM_cons, bind_eq_ok_iff, List.forall₂_cons_left_iff]
      constructor
      · rintro ⟨result, item_ok, later⟩
        obtain ⟨remaining, rest_ok, pure_eq⟩ := bind_eq_ok_iff.mp later
        exact ⟨result, remaining, item_ok, ih.mp rest_ok, (Except.ok.inj pure_eq).symm⟩
      · rintro ⟨result, remaining, item_ok, rest_ok, rfl⟩
        exact ⟨result, item_ok, bind_eq_ok_iff.mpr ⟨remaining, ih.mpr rest_ok, rfl⟩⟩

/-- Results that all agree with their items do so as lists. -/
theorem map_eq_of_mapM {γ : Type} {step : α → Except ε β} {items : List α}
    {results : List β} {f : β → γ} {g : α → γ}
    (agree : ∀ item result, step item = .ok result → f result = g item)
    (mapM_ok : items.mapM step = .ok results) : results.map f = items.map g := by
  have pairs := mapM_eq_ok_iff.mp mapM_ok
  induction pairs with
  | nil => rfl
  | cons head _ ih =>
      rw [List.map_cons, List.map_cons, agree _ _ head, ih (mapM_eq_ok_iff.mpr ‹_›)]

/-- A step succeeds on a list of changed items when it does on each of them. -/
theorem mapM_map_of_mapM {step : α → Except ε β} {items : List α} {results : List β}
    {f : α → α} {g : β → β} (mapM_ok : items.mapM step = .ok results)
    (changed : ∀ item ∈ items, ∀ result ∈ results, step item = .ok result →
      step (f item) = .ok (g result)) :
    (items.map f).mapM step = .ok (results.map g) := by
  rw [mapM_eq_ok_iff] at mapM_ok ⊢
  induction mapM_ok with
  | nil => exact .nil
  | cons head _ ih =>
      refine .cons (changed _ List.mem_cons_self _ List.mem_cons_self head) (ih ?_)
      exact fun item item_mem result result_mem =>
        changed item (List.mem_cons_of_mem _ item_mem) result (List.mem_cons_of_mem _ result_mem)

/-- A step that succeeds on a list succeeds on it in any other order. -/
theorem mapM_of_perm {step : α → Except ε β} {left right : List α} {results : List β}
    (perm : left.Perm right) (mapM_ok : left.mapM step = .ok results) :
    ∃ others, right.mapM step = .ok others ∧ results.Perm others := by
  have pairs := mapM_eq_ok_iff.mp mapM_ok
  obtain ⟨others, other_pairs, others_perm⟩ := List.perm_comp_forall₂ perm.symm pairs
  exact ⟨others, mapM_eq_ok_iff.mpr other_pairs, others_perm.symm⟩

/-- A step repeated over a list to extend a state fails only where the step does. -/
theorem exists_of_foldlM_error {step : β → α → Except ε β} {items : List α} {state : β}
    {failure : ε} (failed : items.foldlM step state = .error failure) :
    ∃ reached, ∃ item ∈ items, step reached item = .error failure := by
  induction items generalizing state with
  | nil => cases failed
  | cons item rest ih =>
      rw [List.foldlM_cons] at failed
      cases step_eq : step state item with
      | error =>
          rw [step_eq] at failed
          cases failed
          exact ⟨state, item, List.mem_cons_self, step_eq⟩
      | ok next =>
          rw [step_eq] at failed
          obtain ⟨reached, later, mem, later_eq⟩ := ih failed
          exact ⟨reached, later, List.mem_cons_of_mem _ mem, later_eq⟩

/-- What one step keeps, a step repeated over a list keeps. -/
theorem invariant_of_foldlM {step : β → α → Except ε β} {items : List α} {start final : β}
    (invariant : β → Prop) (holds : invariant start)
    (kept : ∀ state item next, invariant state → step state item = .ok next → invariant next)
    (folded : items.foldlM step start = .ok final) : invariant final := by
  induction items generalizing start with
  | nil =>
      cases folded
      exact holds
  | cons item rest ih =>
      rw [List.foldlM_cons] at folded
      obtain ⟨next, step_ok, rest_ok⟩ := bind_eq_ok_iff.mp folded
      exact ih (kept start item next holds step_ok) rest_ok

theorem map_map {γ : Type} {step : Except ε α} {f : α → β} {g : β → γ} :
    (step.map f).map g = step.map fun value => g (f value) := by
  cases step <;> rfl

theorem map_eq_error_iff {step : Except ε α} {f : α → β} {failure : ε} :
    step.map f = .error failure ↔ step = .error failure := by
  cases step <;> simp [Except.map]

/-- Each item of a list is related to some item of a list that is related to it. -/
theorem exists_of_mem_forall₂ {relation : α → β → Prop} {items : List α} {results : List β}
    (related : List.Forall₂ relation items results) {item : α} (mem : item ∈ items) :
    ∃ result ∈ results, relation item result := by
  induction related with
  | nil => cases mem
  | cons head _ ih =>
      rcases mem with _ | ⟨_, later⟩
      · exact ⟨_, List.mem_cons_self, head⟩
      · obtain ⟨result, result_mem, holds⟩ := ih later
        exact ⟨result, List.mem_cons_of_mem _ result_mem, holds⟩

theorem exists_result_of_mem_mapM {step : α → Except ε β} {items : List α}
    {results : List β} (mapM_ok : items.mapM step = .ok results) {item : α} (mem : item ∈ items) :
    ∃ result ∈ results, step item = .ok result :=
  exists_of_mem_forall₂ (mapM_eq_ok_iff.mp mapM_ok) mem

theorem exists_of_mem_mapM {step : α → Except ε β} {items : List α} {results : List β}
    (mapM_ok : items.mapM step = .ok results) {result : β} (mem : result ∈ results) :
    ∃ item ∈ items, step item = .ok result :=
  exists_of_mem_forall₂ (mapM_eq_ok_iff.mp mapM_ok).flip mem

/-- A step repeated over a list fails where it fails on an item but on none before it. -/
theorem mapM_eq_error_iff {step : α → Except ε β} {items : List α} {failure : ε} :
    items.mapM step = .error failure ↔
      ∃ front item back, items = front ++ item :: back ∧
        (∀ earlier ∈ front, ∃ result, step earlier = .ok result) ∧
        step item = .error failure := by
  constructor
  · intro mapM_error
    induction items with
    | nil => cases mapM_error
    | cons first rest ih =>
        rw [List.mapM_cons] at mapM_error
        cases first_eq : step first with
        | error other =>
            rw [first_eq] at mapM_error
            cases mapM_error
            exact ⟨[], first, rest, rfl, nofun, first_eq⟩
        | ok result =>
            rw [first_eq] at mapM_error
            cases rest_eq : rest.mapM step with
            | ok results => simp [rest_eq, bind, Except.bind, pure, Except.pure] at mapM_error
            | error other =>
                have other_eq : other = failure := by
                  simpa [rest_eq, bind, Except.bind] using mapM_error
                obtain ⟨front, item, back, rfl, passed, failed⟩ := ih (other_eq ▸ rest_eq)
                refine ⟨first :: front, item, back, rfl, ?_, failed⟩
                rintro earlier (_ | ⟨_, mem⟩)
                exacts [⟨result, first_eq⟩, passed earlier mem]
  · rintro ⟨front, item, back, rfl, passed, failed⟩
    induction front with
    | nil =>
        rw [List.nil_append, List.mapM_cons, failed]
        rfl
    | cons first front ih =>
        obtain ⟨result, first_ok⟩ := passed first List.mem_cons_self
        rw [List.cons_append, List.mapM_cons, first_ok,
          ih fun earlier mem => passed earlier (List.mem_cons_of_mem _ mem)]
        rfl

/-- A step repeated over a list succeeds on some results when it does on every item. -/
theorem mapM_isOk_iff {step : α → Except ε β} {items : List α} :
    (∃ results, items.mapM step = .ok results) ↔
      ∀ item ∈ items, ∃ result, step item = .ok result := by
  constructor
  · rintro ⟨results, mapM_ok⟩ item mem
    obtain ⟨result, -, item_ok⟩ := exists_result_of_mem_mapM mapM_ok mem
    exact ⟨result, item_ok⟩
  · intro passed
    cases outcome : items.mapM step with
    | ok results => exact ⟨results, rfl⟩
    | error failure =>
        obtain ⟨front, item, back, rfl, -, failed⟩ := mapM_eq_error_iff.mp outcome
        obtain ⟨result, item_ok⟩ := passed item (by simp)
        cases failed.symm.trans item_ok

end LambdaStack

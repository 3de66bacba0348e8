import LambdaStack.Proofs.Checks
import LambdaStack.Proofs.Document.Merging
import LambdaStack.Proofs.Steps

/-!
# Collisions

Which key is reported when fragments do not merge. Of all keys that come back, the one in the first
fragment counts, there the one in the first section, and there the first one.
-/

namespace LambdaStack
namespace Fragment

/-- The keys of each section of a fragment. -/
def sectionKeys (fragment : Fragment) (part : Section) : List String :=
  (fragment.entries part).keys

/-- The keys of a fragment that earlier fragments have in the same section: section by section, and
in their order. -/
def repeats (earlier : List (Section → List String)) (incoming : Section → List String) :
    List Failure :=
  Section.all.flatMap fun part => (incoming part).flatMap fun key =>
    failIf (∃ keys ∈ earlier, key ∈ keys part) (.duplicateKey part.name key)

/-- The keys of several fragments that come back, fragment by fragment, when other fragments stand
before them. -/
def collisionsAfter (earlier : List (Section → List String)) :
    List (Section → List String) → List Failure
  | [] => []
  | incoming :: rest => repeats earlier incoming ++ collisionsAfter (earlier ++ [incoming]) rest

/-- The keys of several fragments that come back, fragment by fragment. -/
def collisions (fragments : List (Section → List String)) : List Failure :=
  collisionsAfter [] fragments

theorem head?_flatMap_failIf {α : Type} (items : List α) (cause : α → Prop) [DecidablePred cause]
    (failure : α → Failure) :
    (items.flatMap fun item => failIf (cause item) (failure item)).head? =
      (items.find? fun item => cause item).map failure := by
  induction items with
  | nil => rfl
  | cons item rest ih =>
      by_cases held : cause item
      · simp [failIf, held]
      · simpa [failIf, held] using ih

theorem insertNew_failsFirst (fragment : Fragment) (part : Section) (key : String) (value : Json) :
    FailsFirst (fragment.insertNew part key value)
      (failIf (key ∈ fragment.sectionKeys part) (.duplicateKey part.name key)) := by
  have bound_iff : ((fragment.entries part).contains key = true) =
      (key ∈ fragment.sectionKeys part) := propext OrderedMap.contains_iff
  unfold insertNew
  simp only [bound_iff]
  exact .lastCheck

theorem sectionKeys_of_insertNew {fragment extended : Fragment} {part : Section} {key : String}
    {value : Json} (insert_ok : fragment.insertNew part key value = .ok extended) {other : Section}
    (differs : other ≠ part) : extended.sectionKeys other = fragment.sectionKeys other := by
  unfold insertNew at insert_ok
  split at insert_ok <;> cases insert_ok
  simp [sectionKeys, insert, withSection, differs]

theorem merge_failsFirst {base : Fragment} {earlier : List (Section → List String)}
    (bound_iff : ∀ part key, key ∈ base.sectionKeys part ↔ ∃ keys ∈ earlier, key ∈ keys part)
    (incoming : Fragment) :
    FailsFirst (base.merge incoming) (repeats earlier incoming.sectionKeys) := by
  have shared_eq (part : Section) : (base.entries part).sharedKey? (incoming.entries part) =
      (incoming.sectionKeys part).find? fun key => ∃ keys ∈ earlier, key ∈ keys part := by
    refine congrArg (List.find? · _) (funext fun key => ?_)
    rw [Bool.eq_iff_iff, OrderedMap.contains_iff, decide_eq_true_iff]
    exact bound_iff part key
  have head_eq : (repeats earlier incoming.sectionKeys).head? =
      (base.clash? incoming).map fun clash => .duplicateKey clash.1.name clash.2 := by
    rw [repeats, List.head?_flatMap, clash?, List.map_findSome?]
    refine congrArg (List.findSome? · _) (funext fun part => ?_)
    rw [head?_flatMap_failIf, Function.comp_apply, shared_eq, Option.map_map]
    rfl
  intro failure
  rw [head_eq]
  unfold merge
  split
  next clash => simp [clash]
  next clash_free => simp [clash_free]

theorem sectionKeys_merge {base incoming merged : Fragment}
    (merge_ok : base.merge incoming = .ok merged) (part : Section) :
    merged.sectionKeys part = base.sectionKeys part ++ incoming.sectionKeys part := by
  rw [sectionKeys, OrderedMap.keys, (content_of_merge merge_ok).1, Entries.keys_append]
  rfl

theorem foldlM_merge_failsFirst {base : Fragment} {earlier : List (Section → List String)}
    (bound_iff : ∀ part key, key ∈ base.sectionKeys part ↔ ∃ keys ∈ earlier, key ∈ keys part)
    (fragments : List Fragment) :
    FailsFirst (fragments.foldlM merge base)
      (collisionsAfter earlier (fragments.map sectionKeys)) := by
  induction fragments generalizing base earlier with
  | nil => exact .ok base
  | cons fragment rest ih =>
      rw [List.foldlM_cons]
      refine (merge_failsFirst bound_iff fragment).bind fun merged merge_ok => ih fun part key => ?_
      rw [sectionKeys_merge merge_ok, List.mem_append, bound_iff]
      simp [or_and_right, exists_or]

theorem exists_of_mem_collisionsAfter {earlier fragments : List (Section → List String)}
    {failure : Failure} (mem : failure ∈ collisionsAfter earlier fragments) :
    ∃ part key, failure = .duplicateKey part key := by
  induction fragments generalizing earlier with
  | nil => cases mem
  | cons incoming rest ih =>
      rcases List.mem_append.mp mem with mem | mem
      · simp only [repeats, List.mem_flatMap, mem_failIf_iff] at mem
        obtain ⟨part, -, key, -, -, rfl⟩ := mem
        exact ⟨part.name, key, rfl⟩
      · exact ih mem

/-- Merging fails with the first key that comes back, fragment by fragment, section by section and
in the order of keys. -/
theorem mergeAll_failsFirst (fragments : List Fragment) :
    FailsFirst (mergeAll fragments) (collisions (fragments.map sectionKeys)) := by
  refine foldlM_merge_failsFirst (fun part key => ?_) fragments
  cases part <;> simp [sectionKeys, empty, entries, OrderedMap.keys]

theorem mem_sectionKeys_of_mergeAll {fragments : List Fragment} {merged : Fragment}
    (merged_ok : mergeAll fragments = .ok merged) (part : Section) (key : String) :
    key ∈ merged.sectionKeys part ↔
      ∃ keys ∈ fragments.map sectionKeys, key ∈ keys part := by
  obtain ⟨-, rfl⟩ := mergeAll_eq_ok_iff.mp merged_ok
  rw [sectionKeys, entries_joined, OrderedMap.mem_keys_ofList,
    keys_gather, List.mem_flatMap]
  simp [sectionKeys]

/-- The keys of a fragment without one key of one section. -/
def without (part : Section) (key : String) (keys : Section → List String) :
    Section → List String :=
  fun other => if other = part then (keys other).filter (· ≠ key) else keys other

theorem mem_without_iff {part other : Section} {key name : String}
    {keys : Section → List String} :
    name ∈ without part key keys other ↔ name ∈ keys other ∧ ¬(other = part ∧ name = key) := by
  unfold without
  split
  next same => simp [same]
  next differs => simp [differs]

theorem exists_mem_without_iff {fragments : List (Section → List String)} {part other : Section}
    {key name : String} (differs : ¬(other = part ∧ name = key)) :
    (∃ keys ∈ fragments.map (without part key), name ∈ keys other) ↔
      ∃ keys ∈ fragments, name ∈ keys other := by
  simp [mem_without_iff, differs]

theorem without_of_not_mem {part : Section} {key : String} {keys : Section → List String}
    (absent : key ∉ keys part) : without part key keys = keys := by
  funext other
  unfold without
  split
  next same =>
    subst same
    refine List.filter_eq_self.mpr fun name mem => decide_eq_true fun equal => ?_
    exact absent (equal ▸ mem)
  next => rfl

theorem flatMap_filter_of_eq_nil {α β : Type} {items : List α} {kept : α → Bool}
    {listed : α → List β} (dropped : ∀ item ∈ items, kept item = false → listed item = []) :
    (items.filter kept).flatMap listed = items.flatMap listed := by
  induction items with
  | nil => rfl
  | cons item rest ih =>
      obtain ⟨first, later⟩ := List.forall_mem_cons.mp dropped
      cases keep : kept item with
      | true => rw [List.filter_cons_of_pos keep, List.flatMap_cons, List.flatMap_cons, ih later]
      | false =>
          have skip : ¬kept item = true := by simp [keep]
          rw [List.filter_cons_of_neg skip, List.flatMap_cons, first keep, List.nil_append,
            ih later]

theorem repeats_without {earlier : List (Section → List String)} {part : Section} {key : String}
    {incoming : Section → List String}
    (once : ∀ keys ∈ earlier, key ∈ keys part → key ∉ incoming part) :
    repeats (earlier.map (without part key)) (without part key incoming) =
      repeats earlier incoming := by
  refine List.flatMap_congr fun other _ => ?_
  by_cases same : other = part
  · subst same
    have kept_eq : without other key incoming other = (incoming other).filter (· ≠ key) :=
      if_pos rfl
    have dropped : ∀ name ∈ incoming other, decide (name ≠ key) = false →
        failIf (∃ keys ∈ earlier, name ∈ keys other) (.duplicateKey other.name name) = [] := by
      intro name mem equal
      have name_eq : name = key := by simpa using equal
      subst name_eq
      rw [failIf_eq_nil_iff]
      rintro ⟨keys, keys_mem, bound⟩
      exact once keys keys_mem bound mem
    rw [kept_eq, ← flatMap_filter_of_eq_nil dropped]
    refine List.flatMap_congr fun name mem => ?_
    have differs : ¬(other = other ∧ name = key) := by simpa using (List.mem_filter.mp mem).2
    simp only [failIf, exists_mem_without_iff differs]
  · have kept_eq : without part key incoming other = incoming other := if_neg same
    rw [kept_eq]
    refine List.flatMap_congr fun name _ => ?_
    simp only [failIf, exists_mem_without_iff fun equal => same equal.1]

/-- A key of a section that no two fragments share takes no part in collisions. -/
theorem collisionsAfter_without {earlier fragments : List (Section → List String)}
    {part : Section} {key : String}
    (once : (earlier ++ fragments).Pairwise fun left right => key ∈ left part → key ∉ right part) :
    collisionsAfter (earlier.map (without part key)) (fragments.map (without part key)) =
      collisionsAfter earlier fragments := by
  induction fragments generalizing earlier with
  | nil => rfl
  | cons incoming rest ih =>
      have before : ∀ keys ∈ earlier, key ∈ keys part → key ∉ incoming part := fun keys mem =>
        (List.pairwise_append.mp once).2.2 keys mem incoming List.mem_cons_self
      rw [List.append_cons] at once
      have later := ih once
      rw [List.map_append] at later
      rw [List.map_cons, collisionsAfter, collisionsAfter, repeats_without before, ← later]
      rfl

theorem collisions_without {fragments : List (Section → List String)} {part : Section}
    {key : String}
    (once : fragments.Pairwise fun left right => key ∈ left part → key ∉ right part) :
    collisions (fragments.map (without part key)) = collisions fragments := by
  rw [← List.nil_append fragments] at once
  exact collisionsAfter_without once

end Fragment
end LambdaStack

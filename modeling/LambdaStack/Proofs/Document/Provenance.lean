import LambdaStack.Proofs.Document.Merging

/-!
# Provenance

From which of several fragments an entry comes, and where a value was changed on its way. Fragments
that can be merged bind every key at most once, so that each entry of what they make together has
one origin; replacing the value at a path of members leaves everything beside the path as it was.
-/

namespace LambdaStack

namespace Json

/-- Two values are the same but at a path of members, where they stand in a relation. -/
inductive ChangedAt (change : Json → Json → Prop) : List String → Json → Json → Prop where
  /-- At the end of the path the values are related. -/
  | here {before after : Json} (changed : change before after) : ChangedAt change [] before after
  /-- One member of an object is changed, and all others are as they were. -/
  | member {key : String} {path : List String} {before after : Json}
    (front back : List (String × Json)) (first : key ∉ Entries.keys front)
    (inner : ChangedAt change path before after) :
    ChangedAt change (key :: path) (.object (front ++ (key, before) :: back))
      (.object (front ++ (key, after) :: back))

/-- A list of items has others added at its end. -/
def Extends (added : List Json) (before after : Json) : Prop :=
  ∃ items, before = .array items ∧ after = .array (items ++ added)

theorem ChangedAt.mono {change weaker : Json → Json → Prop} {path : List String}
    {before after : Json} (changed : ChangedAt change path before after)
    (weaken : ∀ old new, change old new → weaker old new) :
    ChangedAt weaker path before after := by
  induction changed with
  | here changed => exact .here (weaken _ _ changed)
  | member front back first _ ih => exact .member front back first ih

/-- Replacing the value at a path changes nothing else. -/
theorem changedAt_of_modifyAt? {f : Json → Option Json} {path : List String} {before after : Json}
    (modified : modifyAt? f path before = some after) :
    ChangedAt (fun old new => f old = some new) path before after := by
  induction path generalizing before after with
  | nil => exact .here modified
  | cons key path ih =>
      cases before with
      | object members =>
          cases found : members.lookup key with
          | none => simp [modifyAt?, found] at modified
          | some old =>
              obtain ⟨front, back, rfl, absent⟩ := List.lookup_eq_some_iff.mp found
              have first : key ∉ Entries.keys front := fun mem => by
                obtain ⟨value, value_mem⟩ := Entries.mem_keys.mp mem
                simpa using absent _ value_mem
              simp only [modifyAt?, found, Option.map_eq_some_iff] at modified
              obtain ⟨new, inner, rfl⟩ := modified
              rw [Entries.insert_append_cons new old back first]
              exact .member front back first (ih inner)
      | null | bool | number | string | array => simp [modifyAt?] at modified

end Json

namespace Fragment

/-- A key of a section is bound by just one of several fragments, to a given value. -/
def BoundOnce (fragments : List Fragment) (part : Section) (key : String) (value : Json) : Prop :=
  ∃ front fragment back, fragments = front ++ fragment :: back ∧
    (fragment.entries part).find? key = some value ∧
    ∀ other ∈ front ++ back, key ∉ (other.entries part).keys

/-- Each entry of fragments that can be merged comes from just one of them. -/
theorem boundOnce_iff {fragments : List Fragment} (compatible : Compatible fragments)
    {part : Section} {key : String} {value : Json} :
    BoundOnce fragments part key value ↔ (key, value) ∈ gather fragments part := by
  constructor
  · rintro ⟨front, fragment, back, rfl, found, -⟩
    refine List.mem_flatMap.mpr ⟨fragment, by simp, ?_⟩
    exact OrderedMap.find?_eq_some_iff.mp found
  · intro mem
    obtain ⟨fragment, fragment_mem, entry_mem⟩ := List.mem_flatMap.mp mem
    obtain ⟨front, back, rfl⟩ := List.append_of_mem fragment_mem
    refine ⟨front, fragment, back, rfl, OrderedMap.find?_eq_some_iff.mpr entry_mem, ?_⟩
    intro other other_mem other_bound
    have bound : key ∈ (fragment.entries part).keys := Entries.mem_keys_of_mem entry_mem
    have nodup := compatible part
    rw [keys_gather, List.flatMap_append, List.flatMap_cons, List.nodup_append', List.nodup_append']
      at nodup
    obtain ⟨-, ⟨-, -, back_apart⟩, front_apart⟩ := nodup
    rcases List.mem_append.mp other_mem with earlier | later
    · exact front_apart (List.mem_flatMap.mpr ⟨other, earlier, other_bound⟩)
        (List.mem_append_left _ bound)
    · exact back_apart bound (List.mem_flatMap.mpr ⟨other, later, other_bound⟩)

end Fragment
end LambdaStack

import LambdaStack.Document.Fragment
import LambdaStack.Proofs.Entries

/-!
# Merging

Fragments merge exactly when no section has a key twice over all of them. The merged fragment then
holds, section by section, the entries of all fragments in order, and all policies. In every other
case the failure names a section and a key.
-/

namespace LambdaStack

namespace Fragment

/-- Entries of one section of several fragments, in order. -/
def gather (fragments : List Fragment) (part : Section) : List (String × Json) :=
  fragments.flatMap fun fragment => (fragment.entries part).entries

/-- No section of several fragments has a key twice. -/
def Compatible (fragments : List Fragment) : Prop :=
  ∀ part, (Entries.keys (gather fragments part)).Nodup

/-- Several fragments as one, section by section. -/
def joined (fragments : List Fragment) : Fragment :=
  ofSections (fun part => .ofList (gather fragments part)) (fragments.flatMap policies)

@[simp]
theorem entries_joined (fragments : List Fragment) (part : Section) :
    (joined fragments).entries part = .ofList (gather fragments part) := by
  simp [joined]

@[simp]
theorem policies_joined (fragments : List Fragment) :
    (joined fragments).policies = fragments.flatMap policies := by
  simp [joined]

@[simp]
theorem gather_append (front back : List Fragment) (part : Section) :
    gather (front ++ back) part = gather front part ++ gather back part := by
  simp [gather]

@[simp]
theorem gather_singleton (fragment : Fragment) (part : Section) :
    gather [fragment] part = (fragment.entries part).entries := by
  simp [gather]

theorem keys_gather (fragments : List Fragment) (part : Section) :
    Entries.keys (gather fragments part) =
      fragments.flatMap fun fragment => (fragment.entries part).keys := by
  rw [gather, Entries.keys, List.map_flatMap]
  rfl

/-- The sections of two fragments share no key. -/
def Disjoint (base incoming : Fragment) : Prop :=
  ∀ part, ∀ key ∈ (incoming.entries part).keys, key ∉ (base.entries part).keys

theorem clash?_eq_none_iff {base incoming : Fragment} :
    base.clash? incoming = none ↔ base.Disjoint incoming := by
  constructor
  · intro clash_free part
    exact OrderedMap.disjoint_of_sharedKey?_eq_none
      (sharedKey?_eq_none_of_clash? clash_free part)
  · intro disjoint
    refine List.findSome?_eq_none_iff.mpr fun part _ => ?_
    have none_shared : (base.entries part).sharedKey? (incoming.entries part) = none :=
      List.find?_eq_none.mpr fun key key_mem bound =>
        disjoint part key key_mem (OrderedMap.contains_iff.mp bound)
    rw [none_shared]
    rfl

theorem merge_of_disjoint {base incoming : Fragment} (disjoint : base.Disjoint incoming) :
    ∃ merged, base.merge incoming = .ok merged ∧
      (∀ part, (merged.entries part).entries =
        (base.entries part).entries ++ (incoming.entries part).entries) ∧
      merged.policies = base.policies ++ incoming.policies := by
  have clash_free := clash?_eq_none_iff.mpr disjoint
  unfold merge
  split
  next part key clash => simp [clash] at clash_free
  next => exact ⟨_, rfl, by simp⟩

theorem content_of_merge {base incoming merged : Fragment}
    (merge_ok : base.merge incoming = .ok merged) :
    (∀ part, (merged.entries part).entries =
      (base.entries part).entries ++ (incoming.entries part).entries) ∧
    merged.policies = base.policies ++ incoming.policies := by
  unfold merge at merge_ok
  split at merge_ok <;> cases merge_ok
  simp

theorem merge_of_not_disjoint {base incoming : Fragment} (shared : ¬base.Disjoint incoming) :
    ∃ part key, base.merge incoming = .error (.duplicateKey part key) := by
  rw [← clash?_eq_none_iff] at shared
  unfold merge
  split
  next part key clash => exact ⟨part.name, key, rfl⟩
  next clash_free => exact absurd clash_free shared

theorem mergeAll_concat (fragments : List Fragment) (last : Fragment) :
    mergeAll (fragments ++ [last]) = mergeAll fragments >>= fun merged => merged.merge last := by
  simp [mergeAll]

theorem compatible_concat {fragments : List Fragment} {last : Fragment} :
    Compatible (fragments ++ [last]) ↔
      Compatible fragments ∧ (joined fragments).Disjoint last := by
  constructor
  · intro compatible
    refine ⟨fun part => ?_, fun part key last_mem earlier_mem => ?_⟩
    · have nodup := compatible part
      rw [gather_append, Entries.keys_append, List.nodup_append] at nodup
      exact nodup.1
    · have nodup := compatible part
      rw [gather_append, Entries.keys_append, List.nodup_append] at nodup
      rw [entries_joined, OrderedMap.mem_keys_ofList] at earlier_mem
      rw [gather_singleton] at nodup
      exact nodup.2.2 key earlier_mem key last_mem rfl
  · rintro ⟨compatible, disjoint⟩ part
    rw [gather_append, gather_singleton, Entries.keys_append]
    refine List.nodup_append.mpr ⟨compatible part, (last.entries part).nodup, ?_⟩
    rintro left left_mem right right_mem rfl
    refine disjoint part left right_mem ?_
    rwa [entries_joined, OrderedMap.mem_keys_ofList]

/-- Compatible fragments merge into the fragment that joins their sections. -/
theorem mergeAll_of_compatible {fragments : List Fragment} (compatible : Compatible fragments) :
    mergeAll fragments = .ok (joined fragments) := by
  induction fragments using List.reverseRecOn with
  | nil => rfl
  | append_singleton fragments last ih =>
      obtain ⟨earlier, disjoint⟩ := compatible_concat.mp compatible
      obtain ⟨merged, merge_eq, entries_eq, policies_eq⟩ := merge_of_disjoint disjoint
      rw [mergeAll_concat, ih earlier]
      change (joined fragments).merge last = _
      rw [merge_eq]
      congr 1
      refine ext_entries (fun part => OrderedMap.ext ?_) ?_
      · rw [entries_eq, entries_joined, entries_joined,
          OrderedMap.entries_ofList (earlier part), OrderedMap.entries_ofList (compatible part)]
        simp
      · rw [policies_eq]
        simp

/-- Fragments that are not compatible fail to merge, with a key that occurs twice. -/
theorem mergeAll_of_not_compatible {fragments : List Fragment}
    (repeated : ¬Compatible fragments) :
    ∃ part key, mergeAll fragments = .error (.duplicateKey part key) := by
  induction fragments using List.reverseRecOn with
  | nil => exact absurd (fun part => by simp [gather]) repeated
  | append_singleton fragments last ih =>
      rw [mergeAll_concat]
      by_cases earlier : Compatible fragments
      · have shared : ¬(joined fragments).Disjoint last := fun disjoint =>
          repeated (compatible_concat.mpr ⟨earlier, disjoint⟩)
        rw [mergeAll_of_compatible earlier]
        exact merge_of_not_disjoint shared
      · obtain ⟨part, key, failed⟩ := ih earlier
        exact ⟨part, key, by rw [failed]; rfl⟩

theorem mergeAll_eq_ok_iff {fragments : List Fragment} {merged : Fragment} :
    mergeAll fragments = .ok merged ↔ Compatible fragments ∧ merged = joined fragments := by
  by_cases compatible : Compatible fragments
  · rw [mergeAll_of_compatible compatible, Except.ok.injEq, and_iff_right compatible, eq_comm]
  · obtain ⟨part, key, failed⟩ := mergeAll_of_not_compatible compatible
    simp [failed, compatible]

theorem insertNew_of_not_mem {fragment : Fragment} {part : Section} {key : String} (value : Json)
    (absent : key ∉ (fragment.entries part).keys) :
    fragment.insertNew part key value = .ok (fragment.insert part key value) := by
  rw [insertNew, if_neg (fun bound => absent (OrderedMap.contains_iff.mp bound))]

theorem insertNew_of_mem {fragment : Fragment} {part : Section} {key : String} (value : Json)
    (bound : key ∈ (fragment.entries part).keys) :
    fragment.insertNew part key value = .error (.duplicateKey part.name key) := by
  rw [insertNew, if_pos (OrderedMap.contains_iff.mpr bound)]

end Fragment
end LambdaStack

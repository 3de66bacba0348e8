import LambdaStack.Proofs.Document.Merging
import LambdaStack.Proofs.Steps

/-!
# Grouping and order of fragments

Merging is a sum of fragments that is defined only where no key is lost. A list of fragments has a
sum just when any two of them have one, empty fragments do not count, the list may be cut anywhere
and its parts merged apart, and its order only shows in the order of entries and policies.
-/

namespace LambdaStack
namespace Fragment

instance (base incoming : Fragment) : Decidable (base.Disjoint incoming) :=
  decidable_of_iff _ clash?_eq_none_iff

theorem Disjoint.symm {left right : Fragment} (disjoint : left.Disjoint right) :
    right.Disjoint left :=
  fun part key left_mem right_mem => disjoint part key right_mem left_mem

/-- Fragments are compatible just when any two of them are. -/
theorem compatible_iff_pairwise {fragments : List Fragment} :
    Compatible fragments ↔ fragments.Pairwise Disjoint := by
  have section_iff (part : Section) : (Entries.keys (gather fragments part)).Nodup ↔
      fragments.Pairwise fun left right =>
        ∀ key ∈ (right.entries part).keys, key ∉ (left.entries part).keys := by
    have keys_nodup (fragment : Fragment) : (fragment.entries part).keys.Nodup :=
      (fragment.entries part).nodup
    rw [keys_gather, List.nodup_flatMap, and_iff_right fun fragment _ => keys_nodup fragment]
    exact List.Pairwise.iff fun left right => List.disjoint_right
  simp only [Compatible, section_iff, List.pairwise_iff_getElem]
  exact ⟨fun apart left right left_lt right_lt before part =>
      apart part left right left_lt right_lt before,
    fun apart part left right left_lt right_lt before =>
      apart left right left_lt right_lt before part⟩

theorem mergeAll_isOk_iff {fragments : List Fragment} :
    (∃ merged, mergeAll fragments = .ok merged) ↔ fragments.Pairwise Disjoint := by
  simp only [mergeAll_eq_ok_iff, exists_and_left, exists_eq, and_true, compatible_iff_pairwise]

theorem merge_empty (base : Fragment) : base.merge empty = .ok base := by
  have disjoint : base.Disjoint empty := fun part key mem => by
    cases part <;> cases mem
  obtain ⟨merged, merge_eq, entries_eq, policies_eq⟩ := merge_of_disjoint disjoint
  have entries_empty (part : Section) : (empty.entries part).entries = [] := by
    cases part <;> rfl
  have merged_eq : merged = base :=
    ext_entries (fun part => OrderedMap.ext (by rw [entries_eq, entries_empty, List.append_nil]))
      (policies_eq.trans (List.append_nil _))
  rw [merge_eq, merged_eq]

/-- Fragments without content may be left out, wherever they stand. -/
theorem mergeAll_filter_ne_empty (fragments : List Fragment) :
    mergeAll (fragments.filter (· ≠ empty)) = mergeAll fragments := by
  suffices onto : ∀ base : Fragment,
      (fragments.filter (· ≠ empty)).foldlM merge base = fragments.foldlM merge base by
    exact onto empty
  induction fragments with
  | nil => exact fun base => rfl
  | cons fragment rest ih =>
      intro base
      by_cases blank : fragment = empty
      · rw [List.filter_cons_of_neg (by simpa using blank), List.foldlM_cons, blank, merge_empty]
        exact ih base
      · rw [List.filter_cons_of_pos (by simpa using blank), List.foldlM_cons, List.foldlM_cons]
        exact bind_congr ih

theorem compatible_append {front back : List Fragment} :
    Compatible (front ++ back) ↔
      Compatible front ∧ Compatible back ∧ (joined front).Disjoint (joined back) := by
  have mem_joined (fragments : List Fragment) (part : Section) (key : String) :
      key ∈ ((joined fragments).entries part).keys ↔
        key ∈ Entries.keys (gather fragments part) := by
    rw [entries_joined, OrderedMap.mem_keys_ofList]
  simp only [Compatible, Disjoint, mem_joined, gather_append, Entries.keys_append,
    List.nodup_append', forall_and]
  refine and_congr_right fun _ => and_congr_right fun _ => forall_congr' fun part => ?_
  exact ⟨fun apart key back_mem front_mem => apart front_mem back_mem,
    fun apart key front_mem back_mem => apart key back_mem front_mem⟩

theorem merge_joined {front back : List Fragment} (compatible : Compatible (front ++ back)) :
    (joined front).merge (joined back) = .ok (joined (front ++ back)) := by
  obtain ⟨front_compatible, back_compatible, disjoint⟩ := compatible_append.mp compatible
  obtain ⟨merged, merge_eq, entries_eq, policies_eq⟩ := merge_of_disjoint disjoint
  rw [merge_eq, Except.ok.injEq]
  refine ext_entries (fun part => OrderedMap.ext ?_) ?_
  · rw [entries_eq, entries_joined, entries_joined, entries_joined,
      OrderedMap.entries_ofList (front_compatible part),
      OrderedMap.entries_ofList (back_compatible part),
      OrderedMap.entries_ofList (compatible part), gather_append]
  · rw [policies_eq, policies_joined, policies_joined, policies_joined, List.flatMap_append]

theorem merge_isOk_iff {base incoming : Fragment} :
    (∃ merged, base.merge incoming = .ok merged) ↔ base.Disjoint incoming := by
  constructor
  · rintro ⟨merged, merge_ok⟩
    by_contra shared
    obtain ⟨part, key, failed⟩ := merge_of_not_disjoint shared
    rw [merge_ok] at failed
    cases failed
  · intro disjoint
    obtain ⟨merged, merge_ok, -⟩ := merge_of_disjoint disjoint
    exact ⟨merged, merge_ok⟩

/-- A list of fragments may be cut anywhere and its two parts merged apart. -/
theorem mergeAll_append_eq_ok_iff {front back : List Fragment} {merged : Fragment} :
    mergeAll (front ++ back) = .ok merged ↔
      ∃ left right, mergeAll front = .ok left ∧ mergeAll back = .ok right ∧
        left.merge right = .ok merged := by
  simp only [mergeAll_eq_ok_iff]
  constructor
  · rintro ⟨compatible, rfl⟩
    obtain ⟨front_compatible, back_compatible, -⟩ := compatible_append.mp compatible
    exact ⟨_, _, ⟨front_compatible, rfl⟩, ⟨back_compatible, rfl⟩, merge_joined compatible⟩
  · rintro ⟨left, right, ⟨front_compatible, rfl⟩, ⟨back_compatible, rfl⟩, merge_ok⟩
    have disjoint := merge_isOk_iff.mp ⟨merged, merge_ok⟩
    have compatible := compatible_append.mpr ⟨front_compatible, back_compatible, disjoint⟩
    rw [merge_joined compatible, Except.ok.injEq] at merge_ok
    exact ⟨compatible, merge_ok.symm⟩

theorem find?_joined_of_perm {fragments permuted : List Fragment}
    (perm : fragments.Perm permuted) (compatible : Compatible fragments) (part : Section)
    (key : String) :
    ((joined fragments).entries part).find? key = ((joined permuted).entries part).find? key := by
  rw [entries_joined, entries_joined]
  exact OrderedMap.find?_ofList_perm (perm.flatMap_right _) (compatible part) key

/-- Merging is a partial commutative sum of fragments. It is defined just when no two fragments
share a key of a section. Empty fragments may stand anywhere, the list may be cut anywhere, and in
any other order it is defined as well, binds every key alike, and has the policies in that order. -/
theorem mergeAll_partial_sum (fragments : List Fragment) :
    ((∃ merged, mergeAll fragments = .ok merged) ↔ fragments.Pairwise Disjoint) ∧
    (∀ padded : List Fragment, padded.filter (· ≠ empty) = fragments.filter (· ≠ empty) →
      mergeAll padded = mergeAll fragments) ∧
    (∀ front back merged, fragments = front ++ back →
      (mergeAll fragments = .ok merged ↔
        ∃ left right, mergeAll front = .ok left ∧ mergeAll back = .ok right ∧
          left.merge right = .ok merged)) ∧
    (∀ permuted, fragments.Perm permuted →
      ((∃ merged, mergeAll fragments = .ok merged) ↔ ∃ other, mergeAll permuted = .ok other) ∧
      ∀ merged other, mergeAll fragments = .ok merged → mergeAll permuted = .ok other →
        (∀ part key, (merged.entries part).find? key = (other.entries part).find? key) ∧
        merged.policies = fragments.flatMap policies ∧
        other.policies = permuted.flatMap policies) := by
  refine ⟨mergeAll_isOk_iff, fun padded same => ?_, ?_, fun permuted perm => ⟨?_, ?_⟩⟩
  · rw [← mergeAll_filter_ne_empty, same, mergeAll_filter_ne_empty]
  · rintro front back merged rfl
    exact mergeAll_append_eq_ok_iff
  · rw [mergeAll_isOk_iff, mergeAll_isOk_iff]
    exact perm.pairwise_iff Disjoint.symm
  · intro merged other merged_ok other_ok
    obtain ⟨compatible, rfl⟩ := mergeAll_eq_ok_iff.mp merged_ok
    obtain ⟨-, rfl⟩ := mergeAll_eq_ok_iff.mp other_ok
    exact ⟨find?_joined_of_perm perm compatible, policies_joined _, policies_joined _⟩

/-- Two fragments that have one key in different sections. -/
def crossed : List Fragment :=
  [
    { parameters := .ofList [("report", "first")], policies := ["first"] },
    { resources := .ofList [("report", "second")], policies := ["second"] }
  ]

theorem crossed_mergeAll : ∃ merged other,
    mergeAll ([empty] ++ crossed ++ [empty, empty]) = .ok merged ∧
    mergeAll crossed.reverse = .ok other ∧ mergeAll (crossed ++ crossed) ≠ .ok merged ∧
    (∀ part key, (merged.entries part).find? key = (other.entries part).find? key) ∧
    merged.policies = ["first", "second"] ∧ other.policies = ["second", "first"] := by
  obtain ⟨defined_iff, padded_eq, -, permuted⟩ := mergeAll_partial_sum crossed
  obtain ⟨reversed_iff, same⟩ := permuted crossed.reverse (List.reverse_perm crossed).symm
  obtain ⟨merged, merged_ok⟩ := defined_iff.mpr (by decide)
  obtain ⟨other, other_ok⟩ := reversed_iff.mp ⟨merged, merged_ok⟩
  obtain ⟨agree, merged_policies, other_policies⟩ := same merged other merged_ok other_ok
  refine ⟨merged, other, ?_, other_ok, ?_, agree, merged_policies, other_policies⟩
  · rw [padded_eq _ (by decide), merged_ok]
  · intro repeated_ok
    have apart := (mergeAll_partial_sum (crossed ++ crossed)).1.mp ⟨merged, repeated_ok⟩
    exact absurd apart (by decide)

end Fragment
end LambdaStack

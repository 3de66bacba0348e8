import LambdaStack.OrderedMap
import Mathlib.Data.List.Induction
import Mathlib.Data.List.Nodup

/-!
# Maps made of lists of entries

A map made of a list of entries holds entries of that list only, has the keys of that list, and is
that very list when no key occurs twice in it. Replacing the value of a key that is there keeps all
other entries where they are.
-/

namespace LambdaStack
namespace Entries

universe u

variable {α : Type u}

theorem mem_keys {key : String} {entries : List (String × α)} :
    key ∈ keys entries ↔ ∃ value, (key, value) ∈ entries := by
  simp [keys]

theorem mem_keys_of_mem {key : String} {value : α} {entries : List (String × α)}
    (mem : (key, value) ∈ entries) : key ∈ keys entries :=
  mem_keys.mpr ⟨value, mem⟩

theorem insert_of_not_mem {key : String} (value : α) {entries : List (String × α)}
    (absent : key ∉ keys entries) : insert key value entries = entries ++ [(key, value)] := by
  induction entries with
  | nil => rfl
  | cons entry rest ih =>
      simp only [keys_cons, List.mem_cons, not_or] at absent
      simp [insert, ih absent.2, Ne.symm absent.1]

theorem not_mem_keys_of_nodup {entry : String × α} {front back : List (String × α)}
    (nodup : (keys (front ++ entry :: back)).Nodup) : entry.1 ∉ keys front := by
  intro mem
  rw [keys_append, List.nodup_append] at nodup
  exact nodup.2.2 entry.1 mem entry.1 (by simp) rfl

theorem insert_append_cons {key : String} {front : List (String × α)} (value old : α)
    (back : List (String × α)) (absent : key ∉ keys front) :
    insert key value (front ++ (key, old) :: back) = front ++ (key, value) :: back := by
  induction front with
  | nil => simp [insert]
  | cons entry rest ih =>
      simp only [keys_cons, List.mem_cons, not_or] at absent
      simp [insert, ih absent.2, Ne.symm absent.1]

theorem mem_insert {key : String} {value : α} {entry : String × α} {entries : List (String × α)}
    (mem : entry ∈ insert key value entries) : entry = (key, value) ∨ entry ∈ entries := by
  induction entries with
  | nil => simpa [insert] using mem
  | cons head rest ih =>
      by_cases same : head.1 = key
      · simp only [insert, if_pos same, List.mem_cons] at mem
        exact mem.imp_right (List.mem_cons_of_mem head)
      · simp only [insert, if_neg same, List.mem_cons] at mem
        rcases mem with rfl | later
        · exact .inr List.mem_cons_self
        · exact (ih later).imp_right (List.mem_cons_of_mem head)

theorem eq_of_mem_of_mem {entries : List (String × α)} (nodup : (keys entries).Nodup)
    {key : String} {left right : α} (left_mem : (key, left) ∈ entries)
    (right_mem : (key, right) ∈ entries) : left = right := by
  have same : (key, left) = (key, right) :=
    List.inj_on_of_nodup_map nodup left_mem right_mem rfl
  exact congrArg Prod.snd same

theorem mem_of_lookup {entries : List (String × α)} {key : String} {value : α}
    (found : entries.lookup key = some value) : (key, value) ∈ entries := by
  obtain ⟨front, back, rfl, -⟩ := List.lookup_eq_some_iff.mp found
  simp

theorem lookup_of_mem {entries : List (String × α)} (nodup : (keys entries).Nodup)
    {key : String} {value : α} (mem : (key, value) ∈ entries) :
    entries.lookup key = some value := by
  have bound : (entries.lookup key).isSome := by
    rw [List.lookup_isSome_iff]
    exact ⟨(key, value), mem, by simp⟩
  obtain ⟨found, lookup_eq⟩ := Option.isSome_iff_exists.mp bound
  rw [lookup_eq, eq_of_mem_of_mem nodup (mem_of_lookup lookup_eq) mem]

end Entries

namespace OrderedMap

universe u

variable {α : Type u}

theorem find?_eq_some_iff {map : OrderedMap α} {key : String} {value : α} :
    map.find? key = some value ↔ (key, value) ∈ map.entries :=
  ⟨Entries.mem_of_lookup, Entries.lookup_of_mem map.nodup⟩

theorem contains_iff {map : OrderedMap α} {key : String} :
    map.contains key = true ↔ key ∈ map.keys := by
  simp [contains]

@[simp]
theorem entries_emptyCollection : (∅ : OrderedMap α).entries = [] := rfl

@[simp]
theorem entries_ofList_singleton (entry : String × α) : (ofList [entry]).entries = [entry] := rfl

theorem ofList_concat (entries : List (String × α)) (entry : String × α) :
    ofList (entries ++ [entry]) = (ofList entries).insert entry.1 entry.2 := by
  simp [ofList, insertAll]

theorem insertAll_ofList (front back : List (String × α)) :
    (ofList front).insertAll back = ofList (front ++ back) := by
  simp [ofList, insertAll]

theorem mem_keys_insert {map : OrderedMap α} {key other : String} {value : α} :
    other ∈ (map.insert key value).keys ↔ other ∈ map.keys ∨ other = key := by
  rw [keys_insert]
  split
  next bound =>
    exact ⟨.inl, fun mem => mem.elim id fun same => same ▸ bound⟩
  next => simp

theorem mem_keys_ofList {key : String} {entries : List (String × α)} :
    key ∈ (ofList entries).keys ↔ key ∈ Entries.keys entries := by
  induction entries using List.reverseRecOn with
  | nil => rfl
  | append_singleton front entry ih =>
      rw [ofList_concat, mem_keys_insert, ih]
      simp

theorem mem_of_mem_ofList {entry : String × α} {entries : List (String × α)}
    (mem : entry ∈ (ofList entries).entries) : entry ∈ entries := by
  induction entries using List.reverseRecOn with
  | nil => exact mem
  | append_singleton front last ih =>
      rw [ofList_concat] at mem
      rcases Entries.mem_insert mem with rfl | earlier
      · simp
      · exact List.mem_append_left _ (ih earlier)

theorem entries_ofList {entries : List (String × α)} (nodup : (Entries.keys entries).Nodup) :
    (ofList entries).entries = entries := by
  induction entries using List.reverseRecOn with
  | nil => rfl
  | append_singleton front last ih =>
      rw [Entries.keys_append, List.nodup_append] at nodup
      obtain ⟨front_nodup, -, apart⟩ := nodup
      have absent : last.1 ∉ (ofList front).keys := fun mem =>
        apart last.1 (mem_keys_ofList.mp mem) last.1 (by simp) rfl
      rw [ofList_concat]
      change Entries.insert last.1 last.2 (ofList front).entries = _
      rw [Entries.insert_of_not_mem _ absent, ih front_nodup]

theorem ofList_entries (map : OrderedMap α) : ofList map.entries = map :=
  OrderedMap.ext (entries_ofList map.nodup)

theorem keys_ofList {entries : List (String × α)} (nodup : (Entries.keys entries).Nodup) :
    (ofList entries).keys = Entries.keys entries := by
  rw [keys, entries_ofList nodup]

/-- Binding entries one after the other leaves each key at the place of its first occurrence. -/
theorem keys_ofList_eq_eraseDups (entries : List (String × α)) :
    (ofList entries).keys = (Entries.keys entries).eraseDups := by
  induction entries using List.reverseRecOn with
  | nil => rfl
  | append_singleton front entry ih =>
      rw [ofList_concat, keys_insert, ih, Entries.keys_append, List.eraseDups_append]
      by_cases bound : entry.1 ∈ Entries.keys front
      · simp [bound, List.removeAll]
      · simp [bound, List.removeAll, List.eraseDups_cons]

/-- A map whose values follow from their keys is known by its keys. -/
theorem entries_eq_map_keys (map : OrderedMap α) {f : String → α}
    (value_eq : ∀ key value, (key, value) ∈ map.entries → value = f key) :
    map.entries = map.keys.map fun key => (key, f key) := by
  have entry_eq : ∀ entry ∈ map.entries, entry = (entry.1, f entry.1) :=
    fun entry mem => Prod.ext rfl (value_eq entry.1 entry.2 mem)
  rw [keys, Entries.keys, List.map_map]
  exact (List.map_id _).symm.trans (List.map_congr_left entry_eq)

theorem find?_ofList_of_mem {entries : List (String × α)} (nodup : (Entries.keys entries).Nodup)
    {key : String} {value : α} (mem : (key, value) ∈ entries) :
    (ofList entries).find? key = some value := by
  rw [find?_eq_some_iff, entries_ofList nodup]
  exact mem

/-- The last entries of a key decide its value. -/
theorem find?_ofList_append (front back : List (String × α)) (key : String) :
    (ofList (front ++ back)).find? key =
      ((ofList back).find? key).or ((ofList front).find? key) := by
  induction back using List.reverseRecOn with
  | nil =>
      have empty_find : (ofList ([] : List (String × α))).find? key = none := rfl
      rw [List.append_nil, empty_find, Option.none_or]
  | append_singleton back last ih =>
      rw [← List.append_assoc, ofList_concat, ofList_concat, find?_insert, find?_insert, ih]
      split <;> rfl

theorem find?_ofList_append_of_mem {front back : List (String × α)} {key : String} {value : α}
    (mem : key ∈ Entries.keys back)
    (agree : ∀ other, (key, other) ∈ back → other = value) :
    (ofList (front ++ back)).find? key = some value := by
  obtain ⟨last, last_mem⟩ := Entries.mem_keys.mp (mem_keys_ofList.mpr mem)
  rw [find?_ofList_append, find?_eq_some_iff.mpr last_mem, Option.some_or,
    agree last (mem_of_mem_ofList last_mem)]

theorem find?_ofList_perm {left right : List (String × α)} (perm : left.Perm right)
    (nodup : (Entries.keys left).Nodup) (key : String) :
    (ofList left).find? key = (ofList right).find? key := by
  have right_nodup : (Entries.keys right).Nodup := (perm.map Prod.fst).nodup_iff.mp nodup
  ext value
  rw [find?_eq_some_iff, find?_eq_some_iff, entries_ofList nodup, entries_ofList right_nodup,
    perm.mem_iff]

/-- Maps that bind every key alike have the same entries, up to their order. -/
theorem perm_entries {left right : OrderedMap α}
    (agree : ∀ key, left.find? key = right.find? key) : left.entries.Perm right.entries := by
  have left_nodup : left.entries.Nodup := List.Nodup.of_map Prod.fst left.nodup
  have right_nodup : right.entries.Nodup := List.Nodup.of_map Prod.fst right.nodup
  refine (List.perm_ext_iff_of_nodup left_nodup right_nodup).mpr fun (key, value) => ?_
  rw [← find?_eq_some_iff, ← find?_eq_some_iff, agree]

theorem perm_entries_ofList {left right : List (String × α)} (perm : left.Perm right)
    (nodup : (Entries.keys left).Nodup) :
    (ofList left).entries.Perm (ofList right).entries :=
  perm_entries (find?_ofList_perm perm nodup)

theorem insert_ofList {front back : List (String × α)} {key : String} {old : α} (value : α)
    (nodup : (Entries.keys (front ++ (key, old) :: back)).Nodup) :
    (ofList (front ++ (key, old) :: back)).insert key value =
      ofList (front ++ (key, value) :: back) := by
  have absent : key ∉ Entries.keys front := Entries.not_mem_keys_of_nodup nodup
  have replaced : (Entries.keys (front ++ (key, value) :: back)).Nodup := by
    simpa [Entries.keys] using nodup
  apply ext
  rw [entries_ofList replaced]
  change Entries.insert key value (ofList (front ++ (key, old) :: back)).entries = _
  rw [entries_ofList nodup, Entries.insert_append_cons value old back absent]

end OrderedMap
end LambdaStack

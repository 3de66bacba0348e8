import LambdaStack.Proofs.Document.Regrouping

/-!
# Merging entry by entry

Two fragments merge as if the entries of the second were bound in the first one after the other,
section by section, none of which may be bound already. What was added on the way never stands in
the way of a later entry. So merging fails just for the first key that was there from the start, and
else puts the entries of the second fragment after those of the first.
-/

namespace LambdaStack

namespace Fragment

/-- The entries of one section of a fragment, each with that section. -/
def listSection (fragment : Fragment) (part : Section) : List (Section × String × Json) :=
  (fragment.entries part).entries.map fun entry => (part, entry)

/-- All entries of a fragment, section by section. -/
def listing (fragment : Fragment) : List (Section × String × Json) :=
  Section.all.flatMap fragment.listSection

/-- Bind listed entries one after the other, none of which may be bound already. -/
def insertListing (base : Fragment) (listed : List (Section × String × Json)) :
    Except Failure Fragment :=
  listed.foldlM (fun fragment entry => fragment.insertNew entry.1 entry.2.1 entry.2.2) base

/-- The listed entries of one section. -/
def ofSection (part : Section) (listed : List (Section × String × Json)) : List (String × Json) :=
  listed.filterMap fun entry => if entry.1 = part then some entry.2 else none

theorem mem_ofSection {part : Section} {listed : List (Section × String × Json)}
    {entry : String × Json} : entry ∈ ofSection part listed ↔ (part, entry) ∈ listed := by
  simp only [ofSection, List.mem_filterMap, Option.ite_none_right_eq_some, Option.some.injEq]
  constructor
  · rintro ⟨⟨other, found⟩, mem, rfl, rfl⟩
    exact mem
  · exact fun mem => ⟨(part, entry), mem, rfl, rfl⟩

@[simp]
theorem ofSection_append (part : Section) (front back : List (Section × String × Json)) :
    ofSection part (front ++ back) = ofSection part front ++ ofSection part back :=
  List.filterMap_append

theorem ofSection_cons (part : Section) (entry : Section × String × Json)
    (rest : List (Section × String × Json)) :
    ofSection part (entry :: rest) =
      (if part = entry.1 then [entry.2] else []) ++ ofSection part rest := by
  by_cases same : entry.1 = part
  · simp [ofSection, same]
  · simp [ofSection, same, Ne.symm same]

theorem ofSection_listSection (part other : Section) (fragment : Fragment) :
    ofSection part (fragment.listSection other) =
      if other = part then (fragment.entries other).entries else [] := by
  rw [ofSection, listSection, List.filterMap_map]
  split
  next same => simp [same]
  next differs => simp [differs]

theorem ofSection_listing (part : Section) (fragment : Fragment) :
    ofSection part fragment.listing = (fragment.entries part).entries := by
  rw [listing, ofSection, List.filterMap_flatMap]
  change (Section.all.flatMap fun other => ofSection part (fragment.listSection other)) = _
  simp only [ofSection_listSection]
  cases part <;> simp [Section.all]

/-- A new entry stands after those of its section, and nothing else changes. -/
theorem content_of_insertNew {base extended : Fragment} {part : Section} {key : String}
    {value : Json} (insert_ok : base.insertNew part key value = .ok extended) :
    (∀ other, (extended.entries other).entries =
      (base.entries other).entries ++ if other = part then [(key, value)] else []) ∧
    extended.policies = base.policies := by
  unfold insertNew at insert_ok
  split at insert_ok
  · cases insert_ok
  next unbound =>
    cases insert_ok
    refine ⟨fun other => ?_, rfl⟩
    rw [insert, withSection, entries_ofSections]
    by_cases same : other = part
    · have absent : key ∉ (base.entries part).keys := fun mem =>
        unbound (OrderedMap.contains_iff.mpr mem)
      rw [if_pos same, if_pos same, same]
      exact Entries.insert_of_not_mem value absent
    · rw [if_neg same, if_neg same, List.append_nil]

/-- As long as no section would bind a key twice, every listed entry is added. -/
theorem insertListing_of_nodup {base : Fragment} {listed : List (Section × String × Json)}
    (nodup : ∀ part,
      (Entries.keys ((base.entries part).entries ++ ofSection part listed)).Nodup) :
    ∃ extended, base.insertListing listed = .ok extended ∧
      (∀ part, (extended.entries part).entries =
        (base.entries part).entries ++ ofSection part listed) ∧
      extended.policies = base.policies := by
  -- A section and what is still to come for it are the same entries before and after each step.
  induction listed generalizing base with
  | nil => exact ⟨base, rfl, fun part => by simp [ofSection], rfl⟩
  | cons entry rest ih =>
      obtain ⟨part, key, value⟩ := entry
      have absent : key ∉ (base.entries part).keys := by
        have part_nodup := nodup part
        rw [ofSection_cons, if_pos rfl, List.singleton_append] at part_nodup
        exact Entries.not_mem_keys_of_nodup part_nodup
      have step_ok := insertNew_of_not_mem value absent
      obtain ⟨step_entries, step_policies⟩ := content_of_insertNew step_ok
      have moved (other : Section) : (base.entries other).entries ++
          ofSection other ((part, key, value) :: rest) =
            ((base.insert part key value).entries other).entries ++ ofSection other rest := by
        rw [step_entries, ofSection_cons, List.append_assoc]
      obtain ⟨extended, rest_ok, entries_eq, policies_eq⟩ :=
        ih fun other => moved other ▸ nodup other
      refine ⟨extended, ?_, fun other => ?_, policies_eq.trans step_policies⟩
      · rw [insertListing, List.foldlM_cons, step_ok]
        exact rest_ok
      · rw [entries_eq, moved]

/-- The first listed entry whose key was bound from the start is refused. -/
theorem insertListing_of_bound {base : Fragment} {front back : List (Section × String × Json)}
    {part : Section} {key : String} {value : Json}
    (nodup : ∀ part, (Entries.keys ((base.entries part).entries ++ ofSection part front)).Nodup)
    (bound : key ∈ (base.entries part).keys) :
    base.insertListing (front ++ (part, key, value) :: back) =
      .error (.duplicateKey part.name key) := by
  obtain ⟨extended, front_ok, entries_eq, -⟩ := insertListing_of_nodup nodup
  have still_bound : key ∈ (extended.entries part).keys := by
    rw [OrderedMap.keys, entries_eq, Entries.keys_append]
    exact List.mem_append_left _ bound
  rw [insertListing] at front_ok
  rw [insertListing, List.foldlM_append, front_ok]
  change List.foldlM _ extended _ = _
  rw [List.foldlM_cons, insertNew_of_mem value still_bound]
  rfl

/-- The first key of the second fragment, section by section, that the first one has in the same
section. -/
structure FirstShared (base incoming : Fragment) (part : Section) (key : String) : Prop where
  /-- No section before its own has a key in common. -/
  sections : ∃ before after, Section.all = before ++ part :: after ∧
    ∀ earlier ∈ before, ∀ name ∈ (incoming.entries earlier).keys,
      name ∉ (base.entries earlier).keys
  /-- In its section no key before it is in common. -/
  keys : ∃ before after, (incoming.entries part).keys = before ++ key :: after ∧
    ∀ name ∈ before, name ∉ (base.entries part).keys
  /-- It is a key of the first fragment. -/
  bound : key ∈ (base.entries part).keys

/-- No entry that is listed before the first shared key has a key that is bound. -/
theorem FirstShared.split_listing {base incoming : Fragment} {part : Section} {key : String}
    (first : base.FirstShared incoming part key) :
    ∃ front value back, incoming.listing = front ++ (part, key, value) :: back ∧
      ∀ entry ∈ front, entry.2.1 ∉ (base.entries entry.1).keys := by
  obtain ⟨⟨before, after, all_eq, sections_apart⟩, ⟨names, later, keys_eq, names_apart⟩, -⟩ := first
  obtain ⟨earlier, rest, entries_eq, earlier_eq, rest_eq⟩ := List.map_eq_append_iff.mp keys_eq
  obtain ⟨⟨key, value⟩, back, rfl, rfl, -⟩ := List.map_eq_cons_iff.mp rest_eq
  refine ⟨before.flatMap incoming.listSection ++ earlier.map fun entry => (part, entry), value,
    (back.map fun entry => (part, entry)) ++ after.flatMap incoming.listSection, ?_,
    fun entry mem => ?_⟩
  · rw [listing, all_eq, List.flatMap_append, List.flatMap_cons, listSection, entries_eq]
    simp
  · rcases List.mem_append.mp mem with mem | mem
    · obtain ⟨other, other_mem, mem⟩ := List.mem_flatMap.mp mem
      obtain ⟨entry, entry_mem, rfl⟩ := List.mem_map.mp mem
      exact sections_apart other other_mem _ (List.mem_map_of_mem entry_mem)
    · obtain ⟨entry, entry_mem, rfl⟩ := List.mem_map.mp mem
      exact names_apart _ (earlier_eq ▸ List.mem_map_of_mem entry_mem)

/-- Merging fails where binding the entries one after the other does. -/
theorem FirstShared.insertListing {base incoming : Fragment} {part : Section} {key : String}
    (first : base.FirstShared incoming part key) :
    base.insertListing incoming.listing = .error (.duplicateKey part.name key) := by
  obtain ⟨front, value, back, listing_eq, unbound⟩ := first.split_listing
  rw [listing_eq]
  refine insertListing_of_bound (fun other => ?_) first.bound
  have front_nodup : (Entries.keys (ofSection other front)).Nodup := by
    have nodup := (incoming.entries other).nodup
    rw [← ofSection_listing, listing_eq, ofSection_append, Entries.keys_append] at nodup
    exact nodup.of_append_left
  rw [Entries.keys_append]
  refine List.nodup_append'.mpr ⟨(base.entries other).nodup, front_nodup, ?_⟩
  intro name base_mem front_mem
  obtain ⟨found, mem⟩ := Entries.mem_keys.mp front_mem
  exact unbound (other, name, found) (mem_ofSection.mp mem) base_mem

end Fragment
end LambdaStack

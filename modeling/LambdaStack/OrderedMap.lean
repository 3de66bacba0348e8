/-!
# Ordered maps

Finite maps from names that remember the order in which the names first arrived. The operations on
plain lists of entries come first, since the members of a JSON object are such a list; a map is a
list of entries in which no name occurs twice.
-/

namespace LambdaStack
namespace Entries

universe u

variable {α : Type u}

/-- The names of a list of entries. -/
def keys (entries : List (String × α)) : List String :=
  entries.map Prod.fst

/-- Bind a name: an existing entry keeps its place, a new one goes last. -/
def insert (key : String) (value : α) : List (String × α) → List (String × α)
  | [] => [(key, value)]
  | entry :: rest =>
    if entry.1 = key then (key, value) :: rest else entry :: insert key value rest

@[simp]
theorem keys_nil : keys ([] : List (String × α)) = [] := rfl

@[simp]
theorem keys_cons (entry : String × α) (rest : List (String × α)) :
    keys (entry :: rest) = entry.1 :: keys rest := rfl

@[simp]
theorem keys_append (left right : List (String × α)) :
    keys (left ++ right) = keys left ++ keys right := by
  simp [keys]

theorem keys_insert (key : String) (value : α) (entries : List (String × α)) :
    keys (insert key value entries) =
      if key ∈ keys entries then keys entries else keys entries ++ [key] := by
  induction entries with
  | nil => simp [insert]
  | cons entry rest ih =>
      by_cases same : entry.1 = key
      · simp [insert, same]
      · have other : ¬key = entry.1 := fun equal => same equal.symm
        simp only [insert, if_neg same, keys_cons, ih, List.mem_cons, other, false_or]
        split <;> simp

theorem nodup_keys_insert (key : String) (value : α) {entries : List (String × α)}
    (nodup : (keys entries).Nodup) : (keys (insert key value entries)).Nodup := by
  rw [keys_insert]
  split
  · exact nodup
  · next absent =>
      refine List.nodup_append.mpr ⟨nodup, by simp, ?_⟩
      intro left left_mem right right_mem equal
      simp only [List.mem_singleton] at right_mem
      exact absent (right_mem ▸ equal ▸ left_mem)

theorem lookup_insert (key other : String) (value : α) (entries : List (String × α)) :
    (insert key value entries).lookup other =
      if other = key then some value else entries.lookup other := by
  induction entries with
  | nil =>
      by_cases same : other = key
      · simp [insert, same]
      · have unequal : (other == key) = false := by simpa using same
        simp [insert, List.lookup_cons, same, unequal]
  | cons entry rest ih =>
      obtain ⟨name, bound⟩ := entry
      by_cases same : name = key
      · subst same
        by_cases equal : other = name
        · simp [insert, equal]
        · have unequal : (other == name) = false := by simpa using equal
          simp [insert, List.lookup_cons, equal, unequal]
      · by_cases equal : other = name
        · subst equal
          simp [insert, same]
        · have unequal : (other == name) = false := by simpa using equal
          simp [insert, same, List.lookup_cons, unequal, ih]

end Entries

universe u v

/-- A finite map that remembers the order in which its keys first arrived. -/
structure OrderedMap (α : Type u) where
  /-- Keys and values in order of arrival. -/
  entries : List (String × α)
  /-- No key occurs twice. -/
  nodup : (Entries.keys entries).Nodup
  deriving DecidableEq

namespace OrderedMap

variable {α : Type u} {β : Type v}

/-- The map without entries. -/
def empty : OrderedMap α :=
  ⟨[], List.nodup_nil⟩

instance : EmptyCollection (OrderedMap α) := ⟨empty⟩

instance : Inhabited (OrderedMap α) := ⟨empty⟩

/-- Keys in order of arrival. -/
def keys (map : OrderedMap α) : List String :=
  Entries.keys map.entries

/-- Number of entries. -/
def size (map : OrderedMap α) : Nat :=
  map.entries.length

/-- The map has no entries. -/
def isEmpty (map : OrderedMap α) : Bool :=
  map.entries.isEmpty

/-- Value bound to a key. -/
def find? (map : OrderedMap α) (key : String) : Option α :=
  map.entries.lookup key

/-- A key is bound. -/
def contains (map : OrderedMap α) (key : String) : Bool :=
  map.keys.contains key

/-- Bind a key: an existing one keeps its place, a new one goes last. -/
def insert (map : OrderedMap α) (key : String) (value : α) : OrderedMap α :=
  ⟨Entries.insert key value map.entries, Entries.nodup_keys_insert key value map.nodup⟩

/-- Bind the given entries one after the other. -/
def insertAll (map : OrderedMap α) (entries : List (String × α)) : OrderedMap α :=
  entries.foldl (fun map entry => map.insert entry.1 entry.2) map

/-- The map that binds the given entries one after the other. -/
def ofList (entries : List (String × α)) : OrderedMap α :=
  empty.insertAll entries

/-- Image of every value. -/
def map (f : α → β) (source : OrderedMap α) : OrderedMap β where
  entries := source.entries.map fun entry => (entry.1, f entry.2)
  nodup := by
    have keys_eq : Entries.keys (source.entries.map fun entry => (entry.1, f entry.2)) =
        Entries.keys source.entries := by simp [Entries.keys]
    exact keys_eq ▸ source.nodup

/-- First key of the second map that the first map binds as well. -/
def sharedKey? (base incoming : OrderedMap α) : Option String :=
  incoming.keys.find? base.contains

theorem disjoint_of_sharedKey?_eq_none {base incoming : OrderedMap α}
    (none_shared : base.sharedKey? incoming = none) :
    ∀ key ∈ incoming.keys, key ∉ base.keys := by
  intro key key_mem base_mem
  have absent := List.find?_eq_none.mp none_shared key key_mem
  simp [contains, base_mem] at absent

/-- Entries of the first map followed by those of the second, which shares no key with it. -/
def append (base incoming : OrderedMap α) (none_shared : base.sharedKey? incoming = none) :
    OrderedMap α where
  entries := base.entries ++ incoming.entries
  nodup := by
    rw [Entries.keys_append]
    refine List.nodup_append.mpr ⟨base.nodup, incoming.nodup, ?_⟩
    intro left left_mem right right_mem equal
    exact disjoint_of_sharedKey?_eq_none none_shared right right_mem (equal ▸ left_mem)

theorem ext {left right : OrderedMap α} (equal : left.entries = right.entries) : left = right := by
  cases left
  cases right
  cases equal
  rfl

@[simp]
theorem entries_append (base incoming : OrderedMap α)
    (none_shared : base.sharedKey? incoming = none) :
    (base.append incoming none_shared).entries = base.entries ++ incoming.entries := rfl

theorem keys_insert (map : OrderedMap α) (key : String) (value : α) :
    (map.insert key value).keys = if key ∈ map.keys then map.keys else map.keys ++ [key] :=
  Entries.keys_insert key value map.entries

theorem find?_insert (map : OrderedMap α) (key other : String) (value : α) :
    (map.insert key value).find? other = if other = key then some value else map.find? other :=
  Entries.lookup_insert key other value map.entries

end OrderedMap
end LambdaStack

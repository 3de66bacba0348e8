import LambdaStack.Proofs.Files.FileTree
import LambdaStack.Proofs.Files.Path
import Mathlib.Data.List.Induction

/-!
# Places that paths spell

Whatever directories there are, the text of a path spells one place. The path is followed to that
place when it leads through directories only. As directories are made on the way, a path comes to
lead to its place, and what is there already is found.
-/

namespace LambdaStack
namespace FileTree

/-- One piece of a path, taken by its text alone. -/
def walkStep (place : List String) (piece : String) : List String :=
  if piece = "." then place
  else if piece = ".." then place.dropLast
  else place ++ [piece]

/-- The place that pieces of a path spell from another one. A `..` takes back the name before it,
whatever there is under that name. -/
def walk (place : List String) (pieces : List String) : List String :=
  pieces.foldl walkStep place

/-- Where a path starts. -/
def origin (tree : FileTree) (path : String) : List String :=
  if Path.isAbsolute path then [] else tree.workingDirectory

/-- The place that a path spells. -/
def placeOf (tree : FileTree) (path : String) : List String :=
  walk (tree.origin path) (steps path)

/-- There is an entry at the place that a path spells. -/
def occupied (tree : FileTree) (path : String) : Bool :=
  (tree.find? (tree.placeOf path)).isSome

/-- A path leads through a place on the way to its own, or ends there. -/
def LeadsThrough (tree : FileTree) (path : String) (place : List String) : Prop :=
  ∃ front, front <+: steps path ∧ place = walk (tree.origin path) front

section Walks

variable {tree : FileTree} {place target : List String}

theorem walk_append (place front back : List String) :
    walk place (front ++ back) = walk (walk place front) back :=
  List.foldl_append

theorem walkStep_of_named {piece : String} (not_dot : piece ≠ ".") (not_dots : piece ≠ "..") :
    walkStep place piece = place ++ [piece] := by
  rw [walkStep, if_neg not_dot, if_neg not_dots]

theorem walk_of_inert {pieces : List String} (inert : ∀ piece ∈ pieces, piece = ".") :
    walk place pieces = place := by
  induction pieces with
  | nil => rfl
  | cons piece rest ih =>
      obtain ⟨rfl, later⟩ := List.forall_mem_cons.mp inert
      exact ih later

/-- Without a `..`, pieces lead further down. -/
theorem prefix_walk {pieces : List String} (descends : ".." ∉ pieces) :
    place <+: walk place pieces := by
  induction pieces generalizing place with
  | nil => exact List.prefix_refl place
  | cons piece rest ih =>
      rw [List.mem_cons, not_or] at descends
      have first : place <+: walkStep place piece := by
        rw [walkStep, if_neg (Ne.symm descends.1)]
        split
        · exact List.prefix_refl place
        · exact List.prefix_append place [piece]
      exact first.trans (ih descends.2)

theorem follow_cons_eq_ok_iff {piece : String} {rest : List String} :
    tree.follow place (piece :: rest) = .ok target ↔
      tree.find? place = some .directory ∧ piece.utf8ByteSize ≤ nameLimit ∧
        tree.follow (walkStep place piece) rest = .ok target := by
  rw [FileTree.follow, walkStep]
  cases tree.find? place with
  | none => simp
  | some entry =>
      cases entry with
      | text => simp
      | binary => simp
      | directory =>
          by_cases dot : piece = "."
          · simp [dot, show ".".utf8ByteSize ≤ nameLimit by decide]
          · by_cases dots : piece = ".."
            · simp [dots, show "..".utf8ByteSize ≤ nameLimit by decide]
            · by_cases long : nameLimit < piece.utf8ByteSize
              · simp [dot, dots, long, Nat.not_le.mpr long]
              · simp [dot, dots, long, Nat.not_lt.mp long]

/-- Pieces are followed when they lead through directories, to the place that they spell. -/
theorem follow_eq_ok_iff {pieces : List String} :
    tree.follow place pieces = .ok target ↔
      (∀ front piece back, pieces = front ++ piece :: back →
        tree.find? (walk place front) = some .directory ∧ piece.utf8ByteSize ≤ nameLimit) ∧
      target = walk place pieces := by
  induction pieces generalizing place with
  | nil => simp [FileTree.follow, walk, eq_comm]
  | cons piece rest ih =>
      rw [follow_cons_eq_ok_iff, ih]
      constructor
      · rintro ⟨directory, fits, passable, target_eq⟩
        refine ⟨fun front next back pieces_eq => ?_, target_eq⟩
        rcases List.cons_eq_append_iff.mp pieces_eq with ⟨rfl, next_eq⟩ | ⟨front, rfl, rest_eq⟩
        · cases next_eq
          exact ⟨directory, fits⟩
        · exact passable front next back rest_eq
      · rintro ⟨passable, target_eq⟩
        refine ⟨(passable [] piece rest rfl).1, (passable [] piece rest rfl).2, ?_, target_eq⟩
        rintro front next back rfl
        exact passable (piece :: front) next back rfl

end Walks

/-- A path is one that can be followed, and it leads to its place through directories. -/
structure Reaches (tree : FileTree) (path : String) : Prop where
  /-- The path is not empty. -/
  nonempty : path ≠ ""
  /-- It has no character that no path has. -/
  no_nul : path.toList.contains '\x00' = false
  /-- It is not too long. -/
  short : path.utf8ByteSize ≤ pathLimit
  /-- It leads through directories, by names that are not too long. -/
  passable : ∀ front piece back, steps path = front ++ piece :: back →
    tree.find? (walk (tree.origin path) front) = some .directory ∧ piece.utf8ByteSize ≤ nameLimit

section Resolution

variable {tree : FileTree} {path : String}

theorem resolve_eq_ok_iff {place : List String} :
    tree.resolve path = .ok place ↔ tree.Reaches path ∧ place = tree.placeOf path := by
  have resolve_eq : tree.resolve path =
      if path = "" then .error .notFound
      else if path.toList.contains '\x00' then .error .invalidPath
      else if pathLimit < path.utf8ByteSize then .error .nameTooLong
      else tree.follow (tree.origin path) (steps path) := by
    rw [FileTree.resolve, origin]
    split_ifs <;> rfl
  rw [resolve_eq]
  constructor
  · intro resolve_ok
    split_ifs at resolve_ok with empty nul long
    obtain ⟨passable, place_eq⟩ := follow_eq_ok_iff.mp resolve_ok
    exact ⟨⟨empty, by simpa using nul, Nat.not_lt.mp long, passable⟩, place_eq⟩
  · rintro ⟨reaches, rfl⟩
    rw [if_neg reaches.nonempty, reaches.no_nul, if_neg Bool.false_ne_true,
      if_neg (Nat.not_lt.mpr reaches.short)]
    exact follow_eq_ok_iff.mpr ⟨reaches.passable, rfl⟩

theorem entryAt?_of_reaches (reaches : tree.Reaches path) :
    tree.entryAt? path = tree.find? (tree.placeOf path) := by
  rw [entryAt?, resolve_eq_ok_iff.mpr ⟨reaches, rfl⟩]

theorem isSome_entryAt?_of_reaches (reaches : tree.Reaches path) :
    (tree.entryAt? path).isSome = tree.occupied path := by
  rw [entryAt?_of_reaches reaches, occupied]

theorem reaches_of_isSome (present : (tree.entryAt? path).isSome = true) : tree.Reaches path := by
  rw [entryAt?] at present
  split at present
  next resolve_ok => exact (resolve_eq_ok_iff.mp resolve_ok).1
  · cases present

end Resolution

section Joined

/-- A piece that names an entry of a directory. -/
structure IsName (piece : String) : Prop where
  /-- It is not empty. -/
  nonempty : piece ≠ ""
  /-- It does not stand for the directory itself. -/
  not_dot : piece ≠ "."
  /-- It does not stand for the parent of the directory. -/
  not_dots : piece ≠ ".."
  /-- It has no separator. -/
  simple : '/' ∉ piece.toList

variable {tree : FileTree} {base name : String}

theorem steps_eq (path : String) : ∃ back, (∀ piece ∈ back, piece = ".") ∧
    steps path = (Path.pieces path).filter (· ≠ "") ++ back := by
  refine ⟨_, ?_, rfl⟩
  split <;> simp

theorem steps_join (is_name : IsName name) (base : String) :
    steps (Path.join base name) = (Path.pieces base).filter (· ≠ "") ++ [name] := by
  obtain ⟨before, pieces_eq⟩ := Path.pieces_join base is_name.simple
  have ends : (Path.pieces (Path.join base name)).getLast? ≠ some "" := by
    simp [pieces_eq, is_name.nonempty]
  rw [steps, Path.filter_pieces_join base is_name.simple is_name.nonempty]
  simp [ends]

theorem origin_join (is_name : IsName name) (tree : FileTree) (base : String) :
    tree.origin (Path.join base name) = tree.origin base := by
  rw [origin, origin, Path.isAbsolute_join base is_name.simple]

theorem placeOf_join (is_name : IsName name) (tree : FileTree) (base : String) :
    tree.placeOf (Path.join base name) = tree.placeOf base ++ [name] := by
  obtain ⟨back, inert, steps_eq⟩ := steps_eq base
  rw [placeOf, placeOf, origin_join is_name, steps_join is_name, steps_eq, walk_append, walk_append,
    walk_of_inert inert]
  exact walkStep_of_named is_name.not_dot is_name.not_dots

end Joined

section Ways

variable {tree final : FileTree} {path : String} {place : List String}

theorem leadsThrough_placeOf (tree : FileTree) (path : String) :
    tree.LeadsThrough path (tree.placeOf path) :=
  ⟨steps path, List.prefix_refl _, rfl⟩

/-- The parents of a path are on the way to its place. -/
theorem leadsThrough_of_mem_parents {parent : String} (mem : parent ∈ Path.parents path) :
    tree.LeadsThrough path (tree.placeOf parent) := by
  obtain ⟨absolute_eq, rfl | ⟨shorter, named⟩⟩ := Path.exists_of_mem_parents mem
  · have absolute : Path.isAbsolute path = true := absolute_eq.symm
    refine ⟨[], List.nil_prefix, ?_⟩
    rw [origin, if_pos absolute]
    rfl
  · have steps_eq : steps parent = (Path.pieces parent).filter (· ≠ "") := by
      rw [steps, if_neg named, List.append_nil]
    refine ⟨steps parent, ?_, by rw [placeOf, origin, origin, absolute_eq]⟩
    rw [steps_eq]
    exact (shorter.filter _).trans (List.prefix_append _ _)

/-- All places on the way of a path that is followed are directories. -/
theorem Reaches.directory (reaches : tree.Reaches path) (through : tree.LeadsThrough path place) :
    tree.find? place = some .directory ∨ place = tree.placeOf path := by
  obtain ⟨front, ⟨back, steps_eq⟩, rfl⟩ := through
  cases back with
  | nil => exact .inr (by rw [placeOf, ← steps_eq, List.append_nil])
  | cons piece back => exact .inl (reaches.passable front piece back steps_eq.symm).1

theorem directory_of_leadsThrough (directory : tree.entryAt? path = some .directory)
    (through : tree.LeadsThrough path place) : tree.find? place = some .directory := by
  have reaches : tree.Reaches path := reaches_of_isSome (by rw [directory]; rfl)
  rcases reaches.directory through with found | rfl
  · exact found
  · rw [← entryAt?_of_reaches reaches, directory]

theorem Extends.origin (grown : final.Extends tree) (path : String) :
    final.origin path = tree.origin path := by
  rw [FileTree.origin, FileTree.origin, grown.workingDirectory]

theorem Extends.placeOf (grown : final.Extends tree) (path : String) :
    final.placeOf path = tree.placeOf path := by
  rw [FileTree.placeOf, FileTree.placeOf, grown.origin]

theorem Extends.reaches (grown : final.Extends tree) (reaches : tree.Reaches path) :
    final.Reaches path := by
  have resolve_ok := grown.resolve (resolve_eq_ok_iff.mpr ⟨reaches, rfl⟩)
  exact (resolve_eq_ok_iff.mp resolve_ok).1

theorem Extends.entryAt? (grown : final.Extends tree) {entry : FileEntry}
    (found : tree.entryAt? path = some entry) : final.entryAt? path = some entry := by
  have reaches : tree.Reaches path := reaches_of_isSome (by rw [found]; rfl)
  rw [entryAt?_of_reaches reaches] at found
  rw [entryAt?_of_reaches (grown.reaches reaches), grown.placeOf, grown.find? found]

theorem Extends.occupied (grown : final.Extends tree) (present : tree.occupied path = true) :
    final.occupied path = true := by
  obtain ⟨entry, found⟩ := Option.isSome_iff_exists.mp present
  rw [FileTree.occupied, grown.placeOf, grown.find? found]
  rfl

theorem Extends.leadsThrough_iff (grown : final.Extends tree) :
    final.LeadsThrough path place ↔ tree.LeadsThrough path place := by
  rw [LeadsThrough, LeadsThrough, grown.origin]

end Ways

section Anchors

/-- Whatever stands in a tree stands in a directory. -/
def WellFormed (tree : FileTree) : Prop :=
  ∀ (place : List String) (name : String), (tree.find? (place ++ [name])).isSome = true →
    tree.find? place = some .directory

/-- Each `..` of a path leads out of a directory that is there. -/
def Anchored (tree : FileTree) (path : String) : Prop :=
  ∀ front, front ++ [".."] <+: steps path →
    ∃ place, tree.follow (tree.origin path) (front ++ [".."]) = .ok place

variable {tree final : FileTree} {path : String} {place : List String}

theorem WellFormed.directory (well_formed : tree.WellFormed) {back : List String}
    (below : back ≠ []) (found : (tree.find? (place ++ back)).isSome = true) :
    tree.find? place = some .directory := by
  induction back using List.reverseRecOn with
  | nil => exact absurd rfl below
  | append_singleton back name ih =>
      rw [← List.append_assoc] at found
      have parent := well_formed _ _ found
      cases back with
      | nil => simpa using parent
      | cons => exact ih (List.cons_ne_nil _ _) (by rw [parent]; rfl)

/-- A tree is well formed when the parent of each of its entries is a directory. -/
theorem wellFormed_of_entries
    (parents : ∀ entry ∈ tree.entries, tree.find? entry.1.dropLast = some .directory) :
    tree.WellFormed := by
  intro place name found
  have below : place ++ [name] ≠ [] := by simp
  rw [FileTree.find?, if_neg below] at found
  obtain ⟨entry, lookup_eq⟩ := Option.isSome_iff_exists.mp found
  obtain ⟨before, after, entries_eq, -⟩ := List.lookup_eq_some_iff.mp lookup_eq
  have parent := parents (place ++ [name], entry) (by simp [entries_eq])
  rwa [List.dropLast_concat] at parent

theorem Anchored.join {base name : String} (anchored : tree.Anchored base)
    (is_name : IsName name) : tree.Anchored (Path.join base name) := by
  intro front shorter
  rw [steps_join is_name, List.prefix_concat_iff] at shorter
  rw [origin_join is_name]
  rcases shorter with whole | inside
  · exact absurd (List.append_inj' whole rfl).2 (by simpa using is_name.not_dots.symm)
  · exact anchored front (inside.trans (List.prefix_append _ _))

/-- On the way of an anchored path stand directories that are there, and from the last of its `..`
on each place is above the place of the path. -/
theorem Anchored.prefix_or_directory (anchored : tree.Anchored path)
    (through : tree.LeadsThrough path place) :
    place <+: tree.placeOf path ∨ tree.find? place = some .directory := by
  obtain ⟨front, ⟨back, steps_eq⟩, rfl⟩ := through
  by_cases descends : ".." ∈ back
  · obtain ⟨between, rest, rfl⟩ := List.append_of_mem descends
    have shorter : front ++ between ++ [".."] <+: steps path := ⟨rest, by simp [← steps_eq]⟩
    obtain ⟨target, follow_ok⟩ := anchored _ shorter
    obtain ⟨passable, -⟩ := follow_eq_ok_iff.mp follow_ok
    refine .inr ?_
    cases between with
    | nil => exact (passable front ".." [] (by simp)).1
    | cons piece between => exact (passable front piece (between ++ [".."]) (by simp)).1
  · refine .inl ?_
    rw [placeOf, ← steps_eq, walk_append]
    exact prefix_walk descends

/-- What stands at the place of an anchored path was found before, if the path can be followed once
more directories are there. -/
theorem Anchored.reaches (anchored : tree.Anchored path) (well_formed : tree.WellFormed)
    (grown : final.Extends tree) (reaches : final.Reaches path)
    (found : tree.occupied path = true) : tree.Reaches path := by
  rw [occupied] at found
  refine ⟨reaches.nonempty, reaches.no_nul, reaches.short, fun front piece back steps_eq => ?_⟩
  obtain ⟨directory, fits⟩ := reaches.passable front piece back steps_eq
  refine ⟨?_, fits⟩
  rw [grown.origin] at directory
  have through : tree.LeadsThrough path (walk (tree.origin path) front) :=
    ⟨front, ⟨piece :: back, steps_eq.symm⟩, rfl⟩
  rcases anchored.prefix_or_directory through with ⟨rest, place_eq⟩ | before
  · rw [← place_eq] at found
    cases rest with
    | cons => exact well_formed.directory (List.cons_ne_nil _ _) found
    | nil =>
        -- The place itself is entered later on, by a single dot.
        rw [List.append_nil] at found
        obtain ⟨entry, entry_eq⟩ := Option.isSome_iff_exists.mp found
        rw [entry_eq, ← grown.find? entry_eq, directory]
  · exact before

theorem Anchored.isSome_entryAt?_iff (anchored : tree.Anchored path)
    (well_formed : tree.WellFormed) (grown : final.Extends tree) (reaches : final.Reaches path) :
    (tree.entryAt? path).isSome = true ↔ tree.occupied path = true := by
  constructor
  · intro present
    rw [← isSome_entryAt?_of_reaches (reaches_of_isSome present), present]
  · intro occupied
    rw [isSome_entryAt?_of_reaches (anchored.reaches well_formed grown reaches occupied), occupied]

/-- A path without `..` is anchored. -/
theorem anchored_of_not_mem (descends : ".." ∉ steps path) : tree.Anchored path :=
  fun _ shorter => absurd (shorter.subset (by simp)) descends

/-- A path that can be followed is anchored. -/
theorem Reaches.anchored (reaches : tree.Reaches path) : tree.Anchored path := by
  rintro front ⟨back, steps_eq⟩
  refine ⟨_, follow_eq_ok_iff.mpr ⟨fun before piece rest pieces_eq => ?_, rfl⟩⟩
  exact reaches.passable before piece (rest ++ back) (by rw [← steps_eq, pieces_eq]; simp)

end Anchors

end FileTree
end LambdaStack

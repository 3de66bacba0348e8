import LambdaStack.Files.FileTree
import LambdaStack.Files.SpecFile
import Mathlib.Tactic.SplitIfs

/-!
# Growing file trees

A tree extends another when every entry of the other is still at its place. Paths lead to the same
places in it, so that texts which could be read before are read unchanged. Writing to a path at
which there was nothing extends a tree, and the text that was written is read back.
-/

namespace LambdaStack
namespace FileTree

theorem lookup_setEntry (place other : List String) (entry : FileEntry)
    (entries : List (List String × FileEntry)) :
    (setEntry place entry entries).lookup other =
      if other = place then some entry else entries.lookup other := by
  induction entries with
  | nil =>
      by_cases same : other = place
      · simp [setEntry, same]
      · have unequal : (other == place) = false := by simpa using same
        simp [setEntry, List.lookup_cons, same, unequal]
  | cons head rest ih =>
      obtain ⟨name, old⟩ := head
      by_cases replaced : name = place
      · subst replaced
        by_cases same : other = name
        · simp [setEntry, same]
        · have unequal : (other == name) = false := by simpa using same
          simp [setEntry, List.lookup_cons, same, unequal]
      · by_cases same : other = name
        · subst same
          simp [setEntry, replaced]
        · have unequal : (other == name) = false := by simpa using same
          simp [setEntry, replaced, List.lookup_cons, unequal, ih]

theorem find?_set {place : List String} (below : place ≠ []) (tree : FileTree) (entry : FileEntry)
    (other : List String) :
    (tree.set place entry).find? other =
      if other = place then some entry else tree.find? other := by
  by_cases root : other = []
  · simp [find?, root, Ne.symm below]
  · simp only [find?, if_neg root, set, lookup_setEntry]

theorem ne_nil_of_find?_eq_none {tree : FileTree} {place : List String}
    (absent : tree.find? place = none) : place ≠ [] := by
  rintro rfl
  cases absent

/-- Every entry of a tree is still at its place in another, seen from the same directory. -/
structure Extends (final start : FileTree) : Prop where
  /-- The working directory is the same. -/
  workingDirectory : final.workingDirectory = start.workingDirectory
  /-- Entries are kept. -/
  find? : ∀ {place : List String} {entry : FileEntry}, start.find? place = some entry →
    final.find? place = some entry

theorem Extends.refl (tree : FileTree) : tree.Extends tree :=
  ⟨rfl, id⟩

theorem extends_set {tree : FileTree} {place : List String} (absent : tree.find? place = none)
    (entry : FileEntry) : (tree.set place entry).Extends tree := by
  refine ⟨rfl, fun {other kept} found => ?_⟩
  have elsewhere : other ≠ place := by
    rintro rfl
    rw [found] at absent
    cases absent
  rw [find?_set (ne_nil_of_find?_eq_none absent), if_neg elsewhere, found]

section Directories

variable {start final : FileTree}

/-- A path is followed through directories only, so that it leads to the same place wherever these
are kept. -/
theorem follow_of_directories
    (kept : ∀ {place : List String}, start.find? place = some .directory →
      final.find? place = some .directory)
    {pieces place target : List String} (follow_ok : start.follow place pieces = .ok target) :
    final.follow place pieces = .ok target := by
  induction pieces generalizing place with
  | nil => exact follow_ok
  | cons piece rest ih =>
      rw [FileTree.follow] at follow_ok ⊢
      split at follow_ok
      · cases follow_ok
      next directory =>
        simp only [kept directory]
        split_ifs at follow_ok ⊢
        · exact ih follow_ok
        · exact ih follow_ok
        · exact ih follow_ok
      · cases follow_ok

theorem resolve_of_directories (same : final.workingDirectory = start.workingDirectory)
    (kept : ∀ {place : List String}, start.find? place = some .directory →
      final.find? place = some .directory)
    {path : String} {place : List String} (resolve_ok : start.resolve path = .ok place) :
    final.resolve path = .ok place := by
  simp only [FileTree.resolve, same] at resolve_ok ⊢
  split_ifs at resolve_ok ⊢
  · exact follow_of_directories kept resolve_ok
  · exact follow_of_directories kept resolve_ok

end Directories

section Grown

variable {start final : FileTree}

theorem Extends.trans {middle : FileTree} (later : final.Extends middle)
    (earlier : middle.Extends start) : final.Extends start :=
  ⟨later.workingDirectory.trans earlier.workingDirectory, fun found =>
    later.find? (earlier.find? found)⟩

theorem Extends.resolve (grown : final.Extends start) {path : String} {place : List String}
    (resolve_ok : start.resolve path = .ok place) : final.resolve path = .ok place :=
  resolve_of_directories grown.workingDirectory grown.find? resolve_ok

theorem readText_eq_ok_iff {tree : FileTree} {path text : String} :
    tree.readText path = .ok text ↔
      ∃ place, tree.resolve path = .ok place ∧ tree.find? place = some (.text text) := by
  unfold readText
  cases tree.resolve path with
  | error => simp
  | ok place =>
      simp only [Except.ok.injEq, exists_eq_left']
      split <;> simp_all

/-- A text that could be read is read unchanged. -/
theorem Extends.readText (grown : final.Extends start) {path text : String}
    (read_ok : start.readText path = .ok text) : final.readText path = .ok text := by
  obtain ⟨place, resolve_ok, found⟩ := readText_eq_ok_iff.mp read_ok
  exact readText_eq_ok_iff.mpr ⟨place, grown.resolve resolve_ok, grown.find? found⟩

/-- Writing puts a text at the place of its path, which is no directory. -/
theorem writeText_eq_ok_iff {tree : FileTree} {path content : String} :
    tree.writeText path content = .ok final ↔
      ∃ place, tree.resolve path = .ok place ∧ tree.find? place ≠ some .directory ∧
        final = tree.set place (.text content) := by
  unfold writeText
  cases tree.resolve path with
  | error => simp
  | ok place =>
      simp only [Except.ok.injEq, exists_eq_left']
      split <;> simp_all [eq_comm]

/-- A text that was written is read back, and nothing changes at any other place. -/
theorem changes_of_writeText {path content : String}
    (write_ok : start.writeText path content = .ok final) :
    ∃ place, start.resolve path = .ok place ∧ final.readText path = .ok content ∧
      ∀ other, other ≠ place → final.find? other = start.find? other := by
  obtain ⟨place, resolve_ok, not_directory, rfl⟩ := writeText_eq_ok_iff.mp write_ok
  have below : place ≠ [] := by
    rintro rfl
    exact not_directory rfl
  have elsewhere {other : List String} (different : other ≠ place) :
      (start.set place (.text content)).find? other = start.find? other := by
    rw [find?_set below, if_neg different]
  -- Directories stand elsewhere, so that the path still leads to the place.
  have directories {other : List String} (directory : start.find? other = some .directory) :
      (start.set place (.text content)).find? other = some .directory := by
    rw [elsewhere fun same => not_directory (same ▸ directory), directory]
  have same : (start.set place (.text content)).workingDirectory = start.workingDirectory := rfl
  have resolve_same : (start.set place (.text content)).resolve path = .ok place :=
    resolve_of_directories same directories resolve_ok
  refine ⟨place, resolve_ok, readText_eq_ok_iff.mpr ⟨place, resolve_same, ?_⟩, ?_⟩
  · rw [find?_set below, if_pos rfl]
  · exact fun other different => elsewhere different

/-- Writing where there is nothing keeps all that is there, and what was written is read back. -/
theorem writeText_of_absent {path content : String} (absent : start.entryAt? path = none)
    (write_ok : start.writeText path content = .ok final) :
    final.Extends start ∧ final.readText path = .ok content := by
  obtain ⟨place, resolve_ok, -, final_eq⟩ := writeText_eq_ok_iff.mp write_ok
  obtain ⟨_, -, read_ok, -⟩ := changes_of_writeText write_ok
  have nothing : start.find? place = none := by simpa [entryAt?, resolve_ok] using absent
  exact ⟨final_eq ▸ extends_set nothing (.text content), read_ok⟩

end Grown

theorem run_bind {α β : Type} (step : StateM FileTree α) (next : α → StateM FileTree β)
    (tree : FileTree) :
    (step >>= next).run tree = (next (step.run tree).1).run (step.run tree).2 := rfl

theorem run_readText (path : String) (tree : FileTree) :
    (FileAccess.readText path : StateM FileTree _).run tree = (tree.readText path, tree) := rfl

theorem run_directoryExists (path : String) (tree : FileTree) :
    (FileAccess.directoryExists path : StateM FileTree _).run tree =
      (decide (tree.entryAt? path = some .directory), tree) := rfl

theorem run_entryExists (path : String) (tree : FileTree) :
    (FileAccess.entryExists path : StateM FileTree _).run tree =
      ((tree.entryAt? path).isSome, tree) := rfl

theorem run_update (change : FileTree → Except FileError FileTree) (tree : FileTree) :
    (update change).run tree =
      match change tree with
      | .error error => (.error error, tree)
      | .ok changed => (.ok (), changed) := by
  have get_eq : (get : StateM FileTree FileTree).run tree = (tree, tree) := rfl
  rw [update, run_bind, get_eq]
  cases change tree <;> rfl

theorem run_writeText (path content : String) (tree : FileTree) :
    (FileAccess.writeText path content : StateM FileTree _).run tree =
      match tree.writeText path content with
      | .error error => (.error error, tree)
      | .ok written => (.ok (), written) :=
  run_update (fun tree => tree.writeText path content) tree

theorem run_makeDirectory (path : String) (tree : FileTree) :
    (FileAccess.makeDirectory path : StateM FileTree _).run tree =
      match tree.makeDirectory path with
      | .error error => (.error error, tree)
      | .ok made => (.ok (), made) :=
  run_update (fun tree => tree.makeDirectory path) tree

end FileTree

/-- A spec file that can be read is loaded from its text. -/
theorem FunctionSpec.run_load {tree : FileTree} {path text : String}
    (read_ok : tree.readText path = .ok text) :
    (FunctionSpec.load path : StateM FileTree _).run tree = (ofText path text, tree) := by
  rw [load, FileTree.run_bind, FileTree.run_readText, read_ok]
  rfl

end LambdaStack

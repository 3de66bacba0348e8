import LambdaStack.Proofs.Files.Places

/-!
# Made directories

Making a directory and its parents keeps all that is there and adds directories only, each on the
way of the path. When it succeeds the path names a directory, and once it does there is nothing
left to make.
-/

namespace LambdaStack
namespace FileTree

open FileAccess

/-- Nothing but directories at the places of some paths has been added. -/
structure AddsDirectories (paths : List String) (final start : FileTree) : Prop
    extends final.Extends start where
  /-- What is new is a directory at the place of one of the paths. -/
  new : ∀ {place : List String} {entry : FileEntry}, start.find? place = none →
    final.find? place = some entry → entry = .directory ∧ ∃ path ∈ paths, place = start.placeOf path

section Making

variable {start middle final : FileTree} {path : String} {paths : List String}
  {outcome : Except FileError Unit}

theorem AddsDirectories.refl (paths : List String) (tree : FileTree) :
    AddsDirectories paths tree tree :=
  ⟨.refl tree, fun absent found => absurd (absent.symm.trans found) (by simp)⟩

theorem AddsDirectories.trans (later : AddsDirectories paths final middle)
    (earlier : AddsDirectories paths middle start) : AddsDirectories paths final start := by
  refine ⟨later.toExtends.trans earlier.toExtends, fun {place entry} absent found => ?_⟩
  cases middle_eq : middle.find? place with
  | none =>
      obtain ⟨entry_eq, path, mem, place_eq⟩ := later.new middle_eq found
      exact ⟨entry_eq, path, mem, by rw [place_eq, earlier.placeOf]⟩
  | some kept =>
      obtain ⟨kept_eq, path, mem, place_eq⟩ := earlier.new absent middle_eq
      have same : entry = kept := Option.some.inj (found.symm.trans (later.find? middle_eq))
      exact ⟨same.trans kept_eq, path, mem, place_eq⟩

theorem AddsDirectories.mono {more : List String} (added : AddsDirectories paths final start)
    (among : paths ⊆ more) : AddsDirectories more final start := by
  refine ⟨added.toExtends, fun absent found => ?_⟩
  obtain ⟨entry_eq, path, mem, place_eq⟩ := added.new absent found
  exact ⟨entry_eq, path, among mem, place_eq⟩

/-- A directory is made where there is nothing. -/
theorem makeDirectory_eq_ok_iff :
    start.makeDirectory path = .ok final ↔
      ∃ place, start.resolve path = .ok place ∧ start.find? place = none ∧
        final = start.set place .directory := by
  unfold makeDirectory
  cases start.resolve path with
  | error => simp
  | ok place =>
      simp only [Except.ok.injEq, exists_eq_left']
      cases start.find? place with
      | none => simp [eq_comm]
      | some => simp

/-- A directory that is made is the only thing that is new, and its path names it. -/
theorem addsDirectories_of_makeDirectory (made : start.makeDirectory path = .ok final) :
    AddsDirectories [path] final start ∧ final.entryAt? path = some .directory := by
  obtain ⟨place, resolve_ok, absent, rfl⟩ := makeDirectory_eq_ok_iff.mp made
  have below := ne_nil_of_find?_eq_none absent
  have grown := extends_set absent .directory
  refine ⟨⟨grown, fun {other entry} other_absent found => ?_⟩, ?_⟩
  · rw [find?_set below] at found
    split_ifs at found with same
    · cases found
      refine ⟨rfl, path, List.mem_singleton_self path, ?_⟩
      rw [same, (resolve_eq_ok_iff.mp resolve_ok).2]
    · exact absurd (other_absent.symm.trans found) (by simp)
  · rw [entryAt?, grown.resolve resolve_ok]
    simp only [find?_set below, if_true]

/-- An attempt that has failed is none the worse when there is a directory. -/
theorem run_unless_directory (path : String) (error : FileError) (tree : FileTree) :
    (do if ← directoryExists path then return .ok () else return .error error :
        StateM FileTree (Except FileError Unit)).run tree =
      if tree.entryAt? path = some .directory then (.ok (), tree) else (.error error, tree) := by
  rw [run_bind, run_directoryExists]
  by_cases directory : tree.entryAt? path = some .directory
  · rw [if_pos directory, if_pos (decide_eq_true directory)]
    rfl
  · rw [if_neg directory, if_neg (by simp [directory])]
    rfl

theorem run_ensureDirectory (path : String) (tree : FileTree) :
    (ensureDirectory path : StateM FileTree _).run tree =
      match tree.makeDirectory path with
      | .ok made => (.ok (), made)
      | .error error =>
        if tree.entryAt? path = some .directory then (.ok (), tree) else (.error error, tree) := by
  rw [ensureDirectory, run_bind, run_makeDirectory]
  cases tree.makeDirectory path with
  | ok => rfl
  | error error => exact run_unless_directory path error tree

theorem run_makeDirectoriesOf_cons (path : String) (parents : List String) (tree : FileTree) :
    (makeDirectoriesOf (path :: parents) : StateM FileTree _).run tree =
      match tree.makeDirectory path with
      | .ok made => (.ok (), made)
      | .error .notFound =>
        match (makeDirectoriesOf parents : StateM FileTree _).run tree with
        | (.error error, reached) => (.error error, reached)
        | (.ok _, reached) => (ensureDirectory path : StateM FileTree _).run reached
      | .error error =>
        if tree.entryAt? path = some .directory then (.ok (), tree) else (.error error, tree) := by
  rw [makeDirectoriesOf, run_bind, run_makeDirectory]
  cases tree.makeDirectory path with
  | ok => rfl
  | error error =>
      cases error
      case notFound =>
        simp only [run_bind]
        rcases (makeDirectoriesOf parents : StateM FileTree _).run tree with ⟨_ | _, reached⟩ <;>
          rfl
      all_goals exact run_unless_directory path _ tree

/-- Each attempt keeps all that is there. After one that succeeds the path names a directory. -/
theorem addsDirectories_of_ensureDirectory
    (ran : (ensureDirectory path : StateM FileTree _).run start = (outcome, final)) :
    AddsDirectories [path] final start ∧
      (outcome = .ok () → final.entryAt? path = some .directory) := by
  rw [run_ensureDirectory] at ran
  split at ran
  next made =>
    cases ran
    obtain ⟨added, directory⟩ := addsDirectories_of_makeDirectory made
    exact ⟨added, fun _ => directory⟩
  · split_ifs at ran with directory
    · cases ran
      exact ⟨.refl [path] start, fun _ => directory⟩
    · cases ran
      exact ⟨.refl [path] start, nofun⟩

theorem addsDirectories_of_makeDirectoriesOf
    (ran : (makeDirectoriesOf paths : StateM FileTree _).run start = (outcome, final)) :
    AddsDirectories paths final start ∧
      (outcome = .ok () → ∀ path ∈ paths.head?, final.entryAt? path = some .directory) := by
  induction paths generalizing outcome final with
  | nil =>
      cases ran
      exact ⟨.refl [] start, nofun⟩
  | cons path parents ih =>
      rw [run_makeDirectoriesOf_cons] at ran
      simp only [List.head?_cons, Option.mem_some_iff, forall_eq']
      have among : [path] ⊆ path :: parents := by simp
      split at ran
      next made =>
        cases ran
        obtain ⟨added, directory⟩ := addsDirectories_of_makeDirectory made
        exact ⟨added.mono among, fun _ => directory⟩
      · split at ran
        next reached parents_ran =>
          cases ran
          obtain ⟨added, -⟩ := ih parents_ran
          exact ⟨added.mono (List.subset_cons_self path parents), nofun⟩
        next reached parents_ran =>
          obtain ⟨earlier, -⟩ := ih parents_ran
          obtain ⟨later, directory⟩ := addsDirectories_of_ensureDirectory ran
          refine ⟨?_, directory⟩
          exact (later.mono among).trans (earlier.mono (List.subset_cons_self path parents))
      · split_ifs at ran with directory
        · cases ran
          exact ⟨.refl _ start, fun _ => directory⟩
        · cases ran
          exact ⟨.refl _ start, nofun⟩

/-- Making a directory with its parents only adds directories that its path leads through, whether
it succeeds or not. When it succeeds, the path names a directory. -/
theorem grown_of_makeDirectories (nonempty : path ≠ "")
    (ran : (makeDirectories path : StateM FileTree _).run start = (outcome, final)) :
    final.Extends start ∧
      (∀ {place : List String} {entry : FileEntry}, start.find? place = none →
        final.find? place = some entry → entry = .directory ∧ start.LeadsThrough path place) ∧
      (outcome = .ok () → final.entryAt? path = some .directory) := by
  rw [makeDirectories, if_neg nonempty] at ran
  obtain ⟨added, directory⟩ := addsDirectories_of_makeDirectoriesOf ran
  refine ⟨added.toExtends, fun {place entry} absent found => ?_, fun ok => directory ok path rfl⟩
  obtain ⟨entry_eq, parent, mem, rfl⟩ := added.new absent found
  rcases List.mem_cons.mp mem with rfl | above
  · exact ⟨entry_eq, leadsThrough_placeOf start parent⟩
  · exact ⟨entry_eq, leadsThrough_of_mem_parents above⟩

/-- A directory that is there is not made again. -/
theorem run_makeDirectories_of_directory (directory : start.entryAt? path = some .directory) :
    (makeDirectories path : StateM FileTree _).run start = (.ok (), start) := by
  rw [makeDirectories]
  split
  · rfl
  · have reaches : start.Reaches path := reaches_of_isSome (by rw [directory]; rfl)
    have found : start.find? (start.placeOf path) = some .directory := by
      rw [← entryAt?_of_reaches reaches, directory]
    have present : start.makeDirectory path = .error .alreadyExists := by
      rw [makeDirectory, resolve_eq_ok_iff.mpr ⟨reaches, rfl⟩]
      simp only [found]
    simp only [run_makeDirectoriesOf_cons, present, directory, if_true]

end Making

end FileTree
end LambdaStack

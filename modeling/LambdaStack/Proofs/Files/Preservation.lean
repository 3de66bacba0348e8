import LambdaStack.Proofs.Files.Directories
import LambdaStack.Proofs.Files.Scaffold

/-!
# Scaffolds keep what is there

Whatever comes of a scaffold, all that was there stays as it was, and a scaffold that is refused
changes nothing. One that succeeds lists each of its files once: as skipped when there was an entry
already, be it one that was made on the way to the directory, and as created otherwise. The same
scaffold again skips both files, unless the way to the directory has made the base the directory of
a function. That cannot happen when each `..` of the base leads out of a directory that was there.
-/

namespace LambdaStack
namespace Scaffold

open FileTree

/-- The files of a scaffold, with the texts of new ones. -/
def files (base name : String) : List (String × String) :=
  [
    (Path.join (Path.join base name) specFile, specTemplate name),
    (Path.join (Path.join base name) codeFile,
      "module.exports.fn = function(event, context, callback) \x7b\n" ++
        "  // function code goes here\n  callback();\n\x7d;\n")
  ]

/-- The paths of the files of a scaffold. -/
def paths (base name : String) : List String :=
  (files base name).map Prod.fst

/-- What a scaffold that was completed says, and what it leaves in the tree. -/
structure Completed (tree : FileTree) (base name : String) (scaffold : Scaffold)
    (final : FileTree) : Prop where
  /-- The scaffold is of the directory with the name in the base. -/
  directory_eq : scaffold.directory = Path.join base name
  /-- The two files are listed, and nothing else is. -/
  listed : (scaffold.created ++ scaffold.skipped).Perm (paths base name)
  /-- Neither is listed twice. -/
  once : (scaffold.created ++ scaffold.skipped).Nodup
  /-- Both are there. -/
  present : ∀ path ∈ paths base name, (final.entryAt? path).isSome = true
  /-- A file is skipped when there was an entry at its place, or when the path of the directory
  leads through its place. -/
  skipped_iff : ∀ path ∈ paths base name, path ∈ scaffold.skipped ↔
    tree.occupied path = true ∨ tree.LeadsThrough (Path.join base name) (tree.placeOf path)
  /-- A file that was created holds the text of a new one. -/
  written : ∀ file ∈ files base name, file.1 ∈ scaffold.created →
    final.readText file.1 = .ok file.2
  /-- The same scaffold again changes nothing. It skips both files, unless the base has become the
  directory of a function. -/
  again : (create base name : StateM FileTree _).run final =
    if (final.entryAt? (Path.join base codeFile)).isSome then (.error (.insideFunction base), final)
    else (.ok { directory := Path.join base name, skipped := paths base name }, final)
  /-- With a base that is there, or one without `..`, or one of which each `..` leads out of a
  directory, a file is skipped just when it was there before, and the base has not become the
  directory of a function. -/
  anchored : tree.WellFormed →
    (tree.entryAt? base).isSome = true ∨ ".." ∉ steps base ∨ tree.Anchored base →
    (∀ path ∈ paths base name, path ∈ scaffold.skipped ↔ (tree.entryAt? path).isSome = true) ∧
      final.entryAt? (Path.join base codeFile) = none

section Files

theorem isName_specFile : IsName specFile :=
  ⟨by decide, by decide, by decide, by decide⟩

theorem isName_codeFile : IsName codeFile :=
  ⟨by decide, by decide, by decide, by decide⟩

theorem isName_of_isValidName {name : String} (valid : isValidName name = true) : IsName name where
  nonempty := ne_of_isValidName valid "" (by simp)
  not_dot := ne_of_isValidName valid "." (by simp)
  not_dots := ne_of_isValidName valid ".." (by simp)
  simple := not_mem_of_isValidName valid

variable {tree final : FileTree} {scaffold next : Scaffold} {file content : String}

/-- A file that was added is there, and nothing changes at any other place. -/
theorem placed_of_addFile
    (added : (addFile scaffold file content : StateM FileTree _).run tree = (.ok next, final)) :
    final.Extends tree ∧ final.Reaches (Path.join scaffold.directory file) ∧
      final.occupied (Path.join scaffold.directory file) = true ∧
      (∀ place, place ≠ tree.placeOf (Path.join scaffold.directory file) →
        final.find? place = tree.find? place) ∧
      (tree.occupied (Path.join scaffold.directory file) = false →
        final.readText (Path.join scaffold.directory file) = .ok content) ∧
      next =
        if tree.occupied (Path.join scaffold.directory file) then
          { scaffold with skipped := scaffold.skipped ++ [Path.join scaffold.directory file] }
        else
          { scaffold with created := scaffold.created ++ [Path.join scaffold.directory file] } := by
  obtain ⟨present, rfl, rfl⟩ | ⟨absent, write_ok, rfl⟩ := skipped_or_created_of_addFile added
  · have reaches := reaches_of_isSome present
    rw [isSome_entryAt?_of_reaches reaches] at present
    refine ⟨.refl final, reaches, present, fun _ _ => rfl, fun absent => ?_, by rw [if_pos present]⟩
    rw [absent] at present
    cases present
  · obtain ⟨grown, read_ok⟩ := writeText_of_absent absent write_ok
    obtain ⟨place, resolve_ok, -, elsewhere⟩ := changes_of_writeText write_ok
    obtain ⟨reaches, rfl⟩ := resolve_eq_ok_iff.mp resolve_ok
    have vacant : tree.occupied (Path.join scaffold.directory file) = false := by
      rw [← isSome_entryAt?_of_reaches reaches, absent]
      rfl
    obtain ⟨place, resolve_final, found⟩ := readText_eq_ok_iff.mp read_ok
    obtain ⟨reaches_final, rfl⟩ := resolve_eq_ok_iff.mp resolve_final
    refine ⟨grown, reaches_final, ?_, elsewhere, fun _ => read_ok, ?_⟩
    · rw [occupied, found]
      rfl
    · rw [vacant]
      rfl

/-- What has become of a tree and a scaffold once some files were added to a directory. -/
structure Filled (start : FileTree) (directory : String) (done : List (String × String))
    (scaffold : Scaffold) (tree : FileTree) : Prop extends tree.Extends start where
  /-- The scaffold is of the directory. -/
  directory_eq : scaffold.directory = directory
  /-- Files without an entry were created. -/
  created_eq : scaffold.created = (done.map Prod.fst).filter fun path => !start.occupied path
  /-- Files with an entry were skipped. -/
  skipped_eq : scaffold.skipped = (done.map Prod.fst).filter start.occupied
  /-- The paths of the files can be followed. -/
  reaches : ∀ path ∈ done.map Prod.fst, tree.Reaches path
  /-- The files are there. -/
  present : ∀ path ∈ done.map Prod.fst, tree.occupied path = true
  /-- Files without an entry have been written. -/
  written : ∀ file ∈ done, start.occupied file.1 = false → tree.readText file.1 = .ok file.2
  /-- Nothing has changed at any other place. -/
  elsewhere : ∀ place, (∀ path ∈ done.map Prod.fst, place ≠ start.placeOf path) →
    tree.find? place = start.find? place

theorem filled_nil (start : FileTree) (directory : String) :
    Filled start directory [] { directory } start where
  toExtends := .refl start
  directory_eq := rfl
  created_eq := rfl
  skipped_eq := rfl
  reaches := nofun
  present := nofun
  written := nofun
  elsewhere := fun _ _ => rfl

/-- One more file is added at a place of its own. -/
theorem Filled.addFile {start : FileTree} {directory : String} {done : List (String × String)}
    (filled : Filled start directory done scaffold tree)
    (fresh : ∀ path ∈ done.map Prod.fst,
      start.placeOf (Path.join directory file) ≠ start.placeOf path)
    (added : (addFile scaffold file content : StateM FileTree _).run tree = (.ok next, final)) :
    Filled start directory (done ++ [(Path.join directory file, content)]) next final := by
  obtain ⟨grown, reaches, present, elsewhere, written, next_eq⟩ := placed_of_addFile added
  have untouched : tree.occupied (Path.join directory file) =
      start.occupied (Path.join directory file) := by
    rw [occupied, occupied, filled.placeOf, filled.elsewhere _ fresh]
  rw [filled.directory_eq] at reaches present elsewhere written next_eq
  rw [filled.placeOf] at elsewhere
  rw [untouched] at written next_eq
  have mem_cases {path : String}
      (mem : path ∈ (done ++ [(Path.join directory file, content)]).map Prod.fst) :
      path ∈ done.map Prod.fst ∨ path = Path.join directory file := by simpa using mem
  refine ⟨grown.trans filled.toExtends, ?_, ?_, ?_, ?_, ?_, ?_, ?_⟩
  · rw [next_eq, ← filled.directory_eq]
    split <;> rfl
  · rw [next_eq, List.map_append, List.filter_append, ← filled.created_eq]
    cases there : start.occupied (Path.join directory file) <;> simp [there]
  · rw [next_eq, List.map_append, List.filter_append, ← filled.skipped_eq]
    cases there : start.occupied (Path.join directory file) <;> simp [there]
  · intro path mem
    rcases mem_cases mem with before | rfl
    · exact grown.reaches (filled.reaches path before)
    · exact reaches
  · intro path mem
    rcases mem_cases mem with before | rfl
    · exact grown.occupied (filled.present path before)
    · exact present
  · intro added_file mem absent
    rcases List.mem_append.mp mem with before | last
    · exact grown.readText (filled.written added_file before absent)
    · cases List.mem_singleton.mp last
      exact written absent
  · intro place away
    rw [elsewhere place (away _ (by simp))]
    exact filled.elsewhere place fun path mem => away path (by simp_all)

end Files

section Runs

variable {tree final : FileTree} {base name : String} {scaffold : Scaffold}
  {outcome : Except ScaffoldFailure Scaffold}

theorem nodup_paths (base name : String) : (paths base name).Nodup := by
  have distinct : Path.join (Path.join base name) specFile ≠
      Path.join (Path.join base name) codeFile := fun same =>
    absurd (Path.join_injective (by decide) (by decide) same) (by decide)
  simpa [paths, files] using distinct

/-- Whatever comes of adding a file, all that was there is kept. -/
theorem extends_of_addFile {file content : String}
    (ran : (addFile scaffold file content : StateM FileTree _).run tree = (outcome, final)) :
    final.Extends tree := by
  cases outcome with
  | ok next => exact (placed_of_addFile ran).1
  | error failure =>
      cases present : (tree.entryAt? (Path.join scaffold.directory file)).isSome with
      | true =>
          rw [run_addFile_of_present present] at ran
          cases ran
      | false =>
          rw [run_addFile_of_absent present] at ran
          split at ran
          · cases ran
            exact .refl tree
          · cases ran

/-- Whatever comes of a scaffold, all that was there is kept. -/
theorem extends_of_create
    (ran : (create base name : StateM FileTree _).run tree = (outcome, final)) :
    final.Extends tree := by
  by_cases refused : isValidName name = false ∨
      (tree.entryAt? (Path.join base codeFile)).isSome = true
  · obtain ⟨failure, run_eq⟩ := run_create_of_refused refused
    cases run_eq.symm.trans ran
    exact .refl tree
  · obtain ⟨valid, outside⟩ := not_or.mp refused
    rw [Bool.not_eq_false] at valid
    rw [Bool.not_eq_true] at outside
    have nonempty := Path.join_ne_empty base (isName_of_isValidName valid).nonempty
    rw [run_create_of_admitted valid outside] at ran
    split at ran
    next start made =>
      cases ran
      exact (grown_of_makeDirectories nonempty made).1
    next start made =>
      have start_grown := (grown_of_makeDirectories nonempty made).1
      split at ran
      next added =>
        cases ran
        exact (extends_of_addFile added).trans start_grown
      next first middle added =>
        exact (extends_of_addFile ran).trans ((extends_of_addFile added).trans start_grown)

/-- A completed scaffold has been given a directory, made of directories on the way to it, and then
its files have been added. -/
theorem filled_of_create
    (created_ok : (create base name : StateM FileTree _).run tree = (.ok scaffold, final)) :
    isValidName name = true ∧ (tree.entryAt? (Path.join base codeFile)).isSome = false ∧
      ∃ start : FileTree, start.Extends tree ∧
        start.entryAt? (Path.join base name) = some .directory ∧
        (∀ place, (start.find? place).isSome = true ↔
          (tree.find? place).isSome = true ∨ tree.LeadsThrough (Path.join base name) place) ∧
        Filled start (Path.join base name) (files base name) scaffold final := by
  obtain ⟨valid, outside, start, middle, first, made, spec_added, code_added⟩ :=
    steps_of_create created_ok
  have nonempty := Path.join_ne_empty base (isName_of_isValidName valid).nonempty
  obtain ⟨grown, new, directory⟩ := grown_of_makeDirectories nonempty made
  refine ⟨valid, outside, start, grown, directory rfl, fun place => ⟨fun found => ?_, ?_⟩, ?_⟩
  · cases before : tree.find? place with
    | some => exact .inl rfl
    | none =>
        obtain ⟨entry, entry_eq⟩ := Option.isSome_iff_exists.mp found
        exact .inr (new before entry_eq).2
  · rintro (before | through)
    · obtain ⟨entry, entry_eq⟩ := Option.isSome_iff_exists.mp before
      rw [grown.find? entry_eq]
      rfl
    · rw [directory_of_leadsThrough (directory rfl) (grown.leadsThrough_iff.mpr through)]
      rfl
  · have spec_filled := (filled_nil start (Path.join base name)).addFile nofun spec_added
    refine spec_filled.addFile (fun path mem => ?_) code_added
    rw [List.mem_singleton.mp mem, placeOf_join isName_codeFile, placeOf_join isName_specFile]
    exact fun same => absurd (List.append_cancel_left same) (by decide)

theorem exists_of_mem_paths {path : String} (mem : path ∈ paths base name) :
    ∃ file, IsName file ∧ path = Path.join (Path.join base name) file := by
  rcases List.mem_cons.mp mem with rfl | last
  · exact ⟨specFile, isName_specFile, rfl⟩
  · exact ⟨codeFile, isName_codeFile, List.mem_singleton.mp last⟩

/-- Once a scaffold is complete, the same one again finds both files. -/
theorem run_create_again (valid : isValidName name = true)
    (directory : final.entryAt? (Path.join base name) = some .directory)
    (present : ∀ path ∈ paths base name, (final.entryAt? path).isSome = true) :
    (create base name : StateM FileTree _).run final =
      if (final.entryAt? (Path.join base codeFile)).isSome then
        (.error (.insideFunction base), final)
      else (.ok { directory := Path.join base name, skipped := paths base name }, final) := by
  split
  next inside => exact run_create_of_inside valid inside
  next outside =>
    rw [run_create_of_admitted valid (Bool.eq_false_iff.mpr outside),
      run_makeDirectories_of_directory directory]
    simp only
    rw [run_addFile_of_present (present _ List.mem_cons_self)]
    simp only
    rw [run_addFile_of_present (present _ (List.mem_cons_of_mem _ List.mem_cons_self))]
    rfl

section Anchored

variable (well_formed : tree.WellFormed) (anchored : tree.Anchored base)
  (valid : isValidName name = true)

include anchored valid in
/-- What the path of the directory leads through is above the directory, or was there before. -/
theorem prefix_or_isSome {place : List String}
    (found : (tree.find? place).isSome = true ∨
      tree.LeadsThrough (Path.join base name) place) :
    (tree.find? place).isSome = true ∨ place <+: tree.placeOf base ++ [name] := by
  have is_name := isName_of_isValidName valid
  rcases found with before | through
  · exact .inl before
  · rcases (anchored.join is_name).prefix_or_directory through with above | directory
    · exact .inr (placeOf_join is_name tree base ▸ above)
    · exact .inl (by rw [directory]; rfl)

include well_formed anchored valid in
theorem occupied_or_through_iff {path : String} (mem : path ∈ paths base name)
    (grown : final.Extends tree) (reaches : final.Reaches path) :
    tree.occupied path = true ∨ tree.LeadsThrough (Path.join base name) (tree.placeOf path) ↔
      (tree.entryAt? path).isSome = true := by
  have is_name := isName_of_isValidName valid
  obtain ⟨file, file_name, rfl⟩ := exists_of_mem_paths mem
  have path_anchored := (anchored.join is_name).join file_name
  rw [path_anchored.isSome_entryAt?_iff well_formed grown reaches]
  refine ⟨fun found => ?_, .inl⟩
  rcases prefix_or_isSome anchored valid found with before | above
  · exact before
  · rw [placeOf_join file_name, placeOf_join is_name] at above
    exact absurd above.length_le (by simp)

include well_formed anchored valid in
/-- The base does not become the directory of a function. -/
theorem entryAt?_codeFile_of_filled {start : FileTree} (grown : start.Extends tree)
    (found_iff : ∀ place, (start.find? place).isSome = true ↔
      (tree.find? place).isSome = true ∨ tree.LeadsThrough (Path.join base name) place)
    (filled : Filled start (Path.join base name) (files base name) scaffold final)
    (outside : (tree.entryAt? (Path.join base codeFile)).isSome = false) :
    final.entryAt? (Path.join base codeFile) = none := by
  have is_name := isName_of_isValidName valid
  by_contra inside
  have present : (final.entryAt? (Path.join base codeFile)).isSome = true :=
    Option.isSome_iff_ne_none.mpr inside
  have reaches := reaches_of_isSome present
  have final_grown := filled.toExtends.trans grown
  rw [isSome_entryAt?_of_reaches reaches, occupied, final_grown.placeOf,
    placeOf_join isName_codeFile] at present
  -- It is none of the files, since these stand one directory further down.
  have elsewhere : ∀ path ∈ (files base name).map Prod.fst,
      tree.placeOf base ++ [codeFile] ≠ start.placeOf path := by
    intro path mem same
    obtain ⟨file, file_name, rfl⟩ := exists_of_mem_paths mem
    rw [grown.placeOf, placeOf_join file_name, placeOf_join is_name] at same
    exact absurd (congrArg List.length same) (by simp)
  rw [filled.elsewhere _ elsewhere, found_iff] at present
  rcases prefix_or_isSome anchored valid present with before | above
  · rw [← placeOf_join isName_codeFile tree base] at before
    have code_anchored := anchored.join isName_codeFile
    rw [(code_anchored.isSome_entryAt?_iff well_formed final_grown reaches).mpr before] at outside
    cases outside
  · have same := above.eq_of_length (by simp)
    have name_eq : codeFile = name := by simpa using same
    exact absurd (name_eq ▸ valid) (by decide)

end Anchored

/-- A scaffold keeps what is there. Whatever comes of it, every file and directory stays as it was.
With a name that is not admitted, or inside the directory of a function, it fails and changes
nothing. When it succeeds, both files are there and what it lists is so, and it changes nothing when
it is made again. -/
theorem preserves_of_create (tree : FileTree) (base name : String)
    (outcome : Except ScaffoldFailure Scaffold) (final : FileTree)
    (ran : (create base name : StateM FileTree _).run tree = (outcome, final)) :
    final.Extends tree ∧
      (isValidName name = false ∨ (tree.entryAt? (Path.join base codeFile)).isSome = true →
        (∃ failure, outcome = .error failure) ∧ final = tree) ∧
      ∀ scaffold, outcome = .ok scaffold → Completed tree base name scaffold final := by
  refine ⟨extends_of_create ran, fun refused => ?_, ?_⟩
  · obtain ⟨failure, run_eq⟩ := run_create_of_refused refused
    cases run_eq.symm.trans ran
    exact ⟨⟨failure, rfl⟩, rfl⟩
  · rintro scaffold rfl
    obtain ⟨valid, outside, start, grown, directory, found_iff, filled⟩ := filled_of_create ran
    have final_grown := filled.toExtends.trans grown
    have listed : (scaffold.created ++ scaffold.skipped).Perm (paths base name) := by
      rw [filled.created_eq, filled.skipped_eq]
      exact List.perm_append_comm.trans (List.filter_append_perm start.occupied _)
    have present : ∀ path ∈ paths base name, (final.entryAt? path).isSome = true := by
      intro path mem
      rw [isSome_entryAt?_of_reaches (filled.reaches path mem)]
      exact filled.present path mem
    have skipped_iff : ∀ path ∈ paths base name, path ∈ scaffold.skipped ↔
        tree.occupied path = true ∨
          tree.LeadsThrough (Path.join base name) (tree.placeOf path) := by
      intro path mem
      rw [filled.skipped_eq, List.mem_filter, occupied, grown.placeOf, found_iff]
      exact and_iff_right mem
    have once := listed.nodup_iff.mpr (nodup_paths base name)
    refine ⟨filled.directory_eq, listed, once, present, skipped_iff, ?_, ?_, ?_⟩
    · intro file mem created
      rw [filled.created_eq, List.mem_filter] at created
      exact filled.written file mem (by simpa using created.2)
    · exact run_create_again valid (filled.entryAt? directory) present
    · intro well_formed firm
      have anchored : tree.Anchored base := by
        rcases firm with there | descends | anchored
        · exact (reaches_of_isSome there).anchored
        · exact anchored_of_not_mem descends
        · exact anchored
      refine ⟨fun path mem => ?_, ?_⟩
      · rw [skipped_iff path mem]
        exact occupied_or_through_iff well_formed anchored valid mem final_grown
          (filled.reaches path mem)
      · exact entryAt?_codeFile_of_filled well_formed anchored valid grown found_iff filled outside

/-- The workshop with the directory of a function in which there is a code file only. -/
def begun : FileTree where
  entries := [
    (["srv"], .directory),
    (["srv", "apps"], .directory),
    (["srv", "apps", "disk-alarm"], .directory),
    (["srv", "apps", "disk-alarm", codeFile], .text "// mine")
  ]
  workingDirectory := ["srv"]

/-- A scaffold that is made twice where there is a code file adds the spec file. None is made in its
own directory. -/
theorem begun_preserves_of_create : ∃ final : FileTree,
    (create "apps" "disk-alarm" : StateM FileTree _).run begun =
      (.ok ⟨"apps/disk-alarm", ["apps/disk-alarm/function.json"], ["apps/disk-alarm/function.js"]⟩,
        final) ∧
    final.readText "apps/disk-alarm/function.js" = .ok "// mine" ∧
    final.readText "apps/disk-alarm/function.json" =
      .ok "\x7b\n  \"name\": \"diskalarm\"\n\x7d\n" ∧
    (create "apps" "disk-alarm" : StateM FileTree _).run final =
      (.ok ⟨"apps/disk-alarm", [],
        ["apps/disk-alarm/function.json", "apps/disk-alarm/function.js"]⟩, final) ∧
    ∃ failure, (create "apps/disk-alarm" "inner" : StateM FileTree _).run begun =
      (.error failure, begun) := by
  have well_formed : begun.WellFormed := wellFormed_of_entries (by decide)
  have there : (begun.entryAt? "apps").isSome = true := by decide
  have ran : (create "apps" "disk-alarm" : StateM FileTree _).run begun =
      (.ok ⟨"apps/disk-alarm", ["apps/disk-alarm/function.json"], ["apps/disk-alarm/function.js"]⟩,
        begun.set ["srv", "apps", "disk-alarm", specFile] (.text (specTemplate "disk-alarm"))) := by
    change (_ : Except ScaffoldFailure Scaffold × FileTree) = _
    decide +kernel
  obtain ⟨grown, -, completes⟩ := preserves_of_create begun "apps" "disk-alarm" _ _ ran
  have completed := completes _ rfl
  obtain ⟨-, base_free⟩ := completed.anchored well_formed (.inl there)
  refine ⟨_, ran, grown.readText (by decide), ?_, ?_, ?_⟩
  · have text_eq : specTemplate "disk-alarm" = "\x7b\n  \"name\": \"diskalarm\"\n\x7d\n" := by
      decide +kernel
    rw [← text_eq]
    exact completed.written (_, specTemplate "disk-alarm") List.mem_cons_self (by decide)
  · have again := completed.again
    rw [base_free] at again
    exact again
  · obtain ⟨outcome, final, inner_ran⟩ : ∃ outcome final,
        (create "apps/disk-alarm" "inner" : StateM FileTree _).run begun = (outcome, final) :=
      ⟨_, _, rfl⟩
    obtain ⟨-, refused, -⟩ := preserves_of_create begun "apps/disk-alarm" "inner" _ _ inner_ran
    obtain ⟨⟨failure, rfl⟩, rfl⟩ := refused (.inr (by decide))
    exact ⟨failure, inner_ran⟩

/-- The workshop with a scaffold on the way to which a directory was made only to be left again. -/
def strayed : FileTree where
  entries := [
    (["srv"], .directory),
    (["srv", codeFile], .directory),
    (["srv", "disk-alarm"], .directory),
    (["srv", "disk-alarm", specFile], .text (specTemplate "disk-alarm")),
    (["srv", "disk-alarm", codeFile], .text codeTemplate)
  ]
  workingDirectory := ["srv"]

/-- The way to the directory can make the base the directory of a function. A scaffold that has just
succeeded is refused then. It can also lead through the place of a file, which is skipped then
although there was nothing before. -/
theorem workshop_create_astray :
    (create "function.js/.." "disk-alarm" : StateM FileTree _).run workshop =
      (.ok ⟨"function.js/../disk-alarm",
        ["function.js/../disk-alarm/function.json", "function.js/../disk-alarm/function.js"], []⟩,
        strayed) ∧
    (create "function.js/.." "disk-alarm" : StateM FileTree _).run strayed =
      (.error (.insideFunction "function.js/.."), strayed) ∧
    workshop.entryAt? "ab/function.json/../../ab/function.json" = none ∧
    ((create "ab/function.json/../.." "ab" : StateM FileTree _).run workshop).1 =
      .ok ⟨"ab/function.json/../../ab", ["ab/function.json/../../ab/function.js"],
        ["ab/function.json/../../ab/function.json"]⟩ := by
  refine ⟨?_, run_create_of_inside (by decide) (by decide), by decide, ?_⟩
  · change (_ : Except ScaffoldFailure Scaffold × FileTree) = _
    decide +kernel
  · decide +kernel

end Runs

end Scaffold
end LambdaStack

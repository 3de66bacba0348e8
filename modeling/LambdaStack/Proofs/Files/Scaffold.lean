import LambdaStack.Files.Scaffold
import LambdaStack.Proofs.Files.FileTree
import LambdaStack.Proofs.Files.Path
import LambdaStack.Proofs.Json.Strings
import LambdaStack.Proofs.Stack.Acceptance
import LambdaStack.Proofs.Stack.Defaults

/-!
# Scaffolded functions

A scaffold only adds files, so that a spec file which it has created is loaded as the spec of the
function that its directory is named after. That function is compiled unless its name is one of the
four that clash with resources which every function with a topic of its own has.
-/

namespace LambdaStack

open FileTree

namespace Scaffold

section Runs

variable {tree middle final : FileTree} {scaffold next : Scaffold} {file content : String}

theorem run_addFile_of_present
    (present : (tree.entryAt? (Path.join scaffold.directory file)).isSome = true) :
    (addFile scaffold file content : StateM FileTree _).run tree =
      (.ok { scaffold with
          skipped := scaffold.skipped ++ [Path.join scaffold.directory file] }, tree) := by
  rw [addFile, run_bind, run_entryExists, present]
  rfl

theorem run_addFile_of_absent
    (absent : (tree.entryAt? (Path.join scaffold.directory file)).isSome = false) :
    (addFile scaffold file content : StateM FileTree _).run tree =
      match tree.writeText (Path.join scaffold.directory file) content with
      | .error error =>
        (.error (.fileNotWritten (Path.join scaffold.directory file) error.message), tree)
      | .ok written =>
        (.ok { scaffold with
          created := scaffold.created ++ [Path.join scaffold.directory file] }, written) := by
  rw [addFile, run_bind, run_entryExists, absent]
  simp only [Bool.false_eq_true, if_false]
  rw [run_bind, run_writeText]
  cases tree.writeText (Path.join scaffold.directory file) content <;> rfl

/-- A file is skipped where there is an entry, and written where there is none. -/
theorem skipped_or_created_of_addFile
    (added : (addFile scaffold file content : StateM FileTree _).run tree = (.ok next, final)) :
    (tree.entryAt? (Path.join scaffold.directory file)).isSome = true ∧ final = tree ∧
        next = { scaffold with
          skipped := scaffold.skipped ++ [Path.join scaffold.directory file] } ∨
      tree.entryAt? (Path.join scaffold.directory file) = none ∧
        tree.writeText (Path.join scaffold.directory file) content = .ok final ∧
        next = { scaffold with
          created := scaffold.created ++ [Path.join scaffold.directory file] } := by
  cases present : (tree.entryAt? (Path.join scaffold.directory file)).isSome with
  | true =>
      rw [run_addFile_of_present present] at added
      cases added
      exact .inl ⟨rfl, rfl, rfl⟩
  | false =>
      rw [run_addFile_of_absent present] at added
      split at added
      · cases added
      next write_ok =>
        cases added
        exact .inr ⟨by simpa using present, write_ok, rfl⟩

/-- A file is added to a tree, in which all else stays, unless it is there. -/
theorem addFile_cases
    (added : (addFile scaffold file content : StateM FileTree _).run tree = (.ok next, final)) :
    final.Extends tree ∧
      (next.created = scaffold.created ∨
        next.created = scaffold.created ++ [Path.join scaffold.directory file] ∧
          final.readText (Path.join scaffold.directory file) = .ok content) ∧
      next.directory = scaffold.directory := by
  obtain ⟨-, rfl, rfl⟩ | ⟨absent, write_ok, rfl⟩ := skipped_or_created_of_addFile added
  · exact ⟨.refl final, .inl rfl, rfl⟩
  · obtain ⟨grown, read_ok⟩ := writeText_of_absent absent write_ok
    exact ⟨grown, .inr ⟨rfl, read_ok⟩, rfl⟩

theorem run_create_of_invalid {name : String} (base : String) (invalid : isValidName name = false) :
    (create base name : StateM FileTree _).run tree = (.error (.invalidName name), tree) := by
  rw [create, invalid]
  rfl

theorem run_create_of_inside {base name : String} (valid : isValidName name = true)
    (inside : (tree.entryAt? (Path.join base codeFile)).isSome = true) :
    (create base name : StateM FileTree _).run tree = (.error (.insideFunction base), tree) := by
  rw [create]
  simp only [valid, Bool.not_true, Bool.false_eq_true, if_false]
  rw [run_bind, run_entryExists, inside]
  rfl

/-- With a name that is not admitted, or inside the directory of a function, nothing is done. -/
theorem run_create_of_refused {base name : String}
    (refused : isValidName name = false ∨ (tree.entryAt? (Path.join base codeFile)).isSome = true) :
    ∃ failure, (create base name : StateM FileTree _).run tree = (.error failure, tree) := by
  cases valid : isValidName name with
  | false => exact ⟨_, run_create_of_invalid base valid⟩
  | true => exact ⟨_, run_create_of_inside valid (refused.resolve_left (by simp [valid]))⟩

/-- Otherwise there is a directory first, and then the two files are added. -/
theorem run_create_of_admitted {base name : String} (valid : isValidName name = true)
    (outside : (tree.entryAt? (Path.join base codeFile)).isSome = false) :
    (create base name : StateM FileTree _).run tree =
      match (FileAccess.makeDirectories (Path.join base name) : StateM FileTree _).run tree with
      | (.error error, start) =>
        (.error (.directoryNotMade (Path.join base name) error.message), start)
      | (.ok _, start) =>
        match (addFile { directory := Path.join base name } specFile (specTemplate name) :
          StateM FileTree _).run start with
        | (.error failure, middle) => (.error failure, middle)
        | (.ok first, middle) =>
          (addFile first codeFile codeTemplate : StateM FileTree _).run middle := by
  rw [create]
  simp only [valid, Bool.not_true, Bool.false_eq_true, if_false]
  rw [run_bind, run_entryExists, outside]
  simp only [Bool.false_eq_true, if_false]
  rw [run_bind]
  rcases (FileAccess.makeDirectories (Path.join base name) : StateM FileTree _).run tree with
    ⟨_ | _, start⟩
  · rfl
  · simp only [run_bind]
    rcases (addFile { directory := Path.join base name } specFile (specTemplate name) :
      StateM FileTree _).run start with ⟨_ | _, middle⟩ <;> rfl

/-- A scaffold is made of a valid name outside of the directory of a function: once there is a
directory, the two files are added. -/
theorem steps_of_create {base name : String}
    (created_ok : (create base name : StateM FileTree _).run tree = (.ok scaffold, final)) :
    isValidName name = true ∧ (tree.entryAt? (Path.join base codeFile)).isSome = false ∧
      ∃ start middle first,
        (FileAccess.makeDirectories (Path.join base name) : StateM FileTree _).run tree =
          (.ok (), start) ∧
        (addFile { directory := Path.join base name } specFile (specTemplate name) :
          StateM FileTree _).run start = (.ok first, middle) ∧
        (addFile first codeFile codeTemplate : StateM FileTree _).run middle =
          (.ok scaffold, final) := by
  by_cases refused : isValidName name = false ∨
      (tree.entryAt? (Path.join base codeFile)).isSome = true
  · obtain ⟨failure, run_eq⟩ := run_create_of_refused refused
    cases run_eq.symm.trans created_ok
  · obtain ⟨valid, outside⟩ := not_or.mp refused
    rw [Bool.not_eq_false] at valid
    rw [Bool.not_eq_true] at outside
    rw [run_create_of_admitted valid outside] at created_ok
    split at created_ok
    · cases created_ok
    next start made =>
      split at created_ok
      · cases created_ok
      next first middle added =>
        exact ⟨valid, outside, start, middle, first, made, added, created_ok⟩

/-- A created spec file holds the text that was written to it. -/
theorem readText_of_created {base name : String}
    (created_ok : (create base name : StateM FileTree _).run tree = (.ok scaffold, final))
    (created : Path.join (Path.join base name) specFile ∈ scaffold.created) :
    final.readText (Path.join (Path.join base name) specFile) = .ok (specTemplate name) := by
  obtain ⟨-, -, start, middle, first, -, spec_added, code_added⟩ := steps_of_create created_ok
  obtain ⟨-, spec_cases, directory_eq⟩ := addFile_cases spec_added
  obtain ⟨grown, code_cases, -⟩ := addFile_cases code_added
  have files_differ : Path.join (Path.join base name) specFile ≠
      Path.join first.directory codeFile := fun same => by
    rw [directory_eq] at same
    exact absurd (Path.join_injective (by decide) (by decide) same) (by decide)
  -- The code file is added last and elsewhere, so that the spec file was created before it.
  have created_first : Path.join (Path.join base name) specFile ∈ first.created := by
    rcases code_cases with created_eq | ⟨created_eq, -⟩
    · exact created_eq ▸ created
    · rw [created_eq] at created
      rcases List.mem_append.mp created with before | last
      · exact before
      · exact absurd (List.mem_singleton.mp last) files_differ
  rcases spec_cases with created_eq | ⟨-, read_ok⟩
  · rw [created_eq] at created_first
    cases created_first
  · exact grown.readText read_ok

end Runs

section Names

variable {name : String}

theorem chars_of_isValidName (valid : isValidName name = true) :
    ∃ c rest, name.toList = c :: rest ∧ c.isAlpha = true ∧
      ∀ d ∈ rest, d.isAlphanum = true ∨ d = '-' := by
  unfold isValidName at valid
  split at valid
  · cases valid
  next c rest chars_eq =>
    simp only [Bool.and_eq_true, List.all_eq_true, Bool.or_eq_true, beq_iff_eq] at valid
    exact ⟨c, rest, chars_eq, valid.1.1, valid.2⟩

theorem char_of_isValidName (valid : isValidName name = true) :
    ∀ c ∈ name.toList, c.isAlphanum = true ∨ c = '-' := by
  obtain ⟨c, rest, chars_eq, letter, others⟩ := chars_of_isValidName valid
  have alphanumeric : c.isAlphanum = true := Bool.or_eq_true_iff.mpr (.inl letter)
  rw [chars_eq, List.forall_mem_cons]
  exact ⟨.inl alphanumeric, others⟩

theorem not_mem_of_isValidName (valid : isValidName name = true) : '/' ∉ name.toList := by
  intro mem
  rcases char_of_isValidName valid '/' mem with alphanumeric | dash
  · cases alphanumeric
  · cases dash

theorem ne_of_isValidName (valid : isValidName name = true) (other : String)
    (unlettered : ∀ c ∈ other.toList.head?, c.isAlpha = false) : name ≠ other := by
  obtain ⟨c, rest, chars_eq, letter, -⟩ := chars_of_isValidName valid
  rintro rfl
  rw [chars_eq] at unlettered
  rw [unlettered c rfl] at letter
  cases letter

theorem pieceComponent?_of_isValidName (valid : isValidName name = true) :
    Path.pieceComponent? name = some (.entry name) := by
  have not_empty := ne_of_isValidName valid "" (by simp)
  have not_dot := ne_of_isValidName valid "." (by simp)
  have not_dots := ne_of_isValidName valid ".." (by simp)
  simp [Path.pieceComponent?, Path.isInert, not_empty, not_dot, not_dots]

theorem isAlphanumeric_functionName (valid : isValidName name = true) :
    isAlphanumeric (functionName name) = true := by
  obtain ⟨c, rest, chars_eq, letter, -⟩ := chars_of_isValidName valid
  have not_dash : c ≠ '-' := by
    rintro rfl
    cases letter
  have chars_alphanumeric : ∀ d ∈ name.toList.filter (· ≠ '-'), d.isAlphanum = true := by
    intro d mem
    obtain ⟨d_mem, d_ne⟩ := List.mem_filter.mp mem
    exact (char_of_isValidName valid d d_mem).resolve_right (by simpa using d_ne)
  have some_char : name.toList.filter (· ≠ '-') ≠ [] := by
    rw [chars_eq, List.filter_cons_of_pos (by simpa using not_dash)]
    exact List.cons_ne_nil _ _
  simp only [isAlphanumeric, functionName, String.toList_ofList, Bool.and_eq_true,
    Bool.not_eq_true', List.isEmpty_eq_false_iff, List.all_eq_true]
  exact ⟨some_char, chars_alphanumeric⟩

end Names

/-- The text of a new spec file holds the name of the function. -/
theorem read_specTemplate (name : String) :
    Json.read (specTemplate name) = .ok (.object [("name", .string (functionName name))]) := by
  have chars_eq : (specTemplate name).toList =
      '\x7b' :: '\n' :: ' ' :: ' ' :: '"' :: Json.stringTail "name" (':' :: ' ' :: '"' ::
        Json.stringTail (functionName name) ['\n', '\x7d', '\n']) := by
    simp [specTemplate, Json.pretty, Json.prettyChars, Json.prettyMembers, Json.lineBreak,
      Json.compactChars, Json.stringChars, Json.stringTail, List.replicate]
  have read_name (rest : List Char) :
      Json.readValue 126 (' ' :: '"' :: Json.stringTail (functionName name) rest) =
        .ok (.string (functionName name), rest) := by
    rw [Json.readValue]
    simp [Json.skipSpace, Json.isSpace, Json.readString_stringTail, Except.map]
  rw [Json.read, chars_eq, Json.readChars, Json.nestingLimit, Json.readValue]
  simp [Json.skipSpace, Json.isSpace, Json.readMembers, Json.readString_stringTail,
    Json.readMemberValue, read_name, Entries.insert]

theorem ofText_specTemplate (path name : String) :
    FunctionSpec.ofText path (specTemplate name) = .ok { name := functionName name } := by
  rw [FunctionSpec.ofText, read_specTemplate]
  rfl

/-- What a new spec says of the function of a directory. -/
def reading (name : String) : Reading where
  triggers := [.topic]
  topics := []
  runtime := .node10
  handler := name ++ "/function.fn"

/-- A new spec is in order when its place is known. -/
theorem reads_new {base name : String} (valid : isValidName name = true) {settings : Settings}
    (placed : settings.sourcePath = some (Path.join (Path.join base name) specFile)) :
    ({ name := functionName name } : FunctionSpec).Reads settings (reading name) := by
  have alphanumeric := isAlphanumeric_functionName valid
  have named : functionName name ≠ "" := by
    intro empty
    rw [empty] at alphanumeric
    cases alphanumeric
  have directory_eq : settings.sourcePath.bind Path.directoryName? = some name := by
    rw [placed]
    exact Path.directoryName?_join_join base (ne_of_isValidName valid "" (by simp))
      (not_mem_of_isValidName valid) (by decide) (pieceComponent?_of_isValidName valid) (by decide)
  exact {
    name := by simp [FunctionSpec.checkName, named, alphanumeric]
    triggers := rfl
    topics := rfl
    parameters := fun parameter mem => absurd mem List.not_mem_nil
    runtime := rfl
    handler := by
      simp only [Function.handler, directory_eq]
      rfl
    statements := nofun
  }

theorem collides_new_iff {name : String} :
    ({ name := functionName name } : FunctionSpec).Collides (reading name) ↔
      functionName name ∈
        ["LambdaCfnRole", "LambdaCfnDispatchRole", "ServiceAlarmSNSTopic", "ServiceAlarm"] := by
  rw [FunctionSpec.collides_iff]
  simp [reading, Reading.topicNames, OrderedMap.keys, or_assoc]

/-- A scaffolded function builds: a spec file that was created is loaded as the spec of the function
that the directory is named after, apart from dashes. With its place known, it is compiled to a
template with a description of that name and a handler in that directory, unless the name clashes
with that of a resource which the template has besides. -/
theorem compile_of_created {base name : String} {tree final : FileTree} {scaffold : Scaffold}
    (created_ok : (create base name : StateM FileTree _).run tree = (.ok scaffold, final))
    (created : Path.join (Path.join base name) specFile ∈ scaffold.created) :
    ∃ spec, (FunctionSpec.load (Path.join (Path.join base name) specFile) :
        StateM FileTree _).run final = (.ok spec, final) ∧
      ∀ settings : Settings,
        settings.sourcePath = some (Path.join (Path.join base name) specFile) →
        (functionName name ∉
            ["LambdaCfnRole", "LambdaCfnDispatchRole", "ServiceAlarmSNSTopic", "ServiceAlarm"] →
          ∃ template, spec.compile settings = .ok template ∧
            template.description = some (functionName name ++ " stackfn function") ∧
            template.property? (functionName name) "Handler" =
              some (.string (name ++ "/function.fn"))) ∧
        (functionName name ∈
            ["LambdaCfnRole", "LambdaCfnDispatchRole", "ServiceAlarmSNSTopic", "ServiceAlarm"] →
          ∃ part key, spec.compile settings = .error (.duplicateKey part key)) := by
  obtain ⟨valid, -⟩ := steps_of_create created_ok
  have load_ok := FunctionSpec.run_load (readText_of_created created_ok created)
  rw [ofText_specTemplate] at load_ok
  refine ⟨_, load_ok, fun settings placed => ?_⟩
  have reads := reads_new valid placed
  rw [← collides_new_iff]
  constructor
  · intro distinct
    have within : 5 ≤ Completion.parameterLimit := by decide
    have embed_ok := FunctionSpec.embed_of_not_collides reads distinct within
    have unambiguous := FunctionSpec.unambiguous_of_not_collides reads distinct
    refine ⟨_, congrArg (Except.map _) embed_ok, rfl, ?_⟩
    exact (FunctionSpec.property?_function unambiguous).2
  · intro collides
    obtain ⟨part, key, failed⟩ :=
      FunctionSpec.embed_of_not_unambiguous reads (collides.not_unambiguous reads)
    exact ⟨part, key, congrArg (Except.map _) failed⟩

/-- A tree with one directory, which is the working directory. -/
def workshop : FileTree where
  entries := [(["srv"], .directory)]
  workingDirectory := ["srv"]

/-- The workshop with the files of a scaffold in a directory of applications. -/
def furnished (name : String) : FileTree where
  entries := [
    (["srv"], .directory),
    (["srv", "apps"], .directory),
    (["srv", "apps", name], .directory),
    (["srv", "apps", name, specFile], .text (specTemplate name)),
    (["srv", "apps", name, codeFile], .text codeTemplate)
  ]
  workingDirectory := ["srv"]

theorem workshop_compile_of_created :
    (∃ scaffold spec template,
      (create "apps" "disk-alarm" : StateM FileTree _).run workshop =
        (.ok scaffold, furnished "disk-alarm") ∧
      "apps/disk-alarm/function.json" ∈ scaffold.created ∧
      (FunctionSpec.load "apps/disk-alarm/function.json" : StateM FileTree _).run
        (furnished "disk-alarm") = (.ok spec, furnished "disk-alarm") ∧
      spec.compile { sourcePath := some "apps/disk-alarm/function.json" } = .ok template ∧
      template.description = some "diskalarm stackfn function" ∧
      template.property? "diskalarm" "Handler" = some (.string "disk-alarm/function.fn")) ∧
    ∃ scaffold spec part key,
      (create "apps" "Service-Alarm" : StateM FileTree _).run workshop =
        (.ok scaffold, furnished "Service-Alarm") ∧
      "apps/Service-Alarm/function.json" ∈ scaffold.created ∧
      (FunctionSpec.load "apps/Service-Alarm/function.json" : StateM FileTree _).run
        (furnished "Service-Alarm") = (.ok spec, furnished "Service-Alarm") ∧
      spec.compile { sourcePath := some "apps/Service-Alarm/function.json" } =
        .error (.duplicateKey part key) := by
  constructor
  · have created_ok : (create "apps" "disk-alarm" : StateM FileTree _).run workshop =
        (.ok { directory := "apps/disk-alarm", created :=
          ["apps/disk-alarm/function.json", "apps/disk-alarm/function.js"] },
          furnished "disk-alarm") := by
      change (_ : Except ScaffoldFailure Scaffold × FileTree) = _
      decide +kernel
    obtain ⟨spec, load_ok, compiled⟩ := compile_of_created created_ok (by decide)
    obtain ⟨template, compile_ok, described, handled⟩ :=
      (compiled { sourcePath := some "apps/disk-alarm/function.json" } rfl).1 (by decide)
    exact ⟨_, spec, template, created_ok, by decide, load_ok, compile_ok, described, handled⟩
  · have created_ok : (create "apps" "Service-Alarm" : StateM FileTree _).run workshop =
        (.ok { directory := "apps/Service-Alarm", created :=
          ["apps/Service-Alarm/function.json", "apps/Service-Alarm/function.js"] },
          furnished "Service-Alarm") := by
      change (_ : Except ScaffoldFailure Scaffold × FileTree) = _
      decide +kernel
    obtain ⟨spec, load_ok, compiled⟩ := compile_of_created created_ok (by decide)
    obtain ⟨part, key, failed⟩ :=
      (compiled { sourcePath := some "apps/Service-Alarm/function.json" } rfl).2 (by decide)
    exact ⟨_, spec, part, key, created_ok, by decide, load_ok, failed⟩

end Scaffold
end LambdaStack

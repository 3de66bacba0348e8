import LambdaStack.Console.Running
import LambdaStack.Proofs.Files.Scaffold
import LambdaStack.Proofs.Stack.Deployment
import Mathlib.Data.List.TakeWhile

/-!
# Checks and builds

A check compiles a spec file into a standalone document without a suffix, and a build may do it with
one, or leave out what makes a document standalone. Neither choice decides whether a spec is refused
or how many entries its sections have, so that a check tells beforehand what a build will do. A
build writes at the very end and to one file only.
-/

namespace LambdaStack

namespace FunctionSpec

variable {spec : FunctionSpec} {settings : Settings}

theorem length_resourceEntries_redeployed (reading : Reading)
    (left right : Option DeploymentSuffix) :
    (spec.resourceEntries { settings with deploymentSuffix := left } reading).length =
      (spec.resourceEntries { settings with deploymentSuffix := right } reading).length := by
  have lengths_eq (trigger : Trigger) :
      (Trigger.resources spec.name { settings with deploymentSuffix := left } trigger).length =
        (Trigger.resources spec.name { settings with deploymentSuffix := right }
          trigger).length := by
    cases trigger <;> rfl
  simp only [resourceEntries, List.length_append, List.length_flatMap, lengths_eq]
  rfl

/-- Documents of a spec have as many entries under one suffix as under another. -/
theorem summary_redeployed {left right : Option DeploymentSuffix} {template redeployed : Template}
    (left_ok : spec.embed { settings with deploymentSuffix := left } = .ok template)
    (right_ok : spec.embed { settings with deploymentSuffix := right } = .ok redeployed) :
    redeployed.summary = template.summary := by
  obtain ⟨reading, reads, unambiguous, rfl⟩ := layout_of_embed left_ok
  obtain ⟨redeployed_unambiguous, rfl⟩ := eq_layout_of_embed (reads.redeployed right) right_ok
  have sizes_eq : (spec.layout { settings with deploymentSuffix := right } reading).resources.size =
      (spec.layout { settings with deploymentSuffix := left } reading).resources.size := by
    simp only [layout, OrderedMap.size, OrderedMap.entries_ofList unambiguous.resources,
      OrderedMap.entries_ofList redeployed_unambiguous.resources]
    exact length_resourceEntries_redeployed reading right left
  rw [Template.summary, Template.summary, sizes_eq]
  rfl

end FunctionSpec

namespace Template

/-- The members of a document besides those that make it standalone. -/
def bodyMembers (template : Template) : List (String × Json) :=
  optionalSection .metadata template.metadata ++
    [(Section.parameters.name, .ofMap template.parameters)] ++
    optionalSection .mappings template.mappings ++
    [(Section.conditions.name, .ofMap template.conditions),
      (Section.resources.name, .ofMap template.resources),
      (Section.outputs.name, .ofMap template.outputs)]

/-- The members that make a document standalone. -/
def headMembers (description : String) : List (String × Json) :=
  [("AWSTemplateFormatVersion", "2010-09-09"), ("Description", .string description)]

theorem toJson_standalone (template : Template) (description : String) :
    (template.standalone description).toJson =
      .object (headMembers description ++ template.bodyMembers) := by
  simp [toJson, standalone, headMembers, bodyMembers]

/-- A template without a version and a description is only a body. -/
theorem toJson_body {template : Template} (no_version : template.formatVersion = none)
    (no_description : template.description = none) :
    template.toJson = .object template.bodyMembers := by
  simp [toJson, bodyMembers, no_version, no_description]

/-- An object has a section of some size, the entries of which have different keys. -/
def HasSection (members : List (String × Json)) (key : String) (size : Nat) : Prop :=
  ∃ entries : OrderedMap Json,
    members.lookup key = some (.object entries.entries) ∧ entries.entries.length = size

/-- A summary gives the sizes of the sections of an object. -/
structure Counts (summary : Summary) (members : List (String × Json)) : Prop where
  /-- The number of resources. -/
  resources : HasSection members "Resources" summary.resources
  /-- The number of parameters. -/
  parameters : HasSection members "Parameters" summary.parameters
  /-- The number of conditions. -/
  conditions : HasSection members "Conditions" summary.conditions
  /-- The number of outputs. -/
  outputs : HasSection members "Outputs" summary.outputs

theorem keys_bodyMembers_sublist (template : Template) :
    (Entries.keys template.bodyMembers).Sublist
      ["Metadata", "Parameters", "Mappings", "Conditions", "Resources", "Outputs"] := by
  unfold bodyMembers optionalSection
  split_ifs <;>
    · simp only [Entries.keys_append, Entries.keys_cons, Entries.keys_nil]
      decide

theorem counts_bodyMembers (template : Template) :
    Counts template.summary template.bodyMembers := by
  have nodup := (keys_bodyMembers_sublist template).nodup (by decide)
  have bound (key : String) (entries : OrderedMap Json)
      (mem : (key, Json.ofMap entries) ∈ template.bodyMembers) :
      HasSection template.bodyMembers key entries.size :=
    ⟨entries, Entries.lookup_of_mem nodup mem, rfl⟩
  constructor <;>
    · apply bound
      simp [bodyMembers, Section.name]

/-- A body has none of the members that make a document standalone. -/
theorem not_mem_bodyMembers (template : Template) {key : String}
    (mem : key ∈ ["AWSTemplateFormatVersion", "Description"]) :
    key ∉ Entries.keys template.bodyMembers := by
  intro body_mem
  have named := (keys_bodyMembers_sublist template).mem body_mem
  simp only [List.mem_cons, List.not_mem_nil, or_false] at mem
  rcases mem with rfl | rfl
  · exact absurd named (by decide)
  · exact absurd named (by decide)

end Template

namespace Console

/-- A number in decimal, aligned to the right of three places. -/
def aligned (count : Nat) : String :=
  String.ofList ((toString count).toList.leftpad 3 ' ')

/-- No digit is a blank, so that a number is what follows the blanks. -/
theorem dropWhile_aligned (count : Nat) :
    (aligned count).toList.dropWhile (· == ' ') = Nat.toDigits 10 count := by
  have digits_kept : (Nat.toDigits 10 count).dropWhile (· == ' ') = Nat.toDigits 10 count := by
    refine List.dropWhile_eq_self_iff.mpr fun nonempty blank => ?_
    have digit := Nat.isDigit_of_mem_toDigits (by decide) (by decide) (List.getElem_mem nonempty)
    rw [eq_of_beq blank] at digit
    exact absurd digit (by decide)
  rw [aligned, String.toList_ofList, List.leftpad,
    List.dropWhile_append_of_pos fun blank mem => beq_iff_eq.mpr (List.eq_of_mem_replicate mem),
    Nat.toString_eq_repr, Nat.toList_repr, digits_kept]

/-- What is printed of a number determines it. -/
theorem aligned_injective {left right : Nat} (printed_eq : aligned left = aligned right) :
    left = right := by
  have digits_eq : Nat.toDigits 10 left = Nat.toDigits 10 right := by
    rw [← dropWhile_aligned, printed_eq, dropWhile_aligned]
  have read (count : Nat) : Nat.ofDigitChars 10 (Nat.toDigits 10 count) 0 = count :=
    Nat.ofDigitChars_toDigits (by decide) (by decide)
  rw [← read left, digits_eq, read]

/-- A line of a summary ends with the number, aligned. -/
theorem summaryLine_eq (label shown : String) (count : Nat)
    (shown_eq : "    ▸ " ++ label ++ String.ofList (List.replicate (12 - label.length) ' ') ++ " " =
      shown) :
    "    " ++ Summary.line label count = shown ++ aligned count := by
  have aligned_eq : aligned count =
      String.ofList (List.replicate (3 - (toString count).length) ' ') ++ toString count := by
    rw [aligned, List.leftpad, String.ofList_append, String.length_toList, String.ofList_toList]
  rw [← shown_eq, aligned_eq, Summary.line]
  simp only [← String.append_assoc]
  rfl

/-- The notes of a check: a line for each section, with its label and its number of entries. -/
theorem checkNotes_eq (summary : Summary) :
    checkNotes summary = [
      .line "  ◉ Looking good.",
      .line ("    ▸ resources    " ++ aligned summary.resources),
      .line ("    ▸ parameters   " ++ aligned summary.parameters),
      .line ("    ▸ conditions   " ++ aligned summary.conditions),
      .line ("    ▸ outputs      " ++ aligned summary.outputs),
      .timed "  ◇ Checked"
    ] := by
  rw [checkNotes, Summary.lines, ← summaryLine_eq "resources" _ _ (by decide),
    ← summaryLine_eq "parameters" _ _ (by decide), ← summaryLine_eq "conditions" _ _ (by decide),
    ← summaryLine_eq "outputs" _ _ (by decide)]
  rfl

/-- The notes of a check determine the numbers of entries. -/
theorem checkNotes_injective {left right : Summary}
    (notes_eq : checkNotes left = checkNotes right) : left = right := by
  simp only [checkNotes_eq, List.cons.injEq, Note.line.injEq, String.append_right_inj, true_and,
    and_true] at notes_eq
  obtain ⟨resources_eq, parameters_eq, conditions_eq, outputs_eq⟩ := notes_eq
  cases left
  cases right
  cases aligned_injective resources_eq
  cases aligned_injective parameters_eq
  cases aligned_injective conditions_eq
  cases aligned_injective outputs_eq
  rfl

/-- What a command leaves behind. -/
def Command.outcome (command : Command) (surroundings : Surroundings) (tree : FileTree) : Outcome :=
  ((command.run surroundings : StateM FileTree Outcome).run tree).1

/-- The files after a command. -/
def Command.files (command : Command) (surroundings : Surroundings) (tree : FileTree) : FileTree :=
  ((command.run surroundings : StateM FileTree Outcome).run tree).2

/-- A spec file is refused: it is not loaded, or its spec is not compiled. -/
inductive Refused (tree : FileTree) (path : String) (embed : Bool)
    (suffix : Option DeploymentSuffix) (failure : Failure) : Prop
  /-- There is no spec in the file. -/
  | load (load_failed : (FunctionSpec.load path : StateM FileTree _).run tree =
      (.error failure, tree))
  /-- The spec cannot be compiled. -/
  | compile {spec : FunctionSpec}
      (load_ok : (FunctionSpec.load path : StateM FileTree _).run tree = (.ok spec, tree))
      (failed : templateOf spec { deploymentSuffix := suffix, sourcePath := some path } embed =
        .error failure)

section Runs

variable {tree : FileTree} {path : String} {embed : Bool} {suffix : Option DeploymentSuffix}

theorem run_load_cases (tree : FileTree) (path : String) :
    (∃ failure, (FunctionSpec.load path : StateM FileTree _).run tree = (.error failure, tree)) ∨
      ∃ spec, (FunctionSpec.load path : StateM FileTree _).run tree = (.ok spec, tree) := by
  rw [FunctionSpec.load, FileTree.run_bind, FileTree.run_readText]
  cases tree.readText path with
  | error error => exact .inl ⟨_, rfl⟩
  | ok text =>
      cases read : FunctionSpec.ofText path text with
      | error failure => exact .inl ⟨failure, by simp only [read]; rfl⟩
      | ok spec => exact .inr ⟨spec, by simp only [read]; rfl⟩

theorem run_render_of_load {spec : FunctionSpec}
    (load_ok : (FunctionSpec.load path : StateM FileTree _).run tree = (.ok spec, tree)) :
    (render path embed suffix : StateM FileTree _).run tree =
      (templateOf spec { deploymentSuffix := suffix, sourcePath := some path } embed, tree) := by
  rw [render, FileTree.run_bind, load_ok]
  rfl

theorem run_render_of_refused {failure : Failure}
    (refused : Refused tree path embed suffix failure) :
    (render path embed suffix : StateM FileTree _).run tree = (.error failure, tree) := by
  cases refused with
  | load load_failed =>
      rw [render, FileTree.run_bind, load_failed]
      rfl
  | compile load_ok failed => rw [run_render_of_load load_ok, failed]

theorem run_writeDocument (text : String) (file : String) (tree : FileTree) :
    (writeDocument text (some file) : StateM FileTree _).run tree =
      match tree.writeText file text with
      | .error error => (.failure ("Failed to write " ++ file ++ ": " ++ error.message), tree)
      | .ok written => ({ notes := [.line (successLine ("Wrote " ++ file))] }, written) := by
  rw [writeDocument, FileTree.run_bind, FileTree.run_writeText]
  cases tree.writeText file text <;> rfl

theorem run_build_of_render {template : Template} (output : Option String)
    (rendered : (render path embed suffix : StateM FileTree _).run tree = (.ok template, tree)) :
    (build path output embed suffix : StateM FileTree _).run tree =
      (writeDocument (document template) output : StateM FileTree _).run tree := by
  rw [build, FileTree.run_bind, rendered]

theorem run_build_of_refused {failure : Failure} (output : Option String)
    (refused : Refused tree path embed suffix failure) :
    (build path output embed suffix : StateM FileTree _).run tree =
      (.failure failure.message, tree) := by
  rw [build, FileTree.run_bind, run_render_of_refused refused]
  rfl

end Runs

section Compiled

variable {tree : FileTree} {path : String} {spec : FunctionSpec}

theorem templateOf_eq_error_iff (settings : Settings) (left right : Bool)
    (suffix other : Option DeploymentSuffix) (failure : Failure) :
    templateOf spec { settings with deploymentSuffix := suffix } left = .error failure ↔
      templateOf spec { settings with deploymentSuffix := other } right = .error failure := by
  have of_embed (embed : Bool) (suffix : Option DeploymentSuffix) :
      templateOf spec { settings with deploymentSuffix := suffix } embed = .error failure ↔
        spec.embed { settings with deploymentSuffix := suffix } = .error failure := by
    cases embed
    · exact map_eq_error_iff
    · exact Iff.rfl
  rw [of_embed, of_embed, spec.embed_error_iff settings suffix other]

/-- Whether a spec file is refused, and for what, depends neither on the form of the document nor on
the suffix. -/
theorem Refused.of_refused {left right : Bool} {suffix other : Option DeploymentSuffix}
    {failure : Failure} (refused : Refused tree path left suffix failure) :
    Refused tree path right other failure := by
  cases refused with
  | load load_failed => exact .load load_failed
  | compile load_ok failed =>
      refine .compile load_ok ?_
      exact (templateOf_eq_error_iff { sourcePath := some path } left right suffix other failure).mp
        failed

/-- A spec file that is compiled to some body. -/
structure Accepted (tree : FileTree) (path : String) (spec : FunctionSpec)
    (suffix : Option DeploymentSuffix) (body : Template) : Prop where
  /-- The spec is loaded. -/
  load_ok : (FunctionSpec.load path : StateM FileTree _).run tree = (.ok spec, tree)
  /-- It is compiled to the body. -/
  embed_ok : spec.embed { deploymentSuffix := suffix, sourcePath := some path } = .ok body

theorem Accepted.summary_eq {left right : Option DeploymentSuffix} {template redeployed : Template}
    (first : Accepted tree path spec left template)
    (second : Accepted tree path spec right redeployed) :
    redeployed.summary = template.summary := by
  let settings : Settings := { sourcePath := some path }
  have first_ok : spec.embed { settings with deploymentSuffix := left } = .ok template :=
    first.embed_ok
  have second_ok : spec.embed { settings with deploymentSuffix := right } = .ok redeployed :=
    second.embed_ok
  exact FunctionSpec.summary_redeployed first_ok second_ok

theorem refused_or_accepted (tree : FileTree) (path : String) :
    (∃ failure, ∀ embed suffix, Refused tree path embed suffix failure) ∨
      ∃ spec, ∀ suffix, ∃ body, Accepted tree path spec suffix body := by
  rcases run_load_cases tree path with ⟨failure, load_failed⟩ | ⟨spec, load_ok⟩
  · exact .inl ⟨failure, fun embed suffix => .load load_failed⟩
  · let settings : Settings := { sourcePath := some path }
    cases plain : spec.embed { settings with deploymentSuffix := none } with
    | error failure =>
        have refused : Refused tree path true none failure := .compile load_ok plain
        exact .inl ⟨failure, fun embed suffix => refused.of_refused⟩
    | ok body =>
        refine .inr ⟨spec, fun suffix => ?_⟩
        obtain ⟨redeployed, embed_ok⟩ := FunctionSpec.embed_redeployed plain suffix
        exact ⟨redeployed, load_ok, embed_ok⟩

variable {suffix : Option DeploymentSuffix} {body : Template}

theorem Accepted.toJson_body (accepted : Accepted tree path spec suffix body) :
    body.toJson = .object body.bodyMembers := by
  obtain ⟨reading, -, -, rfl⟩ := FunctionSpec.layout_of_embed accepted.embed_ok
  exact Template.toJson_body rfl rfl

/-- The members of the document that is built of a spec with some body. -/
def builtMembers (spec : FunctionSpec) (body : Template) (embed : Bool) : List (String × Json) :=
  if embed then body.bodyMembers
  else Template.headMembers (spec.name ++ " stackfn function") ++ body.bodyMembers

theorem templateOf_compile {settings : Settings} (embed_ok : spec.embed settings = .ok body) :
    templateOf spec settings false =
      .ok (body.standalone (spec.name ++ " stackfn function")) :=
  congrArg (Except.map _) embed_ok

theorem Accepted.run_build (accepted : Accepted tree path spec suffix body) (embed : Bool)
    (output : Option String) :
    (build path output embed suffix : StateM FileTree _).run tree =
      (writeDocument ((Json.object (builtMembers spec body embed)).pretty ++ "\n") output :
        StateM FileTree _).run tree := by
  cases embed with
  | true =>
      have rendered :
          (render path true suffix : StateM FileTree _).run tree = (.ok body, tree) := by
        rw [run_render_of_load accepted.load_ok]
        exact congrArg (·, tree) accepted.embed_ok
      rw [run_build_of_render output rendered, document, Template.text, accepted.toJson_body]
      rfl
  | false =>
      have rendered : (render path false suffix : StateM FileTree _).run tree =
          (.ok (body.standalone (spec.name ++ " stackfn function")), tree) := by
        rw [run_render_of_load accepted.load_ok, templateOf_compile accepted.embed_ok]
      rw [run_build_of_render output rendered, document, Template.text, Template.toJson_standalone]
      rfl

theorem Accepted.run_check (accepted : Accepted tree path spec none body) :
    (check path : StateM FileTree _).run tree = ({ notes := checkNotes body.summary }, tree) := by
  rw [check, FileTree.run_bind, run_render_of_load accepted.load_ok,
    templateOf_compile accepted.embed_ok]
  rfl

theorem run_check_of_refused {failure : Failure} (refused : Refused tree path false none failure) :
    (check path : StateM FileTree _).run tree = (.failure failure.message, tree) := by
  rw [check, FileTree.run_bind, run_render_of_refused refused]
  rfl

/-- The suffix under which a build compiles. -/
def Surroundings.buildSuffix (here : Surroundings) (deterministic : Bool) :
    Option DeploymentSuffix :=
  here.deploymentSuffix (deterministic || here.deterministic)

theorem Accepted.outcome_build {here : Surroundings} {deterministic : Bool}
    (accepted : Accepted tree path spec (here.buildSuffix deterministic) body) (embed : Bool) :
    (Command.build path none embed deterministic).outcome here tree =
      { output := (Json.object (builtMembers spec body embed)).pretty ++ "\n" } :=
  congrArg Prod.fst (accepted.run_build embed none)

theorem Accepted.outcome_check (accepted : Accepted tree path spec none body)
    (here : Surroundings) :
    (Command.check path).outcome here tree = { notes := checkNotes body.summary } :=
  congrArg Prod.fst accepted.run_check

theorem outcome_check_of_refused {failure : Failure}
    (refused : Refused tree path false none failure) (here : Surroundings) :
    (Command.check path).outcome here tree = .failure failure.message :=
  congrArg Prod.fst (run_check_of_refused refused)

theorem outcome_build_of_refused {here : Surroundings} {embed deterministic : Bool}
    {failure : Failure} (output : Option String)
    (refused : Refused tree path embed (here.buildSuffix deterministic) failure) :
    (Command.build path output embed deterministic).outcome here tree =
        .failure failure.message ∧
      (Command.build path output embed deterministic).files here tree = tree := by
  have run_eq := run_build_of_refused output refused
  exact ⟨congrArg Prod.fst run_eq, congrArg Prod.snd run_eq⟩

/-- A check and a build that prints succeed on the same spec files. -/
theorem exitCode_check_iff (here there : Surroundings) (embed deterministic : Bool) :
    ((Command.check path).outcome here tree).exitCode = 0 ↔
      ((Command.build path none embed deterministic).outcome there tree).exitCode = 0 := by
  rcases refused_or_accepted tree path with ⟨failure, refused⟩ | ⟨spec, accepted⟩
  · rw [outcome_check_of_refused (refused false none),
      (outcome_build_of_refused none (refused embed _)).1]
  · obtain ⟨plain, plain_accepted⟩ := accepted none
    obtain ⟨body, body_accepted⟩ := accepted (there.buildSuffix deterministic)
    rw [plain_accepted.outcome_check, body_accepted.outcome_build]

theorem accepted_of_exitCode_check {here : Surroundings}
    (passed : ((Command.check path).outcome here tree).exitCode = 0) :
    ∃ spec, ∀ suffix, ∃ body, Accepted tree path spec suffix body := by
  rcases refused_or_accepted tree path with ⟨failure, refused⟩ | accepted
  · rw [outcome_check_of_refused (refused false none)] at passed
    cases passed
  · exact accepted

theorem Accepted.run_build_file {here : Surroundings} {deterministic : Bool}
    (accepted : Accepted tree path spec (here.buildSuffix deterministic) body) (embed : Bool)
    (file : String) :
    ((Command.build path (some file) embed deterministic).run here : StateM FileTree _).run tree =
      match tree.writeText file
        ((Command.build path none embed deterministic).outcome here tree).output with
      | .error error => (.failure ("Failed to write " ++ file ++ ": " ++ error.message), tree)
      | .ok written => ({ notes := [.line (successLine ("Wrote " ++ file))] }, written) := by
  rw [accepted.outcome_build embed]
  exact (accepted.run_build embed (some file)).trans (run_writeDocument _ file tree)

/-- A build that succeeds in writing to a file puts there what it would have printed. -/
theorem Accepted.exitCode_build_iff {here : Surroundings} {embed deterministic : Bool}
    {file : String} (accepted : Accepted tree path spec (here.buildSuffix deterministic) body) :
    ((Command.build path (some file) embed deterministic).outcome here tree).exitCode = 0 ↔
      tree.writeText file ((Command.build path none embed deterministic).outcome here tree).output =
        .ok ((Command.build path (some file) embed deterministic).files here tree) := by
  rw [Command.files, Command.outcome, accepted.run_build_file embed file]
  cases tree.writeText file
    ((Command.build path none embed deterministic).outcome here tree).output with
  | error error => simp [Outcome.failure]
  | ok written => simp

end Compiled

/-- A check succeeds just when a build that prints its document does, whatever the form of the
document and the suffix, and its notes count the sections of that document. A build of a spec file
that is refused prints nothing and changes no file. One that succeeds in writing to a file changes
that file only, and puts there what it would have printed. What is printed for merging into a larger
stack is the standalone document without its version and its description. -/
theorem check_predicts_build (tree : FileTree) (path : String) :
    (∀ here there embed deterministic,
      ((Command.check path).outcome here tree).exitCode = 0 ↔
        ((Command.build path none embed deterministic).outcome there tree).exitCode = 0) ∧
    (∀ here there deterministic, ((Command.check path).outcome here tree).exitCode = 0 →
      ∃ summary description members,
        (Command.check path).outcome here tree = { notes := [
          .line "  ◉ Looking good.",
          .line ("    ▸ resources    " ++ aligned summary.resources),
          .line ("    ▸ parameters   " ++ aligned summary.parameters),
          .line ("    ▸ conditions   " ++ aligned summary.conditions),
          .line ("    ▸ outputs      " ++ aligned summary.outputs),
          .timed "  ◇ Checked"
        ] } ∧
        Template.Counts summary members ∧
        (Command.build path none true deterministic).outcome there tree =
          { output := (Json.object members).pretty ++ "\n" } ∧
        (Command.build path none false deterministic).outcome there tree =
          { output := (Json.object
            (("AWSTemplateFormatVersion", "2010-09-09") ::
              ("Description", .string description) :: members)).pretty ++ "\n" } ∧
        ∀ key ∈ ["AWSTemplateFormatVersion", "Description"], key ∉ Entries.keys members) ∧
    (∀ here output embed deterministic failure,
      Refused tree path embed (here.buildSuffix deterministic) failure →
      (Command.build path output embed deterministic).outcome here tree =
        { exitCode := 1, notes := [.line ("  ◆ " ++ failure.message)] } ∧
      (Command.build path output embed deterministic).files here tree = tree) ∧
    ∀ here file embed deterministic,
      ((Command.build path (some file) embed deterministic).outcome here tree).exitCode = 0 →
      ∃ place, tree.resolve file = .ok place ∧
        ((Command.build path (some file) embed deterministic).files here tree).readText file =
          .ok ((Command.build path none embed deterministic).outcome here tree).output ∧
        ∀ other, other ≠ place →
          ((Command.build path (some file) embed deterministic).files here tree).find? other =
            tree.find? other := by
  refine ⟨exitCode_check_iff, ?_, ?_, ?_⟩
  · intro here there deterministic passed
    obtain ⟨spec, accepted⟩ := accepted_of_exitCode_check passed
    obtain ⟨plain, plain_accepted⟩ := accepted none
    obtain ⟨body, body_accepted⟩ := accepted (there.buildSuffix deterministic)
    have summary_eq := plain_accepted.summary_eq body_accepted
    refine ⟨body.summary, spec.name ++ " stackfn function", body.bodyMembers, ?_,
      body.counts_bodyMembers, body_accepted.outcome_build true, body_accepted.outcome_build false,
      fun key => body.not_mem_bodyMembers⟩
    rw [plain_accepted.outcome_check, summary_eq, checkNotes_eq]
  · intro here output embed deterministic failure refused
    exact outcome_build_of_refused output refused
  · intro here file embed deterministic written
    rcases refused_or_accepted tree path with ⟨failure, refused⟩ | ⟨spec, accepted⟩
    · rw [(outcome_build_of_refused (some file) (refused embed _)).1] at written
      cases written
    · obtain ⟨body, body_accepted⟩ := accepted (here.buildSuffix deterministic)
      exact FileTree.changes_of_writeText (body_accepted.exitCode_build_iff.mp written)

/-- A run in which a suffix is drawn. -/
def drawn : Surroundings :=
  { suffix := FunctionSpec.sampleSuffix }

theorem accepted_furnished : ∃ body, Accepted (Scaffold.furnished "disk-alarm")
      "apps/disk-alarm/function.json" { name := Scaffold.functionName "disk-alarm" } none body ∧
    body.summary = { resources := 10, parameters := 5, conditions := 1, outputs := 3 } := by
  have read_ok : (Scaffold.furnished "disk-alarm").readText "apps/disk-alarm/function.json" =
      .ok (Scaffold.specTemplate "disk-alarm") := by decide +kernel
  have load_ok := FunctionSpec.run_load read_ok
  rw [Scaffold.ofText_specTemplate] at load_ok
  let settings : Settings := { sourcePath := some "apps/disk-alarm/function.json" }
  have placed : settings.sourcePath =
      some (Path.join (Path.join "apps" "disk-alarm") Scaffold.specFile) := by decide
  have reads := Scaffold.reads_new (by decide) placed
  have distinct : ¬FunctionSpec.Collides { name := Scaffold.functionName "disk-alarm" }
      (Scaffold.reading "disk-alarm") := by
    rw [Scaffold.collides_new_iff]
    decide
  refine ⟨_, ⟨load_ok, FunctionSpec.embed_of_not_collides reads distinct (by decide)⟩, ?_⟩
  decide +kernel

/-- A code file is no spec file. -/
theorem refused_furnished (embed : Bool) (suffix : Option DeploymentSuffix) :
    Refused (Scaffold.furnished "disk-alarm") "apps/disk-alarm/function.js" embed suffix
      (.unparsableFile "apps/disk-alarm/function.js" "expected value at line 1 column 1") := by
  have read_ok : (Scaffold.furnished "disk-alarm").readText "apps/disk-alarm/function.js" =
      .ok Scaffold.codeTemplate := by decide +kernel
  have text_refused : FunctionSpec.ofText "apps/disk-alarm/function.js" Scaffold.codeTemplate =
      .error (.unparsableFile "apps/disk-alarm/function.js"
        "expected value at line 1 column 1") := by
    decide +kernel
  exact .load ((FunctionSpec.run_load read_ok).trans (text_refused ▸ rfl))

theorem exitCode_check_furnished : ((Command.check "apps/disk-alarm/function.json").outcome drawn
    (Scaffold.furnished "disk-alarm")).exitCode = 0 := by
  obtain ⟨body, accepted, -⟩ := accepted_furnished
  rw [accepted.outcome_check]

/-- The document of the spec file can be written to the working directory. -/
theorem exitCode_build_furnished :
    ((Command.build "apps/disk-alarm/function.json" (some "stack.json") false false).outcome drawn
      (Scaffold.furnished "disk-alarm")).exitCode = 0 := by
  obtain ⟨spec, accepted⟩ := accepted_of_exitCode_check exitCode_check_furnished
  obtain ⟨body, accepted⟩ := accepted (drawn.buildSuffix false)
  have writable (text : String) : ∃ written,
      (Scaffold.furnished "disk-alarm").writeText "stack.json" text = .ok written :=
    ⟨_, FileTree.writeText_eq_ok_iff.mpr
      ⟨["srv", "stack.json"], by decide +kernel, by decide, rfl⟩⟩
  obtain ⟨final, write_ok⟩ := writable _
  rw [Command.outcome, accepted.run_build_file false "stack.json", write_ok]

theorem furnished_check_predicts_build :
    (Command.check "apps/disk-alarm/function.json").outcome drawn
      (Scaffold.furnished "disk-alarm") = { notes := [
        .line "  ◉ Looking good.",
        .line "    ▸ resources     10",
        .line "    ▸ parameters     5",
        .line "    ▸ conditions     1",
        .line "    ▸ outputs        3",
        .timed "  ◇ Checked"
      ] } ∧
    (∃ members,
      (Command.build "apps/disk-alarm/function.json" none true false).outcome drawn
        (Scaffold.furnished "disk-alarm") = { output := (Json.object members).pretty ++ "\n" } ∧
      Template.HasSection members "Resources" 10 ∧ Template.HasSection members "Parameters" 5 ∧
      Template.HasSection members "Conditions" 1 ∧ Template.HasSection members "Outputs" 3) ∧
    ((Command.build "apps/disk-alarm/function.json" none true false).outcome drawn
      (Scaffold.furnished "disk-alarm")).exitCode = 0 ∧
    (Command.build "apps/disk-alarm/function.js" (some "stack.json") true false).outcome drawn
      (Scaffold.furnished "disk-alarm") = { exitCode := 1, notes := [
        .line ("  ◆ Failed to parse function spec 'apps/disk-alarm/function.js': " ++
          "expected value at line 1 column 1")
      ] } ∧
    (Command.build "apps/disk-alarm/function.js" (some "stack.json") true false).files drawn
      (Scaffold.furnished "disk-alarm") = Scaffold.furnished "disk-alarm" ∧
    ((Command.build "apps/disk-alarm/function.json" (some "stack.json") false false).files drawn
      (Scaffold.furnished "disk-alarm")).readText "stack.json" =
        .ok ((Command.build "apps/disk-alarm/function.json" none false false).outcome drawn
          (Scaffold.furnished "disk-alarm")).output := by
  obtain ⟨body, accepted, summary_eq⟩ := accepted_furnished
  obtain ⟨predicts, counts, -, writes⟩ :=
    check_predicts_build (Scaffold.furnished "disk-alarm") "apps/disk-alarm/function.json"
  obtain ⟨-, -, refuses, -⟩ :=
    check_predicts_build (Scaffold.furnished "disk-alarm") "apps/disk-alarm/function.js"
  obtain ⟨told, left_alone⟩ :=
    refuses drawn (some "stack.json") true false _ (refused_furnished true _)
  obtain ⟨summary, -, members, counted, sections, printed, -⟩ :=
    counts drawn drawn false exitCode_check_furnished
  -- The printed lines tell which numbers the theorem speaks of.
  have counts_eq : summary = body.summary := by
    rw [accepted.outcome_check drawn, ← checkNotes_eq] at counted
    exact (checkNotes_injective (congrArg Outcome.notes counted)).symm
  rw [counts_eq, summary_eq] at counted sections
  refine ⟨counted, ⟨members, printed, sections.resources, sections.parameters,
    sections.conditions, sections.outputs⟩,
    (predicts drawn drawn true false).mp exitCode_check_furnished, told, left_alone, ?_⟩
  obtain ⟨place, -, read_ok, -⟩ :=
    writes drawn "stack.json" false false exitCode_build_furnished
  exact read_ok

end Console
end LambdaStack

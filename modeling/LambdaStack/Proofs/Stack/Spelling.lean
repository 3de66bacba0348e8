import LambdaStack.Notice.Routing
import LambdaStack.Proofs.Document.Evaluation
import LambdaStack.Proofs.Stack.Acceptance

/-!
# Spelling of identifiers

Every identifier of a document is a non-empty word of ASCII letters and digits, whatever the spec
says and whatever suffix its deployments have. Names reach a document by four ways: as that of the
function, of a declared parameter or of a destination, and as a deployment suffix. Each of them is
spelled so, and so is all that is added to them. No variable of the function can therefore have a
name with another character in it, such as the one that switches test mode on.
-/

namespace LambdaStack

open Identifier

/-- A non-empty word of ASCII letters and digits. -/
structure Identifier.AsciiWord (name : String) : Prop where
  /-- The word has a character. -/
  ne_empty : name ≠ ""
  /-- Each character is a capital, a small letter or a digit. -/
  chars : ∀ c ∈ name.toList,
    ('A' ≤ c ∧ c ≤ 'Z') ∨ ('a' ≤ c ∧ c ≤ 'z') ∨ ('0' ≤ c ∧ c ≤ '9')

theorem isAlphanum_iff {c : Char} :
    c.isAlphanum = true ↔
      ('A' ≤ c ∧ c ≤ 'Z') ∨ ('a' ≤ c ∧ c ≤ 'z') ∨ ('0' ≤ c ∧ c ≤ '9') := by
  have capital : c.isUpper = true ↔ 'A' ≤ c ∧ c ≤ 'Z' := decide_eq_true_iff
  have small : c.isLower = true ↔ 'a' ≤ c ∧ c ≤ 'z' :=
    (Bool.and_eq_true_iff).trans (and_congr decide_eq_true_iff decide_eq_true_iff)
  have digit : c.isDigit = true ↔ '0' ≤ c ∧ c ≤ '9' :=
    (Bool.and_eq_true_iff).trans (and_congr decide_eq_true_iff decide_eq_true_iff)
  have classes : c.isAlphanum = ((c.isUpper || c.isLower) || c.isDigit) := rfl
  rw [classes, Bool.or_eq_true, Bool.or_eq_true, capital, small, digit, or_assoc]

theorem isAlphanumeric_iff {name : String} : isAlphanumeric name = true ↔ AsciiWord name := by
  simp only [isAlphanumeric, Bool.and_eq_true, Bool.not_eq_true', List.isEmpty_eq_false_iff,
    List.all_eq_true, isAlphanum_iff]
  constructor
  · rintro ⟨nonempty, chars⟩
    exact ⟨fun empty => nonempty (by rw [empty]; rfl), chars⟩
  · rintro ⟨nonempty, chars⟩
    exact ⟨fun empty => nonempty (String.toList_eq_nil_iff.mp empty), chars⟩

theorem Trigger.all_isAlphanum_of_mem_outputSuffixes {trigger : Trigger} {suffix : String}
    (mem : suffix ∈ trigger.outputSuffixes) : suffix.toList.all Char.isAlphanum := by
  rcases trigger with _ | _ | options
  · simp only [outputSuffixes, List.mem_cons, List.not_mem_nil, or_false] at mem
    rcases mem with rfl | rfl | rfl <;> decide
  · cases mem
  · simp only [outputSuffixes, List.mem_cons] at mem
    rcases mem with rfl | key
    · decide
    · split at key
      · rw [List.mem_singleton.mp key]
        decide
      · cases key

namespace FunctionSpec

variable {spec : FunctionSpec} {settings : Settings} {reading : Reading}

theorem isAlphanumeric_of_mem_parameterEntries (reads : spec.Reads settings reading)
    {key : String} (mem : key ∈ Entries.keys (spec.parameterEntries reading)) :
    isAlphanumeric key := by
  have listed := (keys_parameterEntries_perm spec reading).mem_iff.mp mem
  simp only [List.mem_append] at listed
  rcases listed with declared | shared | email
  · exact isAlphanumeric_of_declared reads declared
  · have shared_ok : ∀ shared ∈ sharedParameters, isAlphanumeric shared := by decide
    exact shared_ok key shared
  · obtain ⟨name, name_mem, rfl⟩ := List.mem_map.mp email
    exact isAlphanumeric_append (reads.isAlphanumeric_topicName name_mem) (by decide)

theorem isAlphanumeric_of_mem_outputEntries (reads : spec.Reads settings reading)
    {key : String} (mem : key ∈ Entries.keys (spec.outputEntries reading)) :
    isAlphanumeric key := by
  rw [keys_outputEntries] at mem
  obtain ⟨suffix, suffix_mem, rfl⟩ := List.mem_map.mp mem
  obtain ⟨trigger, -, suffix_mem⟩ := List.mem_flatMap.mp suffix_mem
  exact isAlphanumeric_append reads.isAlphanumeric_name
    (Trigger.all_isAlphanum_of_mem_outputSuffixes suffix_mem)

/-- Variables have alphanumeric names, those of the stack included. -/
theorem isAlphanumeric_of_mem_variableEntries (reads : spec.Reads settings reading)
    {key : String} (mem : key ∈ Entries.keys (spec.variableEntries reading)) :
    isAlphanumeric key := by
  rw [keys_variableEntries] at mem
  simp only [List.mem_append, List.mem_cons] at mem
  rcases mem with ((rfl | topic) | stack) | parameter
  · decide
  · obtain ⟨name, name_mem, rfl⟩ := List.mem_map.mp topic
    exact isAlphanumeric_append (reads.isAlphanumeric_topicName name_mem) (by decide)
  · have stack_ok : ∀ stack ∈ Entries.keys Completion.stackVariables, isAlphanumeric stack := by
      decide
    exact stack_ok key stack
  · exact isAlphanumeric_of_mem_parameterEntries reads parameter

end FunctionSpec

/-- All identifiers of a template and the names of some variables are ASCII words. -/
structure Template.SpelledInAscii (template : Template) (bound : List (String × Json)) : Prop where
  /-- The parameters. -/
  parameters : ∀ key ∈ template.parameters.keys, AsciiWord key
  /-- The conditions. -/
  conditions : ∀ key ∈ template.conditions.keys, AsciiWord key
  /-- The resources. -/
  resources : ∀ key ∈ template.resources.keys, AsciiWord key
  /-- The outputs. -/
  outputs : ∀ key ∈ template.outputs.keys, AsciiWord key
  /-- The variables. -/
  environment : ∀ key ∈ Entries.keys bound, AsciiWord key

namespace FunctionSpec

variable {spec : FunctionSpec} {settings : Settings} {reading : Reading}

theorem spelledInAscii_layout (reads : spec.Reads settings reading) :
    (spec.layout settings reading).SpelledInAscii (spec.boundVariables reading) where
  parameters _ mem := isAlphanumeric_iff.mp <|
    isAlphanumeric_of_mem_parameterEntries reads (OrderedMap.mem_keys_ofList.mp mem)
  conditions key mem := by
    have key_eq : key = Names.hasDispatch := List.mem_singleton.mp mem
    rw [key_eq]
    exact isAlphanumeric_iff.mp (by decide)
  resources _ mem := isAlphanumeric_iff.mp (isAlphanumeric_of_mem_resources reads mem)
  outputs _ mem := isAlphanumeric_iff.mp <|
    isAlphanumeric_of_mem_outputEntries reads (OrderedMap.mem_keys_ofList.mp mem)
  environment _ mem := isAlphanumeric_iff.mp <|
    isAlphanumeric_of_mem_variableEntries reads (OrderedMap.mem_keys_ofList.mp mem)

/-- Whatever a spec and its settings say, the identifiers of what is compiled and the variables of
the function are ASCII words. None of the variables switches test mode on. -/
theorem spelledInAscii_of_embed {template : Template}
    (embed_ok : spec.embed settings = .ok template) :
    ∃ function bound, template.resources.find? spec.name = some function ∧
      function.at? ["Properties", "Environment", "Variables"] = some (.object bound) ∧
      template.SpelledInAscii bound ∧ "STACKFN_ENV" ∉ Entries.keys bound := by
  obtain ⟨reading, reads, unambiguous, rfl⟩ := layout_of_embed embed_ok
  have spelled := spelledInAscii_layout reads
  refine ⟨_, spec.boundVariables reading, (find?_resources unambiguous).mpr .function, rfl,
    spelled, fun mem => ?_⟩
  exact absurd (isAlphanumeric_iff.mpr (spelled.environment _ mem)) (by decide)

theorem sample_spelledInAscii : ∃ template function bound,
    sample.embed { deploymentSuffix := some ⟨Vector.replicate 10 35⟩ } = .ok template ∧
    "reportWebhookApiDeploymentzzzzzzzzzz" ∈ template.resources.keys ∧
    template.resources.find? "report" = some function ∧
    function.at? ["Properties", "Environment", "Variables"] = some (.object bound) ∧
    template.SpelledInAscii bound ∧ "STACKFN_ENV" ∉ Entries.keys bound := by
  have reads : sample.Reads { deploymentSuffix := some ⟨Vector.replicate 10 35⟩ } sampleReading :=
    { reads_sample with }
  have embed_ok := embed_of_not_collides reads sample_distinct (by decide)
  obtain ⟨function, bound, found, bound_eq, spelled, absent⟩ := spelledInAscii_of_embed embed_ok
  refine ⟨_, function, bound, embed_ok, ?_, found, bound_eq, spelled, absent⟩
  exact OrderedMap.mem_keys_ofList.mpr (by decide)

end FunctionSpec
end LambdaStack

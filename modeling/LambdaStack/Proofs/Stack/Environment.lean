import LambdaStack.Proofs.Document.Evaluation
import LambdaStack.Proofs.Stack.Acceptance

/-!
# The environment of the function

The variables with which a compiled function runs, name by name and in order. Topics come first,
then what identifies the stack, then the parameters of the document. A name that comes back keeps
its first place and takes its last value, so that a parameter is visible whatever it is called.
-/

namespace LambdaStack

open Identifier

/-- Variables that hold the identity of the stack, unless a parameter has their name. -/
def Template.identityNames : List String :=
  ["StackName", "Region", "AccountId", "StackId"]

/-- What the variable of a name refers to: whatever has that name, unless only the stack has it. -/
def Template.variableTarget (template : Template) (name : String) : String :=
  if name ∈ identityNames ∧ name ∉ template.parameters.keys then "AWS::" ++ name else name

namespace FunctionSpec

/-- Variables that hold the topics of a spec. -/
def topicVariableNames (spec : FunctionSpec) : List String :=
  "ServiceAlarmSNSTopic" :: spec.destinationNames.map (· ++ "Topic")

/-- The variables of a compiled function, each at the first place where its name is due. -/
def environmentOf (spec : FunctionSpec) (template : Template) : List (String × Json) :=
  (spec.topicVariableNames ++ Template.identityNames ++ template.parameters.keys).eraseDups.map
    fun name => (name, .object [("Ref", .string (template.variableTarget name))])

variable {spec : FunctionSpec} {settings : Settings} {reading : Reading}

theorem topicName_not_mem_identityNames {name : String} (mem : name ∈ spec.topicVariableNames) :
    name ∉ Template.identityNames := by
  have endings_differ : ∀ identity ∈ Template.identityNames, ending identity ≠ ending "Topic" := by
    decide
  intro identity
  rcases List.mem_cons.mp mem with rfl | topic_mem
  · exact endings_differ _ identity (by decide)
  · obtain ⟨topic, -, rfl⟩ := List.mem_map.mp topic_mem
    exact endings_differ _ identity (ending_append topic (by decide))

theorem eq_reference_of_mem_stackVariables {name : String} {value : Json}
    (mem : (name, value) ∈ Completion.stackVariables) :
    name ∈ Template.identityNames ∧ value = .object [("Ref", .string ("AWS::" ++ name))] := by
  simp only [Completion.stackVariables, List.mem_cons, List.not_mem_nil, or_false,
    Prod.mk.injEq] at mem
  rcases mem with ⟨rfl, rfl⟩ | ⟨rfl, rfl⟩ | ⟨rfl, rfl⟩ | ⟨rfl, rfl⟩
  all_goals exact ⟨by decide, rfl⟩

theorem Unambiguous.keys_parameters (unambiguous : spec.Unambiguous settings reading) :
    (spec.layout settings reading).parameters.keys = Entries.keys (spec.parameterEntries reading) :=
  OrderedMap.keys_ofList unambiguous.parameters

theorem keys_boundVariables (reads : spec.Reads settings reading)
    (unambiguous : spec.Unambiguous settings reading) :
    Entries.keys (spec.boundVariables reading) =
      (spec.topicVariableNames ++ Template.identityNames ++
        (spec.layout settings reading).parameters.keys).eraseDups := by
  have keys_eq := OrderedMap.keys_ofList_eq_eraseDups (spec.variableEntries reading)
  rw [keys_variableEntries, reads.topicNames_eq, ← unambiguous.keys_parameters] at keys_eq
  exact keys_eq

/-- A variable holds what its target refers to. -/
theorem value_of_mem_boundVariables (reads : spec.Reads settings reading)
    (unambiguous : spec.Unambiguous settings reading) {name : String} {value : Json}
    (mem : (name, value) ∈ spec.boundVariables reading) :
    value = .object [("Ref", .string ((spec.layout settings reading).variableTarget name))] := by
  rw [Template.variableTarget, unambiguous.keys_parameters]
  by_cases parameter : name ∈ Entries.keys (spec.parameterEntries reading)
  · rw [if_neg fun identity => identity.2 parameter]
    exact Entries.eq_of_mem_of_mem (OrderedMap.nodup _) mem (parameter_mem_boundVariables parameter)
  · rcases variableEntries_cases (OrderedMap.mem_of_mem_ofList mem) with
      ⟨value_eq, topic⟩ | stack_mem | ⟨-, parameter_mem⟩
    · have topic_mem : name ∈ spec.topicVariableNames := by
        rw [topicVariableNames, ← reads.topicNames_eq]
        exact List.mem_cons.mpr topic
      rw [if_neg fun identity => topicName_not_mem_identityNames topic_mem identity.1]
      exact value_eq
    · obtain ⟨identity, value_eq⟩ := eq_reference_of_mem_stackVariables stack_mem
      rw [if_pos ⟨identity, parameter⟩]
      exact value_eq
    · exact absurd parameter_mem parameter

theorem boundVariables_eq (reads : spec.Reads settings reading)
    (unambiguous : spec.Unambiguous settings reading) :
    spec.boundVariables reading = spec.environmentOf (spec.layout settings reading) := by
  have entries_eq := OrderedMap.entries_eq_map_keys (.ofList (spec.variableEntries reading))
    fun _ _ => value_of_mem_boundVariables reads unambiguous
  rw [environmentOf, ← keys_boundVariables reads unambiguous]
  exact entries_eq

theorem mem_environmentOf {template : Template} {name : String}
    (mem : name ∈ spec.topicVariableNames ++ template.parameters.keys) :
    (name, .object [("Ref", .string name)]) ∈ spec.environmentOf template := by
  have target_eq : template.variableTarget name = name := by
    refine if_neg fun identity => ?_
    rcases List.mem_append.mp mem with topic | parameter
    · exact topicName_not_mem_identityNames topic identity.1
    · exact identity.2 parameter
  refine List.mem_map.mpr ⟨name, ?_, by rw [target_eq]⟩
  rw [List.mem_eraseDups, List.append_assoc]
  rcases List.mem_append.mp mem with topic | parameter
  · exact List.mem_append_left _ topic
  · exact List.mem_append_right _ (List.mem_append_right _ parameter)

/-- A compiled function runs with just the variables that are due, in order. All topics and all
parameters are among them, and each holds what has its own name. -/
theorem environment_of_embed {template : Template} (embed_ok : spec.embed settings = .ok template) :
    ∃ function, template.resources.find? spec.name = some function ∧
      function.at? ["Properties", "Environment", "Variables"] =
        some (.object (spec.environmentOf template)) ∧
      ∀ name ∈ spec.topicVariableNames ++ template.parameters.keys,
        (name, .object [("Ref", .string name)]) ∈ spec.environmentOf template := by
  obtain ⟨reading, reads, unambiguous, rfl⟩ := layout_of_embed embed_ok
  refine ⟨_, (find?_resources unambiguous).mpr .function, ?_, fun name => mem_environmentOf⟩
  rw [← boundVariables_eq reads unambiguous]
  rfl

/-- The sample with parameters that are named like its topic and like a variable of the stack. -/
def shadowing : FunctionSpec :=
  { sample with
    parameters := .ofList [
      ("operatorsTopic", { type := some "String", description := some "Topic" }),
      ("Region", { type := some "String", description := some "Region" })
    ] }

theorem reads_shadowing : shadowing.Reads {} sampleReading :=
  { reads_sample with
    parameters := by
      intro parameter mem
      rcases List.mem_pair.mp mem with rfl | rfl <;> rfl }

theorem shadowing_environment : ∃ template function, shadowing.embed {} = .ok template ∧
    template.resources.find? "report" = some function ∧
    function.at? ["Properties", "Environment", "Variables"] = some (.object [
      ("ServiceAlarmSNSTopic", .object [("Ref", "ServiceAlarmSNSTopic")]),
      ("operatorsTopic", .object [("Ref", "operatorsTopic")]),
      ("StackName", .object [("Ref", "AWS::StackName")]),
      ("Region", .object [("Ref", "Region")]),
      ("AccountId", .object [("Ref", "AWS::AccountId")]),
      ("StackId", .object [("Ref", "AWS::StackId")]),
      ("CodeS3Bucket", .object [("Ref", "CodeS3Bucket")]),
      ("CodeS3Prefix", .object [("Ref", "CodeS3Prefix")]),
      ("GitSha", .object [("Ref", "GitSha")]),
      ("ServiceAlarmEmail", .object [("Ref", "ServiceAlarmEmail")]),
      ("operatorsEmail", .object [("Ref", "operatorsEmail")]),
      ("DispatchSnsArn", .object [("Ref", "DispatchSnsArn")])
    ]) := by
  have unambiguous := (unambiguous_iff_not_collides reads_shadowing).mpr (by decide)
  have embed_ok : shadowing.embed {} = .ok (shadowing.layout {} sampleReading) := by
    rw [embed_of_unambiguous reads_shadowing unambiguous]
    exact if_neg (by decide)
  obtain ⟨function, found, variables_eq, -⟩ := environment_of_embed embed_ok
  exact ⟨_, function, embed_ok, found, variables_eq⟩

end FunctionSpec
end LambdaStack

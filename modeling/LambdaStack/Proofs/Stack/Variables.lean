import LambdaStack.Proofs.Document.Mentions
import LambdaStack.Proofs.Stack.Layout

/-!
# Variables of the function

The variables with which the function runs: those that fragments give, those of the stack, and the
parameters. All but those of the stack hold what their own names refer to, and parameters replace
variables of the same name.
-/

namespace LambdaStack

namespace FunctionSpec

theorem keys_topicVariables (reading : Reading) :
    Entries.keys (topicVariables reading) =
      Names.alarmTopic :: reading.topicNames.map (· ++ "Topic") := by
  simp [topicVariables, Entries.keys, Reading.topicNames, TopicDestination.topicName]

theorem variableEntries_cases {spec : FunctionSpec} {reading : Reading} {key : String}
    {value : Json} (mem : (key, value) ∈ spec.variableEntries reading) :
    (value = Expression.reference key ∧ (key = Names.alarmTopic ∨
      key ∈ reading.topicNames.map (· ++ "Topic"))) ∨
    (key, value) ∈ Completion.stackVariables ∨
    (value = Expression.reference key ∧ key ∈ Entries.keys (spec.parameterEntries reading)) := by
  simp only [variableEntries, topicVariables, List.mem_append, List.mem_cons, List.mem_map,
    Prod.mk.injEq] at mem
  rcases mem with ((⟨rfl, rfl⟩ | ⟨topic, topic_mem, rfl, rfl⟩) | stack_mem) |
    ⟨name, name_mem, rfl, rfl⟩
  · exact .inl ⟨rfl, .inl rfl⟩
  · refine .inl ⟨rfl, .inr (List.mem_map.mpr ⟨topic.name, ?_, rfl⟩)⟩
    exact List.mem_map_of_mem topic_mem
  · exact .inr (.inl stack_mem)
  · exact .inr (.inr ⟨rfl, name_mem⟩)

theorem stackVariable_cases {key : String} {value : Json}
    (mem : (key, value) ∈ Completion.stackVariables) :
    ∃ name ∈ Expression.pseudoNames, value = Expression.reference name := by
  simp only [Completion.stackVariables, List.mem_cons, List.not_mem_nil, or_false,
    Prod.mk.injEq] at mem
  rcases mem with ⟨-, rfl⟩ | ⟨-, rfl⟩ | ⟨-, rfl⟩ | ⟨-, rfl⟩
  all_goals exact ⟨_, by decide, rfl⟩

/-- Every variable but those of the stack holds the value that its own name refers to. -/
theorem variable_eq_reference {spec : FunctionSpec} {reading : Reading} {key : String}
    {value : Json} (mem : (key, value) ∈ spec.variableEntries reading)
    (own : (key, value) ∉ Completion.stackVariables) : value = Expression.reference key := by
  rcases variableEntries_cases mem with ⟨value_eq, -⟩ | stack_mem | ⟨value_eq, -⟩
  · exact value_eq
  · exact absurd stack_mem own
  · exact value_eq

theorem keys_variableEntries (spec : FunctionSpec) (reading : Reading) :
    Entries.keys (spec.variableEntries reading) =
      Names.alarmTopic :: reading.topicNames.map (· ++ "Topic") ++
        Entries.keys Completion.stackVariables ++ Entries.keys (spec.parameterEntries reading) := by
  have parameters_eq : Entries.keys ((Entries.keys (spec.parameterEntries reading)).map fun name =>
      (name, Expression.reference name)) = Entries.keys (spec.parameterEntries reading) := by
    simp [Entries.keys]
  rw [variableEntries, Entries.keys_append, Entries.keys_append, keys_topicVariables,
    parameters_eq]

theorem dispatchTopic_mem_keys (spec : FunctionSpec) (reading : Reading) :
    Names.dispatchTopic ∈ Entries.keys (spec.parameterEntries reading) := by
  simp [parameterEntries]

theorem emailName_mem_keys (spec : FunctionSpec) {reading : Reading} {topic : TopicDestination}
    (mem : topic ∈ reading.topics) :
    topic.emailName ∈ Entries.keys (spec.parameterEntries reading) := by
  have entry_mem : (topic.emailName, topic.email) ∈ spec.parameterEntries reading :=
    List.mem_append_left _ (List.mem_append_right _ (List.mem_map.mpr ⟨topic, mem, rfl⟩))
  exact Entries.mem_keys_of_mem entry_mem

/-- The variables as they stand in the document. -/
def boundVariables (spec : FunctionSpec) (reading : Reading) : List (String × Json) :=
  (OrderedMap.ofList (spec.variableEntries reading)).entries

/-- The topic of alarms is bound to its own reference. -/
theorem alarmTopic_mem_boundVariables (spec : FunctionSpec) (reading : Reading) :
    (Names.alarmTopic, Expression.reference Names.alarmTopic) ∈ spec.boundVariables reading := by
  have key_mem : Names.alarmTopic ∈ Entries.keys (spec.variableEntries reading) := by
    rw [keys_variableEntries]
    exact List.mem_append_left _ (List.mem_append_left _ List.mem_cons_self)
  obtain ⟨value, mem⟩ := Entries.mem_keys.mp (OrderedMap.mem_keys_ofList.mpr key_mem)
  have own : (Names.alarmTopic, value) ∉ Completion.stackVariables := fun stack_mem =>
    absurd (Entries.mem_keys_of_mem stack_mem) (by decide)
  rw [← variable_eq_reference (OrderedMap.mem_of_mem_ofList mem) own]
  exact mem

/-- Every parameter is bound to its own reference, whatever else has its name. -/
theorem parameter_mem_boundVariables {spec : FunctionSpec} {reading : Reading} {name : String}
    (mem : name ∈ Entries.keys (spec.parameterEntries reading)) :
    (name, Expression.reference name) ∈ spec.boundVariables reading := by
  rw [boundVariables, ← OrderedMap.find?_eq_some_iff, variableEntries]
  apply OrderedMap.find?_ofList_append_of_mem
  · simpa [Entries.keys] using mem
  · rintro value value_mem
    obtain ⟨other, -, entry_eq⟩ := List.mem_map.mp value_mem
    cases entry_eq
    rfl

end FunctionSpec
end LambdaStack

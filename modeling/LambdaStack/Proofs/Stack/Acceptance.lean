import LambdaStack.Proofs.Stack.Identifiers
import LambdaStack.Proofs.Stack.Variables

/-!
# Acceptance

Which specs are compiled. Identifiers are words put together without a separator, so two of them can
agree although they are made for different things; the ways in which they do are listed here, and
there are no others. A spec whose fields are in order and whose identifiers are distinct is refused
only for the number of its parameters.
-/

namespace LambdaStack

open Identifier

namespace FunctionSpec

/-- The ways in which two identifiers of one document agree. -/
inductive Collides (spec : FunctionSpec) (reading : Reading) : Prop where
  /-- The function is named like a resource that every document has. -/
  | shared (mem : spec.name ∈ ["LambdaCfnRole", "LambdaCfnDispatchRole", "ServiceAlarmSNSTopic"])
  /-- The topic that triggers the function is named like the topic of alarms. -/
  | alarmTopic (name_eq : spec.name = "ServiceAlarm")
    (uses_topic : Trigger.topic ∈ reading.triggers)
  /-- The function is named like the topic of a destination. -/
  | functionTopic (name : String) (mem : name ∈ reading.topicNames)
    (name_eq : spec.name = name ++ "Topic")
  /-- A destination shares the address or the topic of alarms. -/
  | alarmDestination (name : String) (mem : name ∈ reading.topicNames)
    (reserved : name ∈ ["ServiceAlarm", "ServiceAlarmSNS"])
  /-- The topic that triggers the function is named like the topic of a destination. -/
  | triggerTopic (mem : spec.name ++ "SNS" ∈ reading.topicNames)
    (uses_topic : Trigger.topic ∈ reading.triggers)
  /-- A declared parameter is named like one that every document has. -/
  | parameter (name : String) (mem : name ∈ spec.parameters.keys)
    (reserved : name ∈
      ["CodeS3Bucket", "CodeS3Prefix", "GitSha", "ServiceAlarmEmail", "DispatchSnsArn"])
  /-- A declared parameter is named like the address of a destination. -/
  | email (name : String) (mem : name ∈ reading.topicNames)
    (declared : name ++ "Email" ∈ spec.parameters.keys)

theorem collides_iff {spec : FunctionSpec} {reading : Reading} :
    spec.Collides reading ↔
      spec.name ∈ ["LambdaCfnRole", "LambdaCfnDispatchRole", "ServiceAlarmSNSTopic"] ∨
      (Trigger.topic ∈ reading.triggers ∧
        (spec.name = "ServiceAlarm" ∨ spec.name ++ "SNS" ∈ reading.topicNames)) ∨
      (∃ name ∈ reading.topicNames, spec.name = name ++ "Topic" ∨
        name ∈ ["ServiceAlarm", "ServiceAlarmSNS"] ∨ name ++ "Email" ∈ spec.parameters.keys) ∨
      ∃ name ∈ spec.parameters.keys, name ∈
        ["CodeS3Bucket", "CodeS3Prefix", "GitSha", "ServiceAlarmEmail", "DispatchSnsArn"] := by
  constructor
  · intro collides
    cases collides with
    | shared mem => exact .inl mem
    | alarmTopic name_eq uses_topic => exact .inr (.inl ⟨uses_topic, .inl name_eq⟩)
    | functionTopic name mem name_eq => exact .inr (.inr (.inl ⟨name, mem, .inl name_eq⟩))
    | alarmDestination name mem reserved =>
        exact .inr (.inr (.inl ⟨name, mem, .inr (.inl reserved)⟩))
    | triggerTopic mem uses_topic => exact .inr (.inl ⟨uses_topic, .inr mem⟩)
    | parameter name mem reserved => exact .inr (.inr (.inr ⟨name, mem, reserved⟩))
    | email name mem declared => exact .inr (.inr (.inl ⟨name, mem, .inr (.inr declared)⟩))
  · rintro (mem | ⟨uses_topic, name_eq | mem⟩ | ⟨name, mem, name_eq | reserved | declared⟩ |
      ⟨name, mem, reserved⟩)
    · exact .shared mem
    · exact .alarmTopic name_eq uses_topic
    · exact .triggerTopic mem uses_topic
    · exact .functionTopic name mem name_eq
    · exact .alarmDestination name mem reserved
    · exact .email name mem declared
    · exact .parameter name mem reserved

instance (spec : FunctionSpec) (reading : Reading) : Decidable (spec.Collides reading) :=
  decidable_of_iff _ collides_iff.symm

theorem nodup_resources_iff {spec : FunctionSpec} {settings : Settings} {reading : Reading}
    (reads : spec.Reads settings reading) :
    (Entries.keys (spec.resourceEntries settings reading)).Nodup ↔
      List.Disjoint ((resourceSuffixes settings reading).map (spec.name ++ ·))
        (sharedResources ++ reading.topicNames.map (· ++ "Topic")) ∧
      List.Disjoint sharedResources (reading.topicNames.map (· ++ "Topic")) := by
  have own_nodup := (nodup_resourceSuffixes reads).map (append_injective spec.name)
  have shared_nodup : sharedResources.Nodup := by decide
  have topics_nodup := reads.nodup_topicNames.map (injective_append "Topic")
  rw [(keys_resourceEntries_perm spec settings reading).nodup_iff, List.nodup_append',
    List.nodup_append']
  constructor
  · rintro ⟨-, ⟨-, -, shared_apart⟩, own_apart⟩
    exact ⟨own_apart, shared_apart⟩
  · rintro ⟨own_apart, shared_apart⟩
    exact ⟨own_nodup, ⟨shared_nodup, topics_nodup, shared_apart⟩, own_apart⟩

theorem nodup_parameters_iff {spec : FunctionSpec} {settings : Settings} {reading : Reading}
    (reads : spec.Reads settings reading) :
    (Entries.keys (spec.parameterEntries reading)).Nodup ↔
      List.Disjoint spec.parameters.keys
        (sharedParameters ++ reading.topicNames.map (· ++ "Email")) ∧
      List.Disjoint sharedParameters (reading.topicNames.map (· ++ "Email")) := by
  have shared_nodup : sharedParameters.Nodup := by decide
  have emails_nodup := reads.nodup_topicNames.map (injective_append "Email")
  rw [(keys_parameterEntries_perm spec reading).nodup_iff, List.nodup_append',
    List.nodup_append']
  constructor
  · rintro ⟨-, ⟨-, -, shared_apart⟩, declared_apart⟩
    exact ⟨declared_apart, shared_apart⟩
  · rintro ⟨declared_apart, shared_apart⟩
    exact ⟨spec.parameters.nodup, ⟨shared_nodup, emails_nodup, shared_apart⟩, declared_apart⟩

theorem nodup_outputs {spec : FunctionSpec} {settings : Settings} {reading : Reading}
    (reads : spec.Reads settings reading) :
    (Entries.keys (spec.outputEntries reading)).Nodup := by
  rw [keys_outputEntries]
  refine List.Nodup.map (append_injective spec.name) ?_
  exact Trigger.nodup_flatMap_of_stem (FunctionSpec.nodup_kinds reads.triggers)
    Trigger.nodup_outputSuffixes (fun _ _ => Trigger.stem_of_mem_outputSuffixes)

theorem nodup_environment_iff {spec : FunctionSpec} {settings : Settings} {reading : Reading}
    (reads : spec.Reads settings reading) :
    (Entries.keys (topicVariables reading)).Nodup ↔
      Names.alarmTopic ∉ reading.topicNames.map (· ++ "Topic") := by
  rw [keys_topicVariables, List.nodup_cons]
  exact and_iff_left (reads.nodup_topicNames.map (injective_append "Topic"))

theorem append_topic_eq_alarmTopic {name : String} :
    name ++ "Topic" = Names.alarmTopic ↔ name = "ServiceAlarmSNS" := by
  have alarmTopic_eq : Names.alarmTopic = "ServiceAlarmSNS" ++ "Topic" := by decide
  rw [alarmTopic_eq, String.append_left_inj]

theorem append_triggerTopic_eq_alarmTopic {name : String} :
    name ++ "SNSTopic" = Names.alarmTopic ↔ name = "ServiceAlarm" := by
  have alarmTopic_eq : Names.alarmTopic = "ServiceAlarm" ++ "SNSTopic" := by decide
  rw [alarmTopic_eq, String.append_left_inj]

theorem append_triggerTopic_eq_append_topic {function name : String} :
    function ++ "SNSTopic" = name ++ "Topic" ↔ function ++ "SNS" = name := by
  have suffix_eq : "SNSTopic" = "SNS" ++ "Topic" := by decide
  rw [suffix_eq, ← String.append_assoc, String.append_left_inj]

theorem append_email_eq_alarmEmail {name : String} :
    name ++ "Email" = Names.alarmEmail ↔ name = "ServiceAlarm" := by
  have alarmEmail_eq : Names.alarmEmail = "ServiceAlarm" ++ "Email" := by decide
  rw [alarmEmail_eq, String.append_left_inj]

/-- Of the resources that every document has, only the topic of alarms is named like a topic. -/
theorem eq_alarmTopic_of_append_topic {name : String} (mem : name ++ "Topic" ∈ sharedResources) :
    name ++ "Topic" = Names.alarmTopic := by
  have ending_eq : ending (name ++ "Topic") = ending "Topic" := ending_append name (by decide)
  simp only [sharedResources, List.mem_cons, List.not_mem_nil, or_false] at mem
  rcases mem with role_eq | role_eq | topic_eq
  · rw [role_eq] at ending_eq
    exact absurd ending_eq (by decide)
  · rw [role_eq] at ending_eq
    exact absurd ending_eq (by decide)
  · exact topic_eq

/-- Of the parameters that every document has, only the address of alarms is named like an
address. -/
theorem eq_alarmEmail_of_append_email {name : String} (mem : name ++ "Email" ∈ sharedParameters) :
    name ++ "Email" = Names.alarmEmail := by
  have ending_eq : ending (name ++ "Email") = ending "Email" := ending_append name (by decide)
  simp only [sharedParameters, List.mem_cons, List.not_mem_nil, or_false] at mem
  rcases mem with bucket_eq | prefix_eq | revision_eq | email_eq | dispatch_eq
  · rw [bucket_eq] at ending_eq
    exact absurd ending_eq (by decide)
  · rw [prefix_eq] at ending_eq
    exact absurd ending_eq (by decide)
  · rw [revision_eq] at ending_eq
    exact absurd ending_eq (by decide)
  · exact email_eq
  · rw [dispatch_eq] at ending_eq
    exact absurd ending_eq (by decide)

theorem own_disjoint_iff {spec : FunctionSpec} {settings : Settings} {reading : Reading} :
    List.Disjoint ((resourceSuffixes settings reading).map (spec.name ++ ·))
        (sharedResources ++ reading.topicNames.map (· ++ "Topic")) ↔
      spec.name ∉ sharedResources ∧ (∀ name ∈ reading.topicNames, spec.name ≠ name ++ "Topic") ∧
      (Trigger.topic ∈ reading.triggers →
        spec.name ≠ "ServiceAlarm" ∧ spec.name ++ "SNS" ∉ reading.topicNames) := by
  constructor
  · intro apart
    have name_mem : spec.name ∈ (resourceSuffixes settings reading).map (spec.name ++ ·) :=
      List.mem_map.mpr ⟨"", by simp [resourceSuffixes], String.append_empty⟩
    refine ⟨fun mem => apart name_mem (List.mem_append_left _ mem), ?_, fun uses_topic => ?_⟩
    · intro name mem name_eq
      exact apart name_mem (List.mem_append_right _ (List.mem_map.mpr ⟨name, mem, name_eq.symm⟩))
    · have topic_mem : spec.name ++ "SNSTopic" ∈
          (resourceSuffixes settings reading).map (spec.name ++ ·) := by
        refine List.mem_map_of_mem (List.mem_append_right _ (List.mem_flatMap.mpr ?_))
        exact ⟨.topic, uses_topic, by simp [Trigger.resourceSuffixes]⟩
      constructor
      · intro name_eq
        rw [append_triggerTopic_eq_alarmTopic.mpr name_eq] at topic_mem
        exact apart topic_mem (List.mem_append_left _ (by decide))
      · intro mem
        refine apart topic_mem (List.mem_append_right _ (List.mem_map.mpr ⟨_, mem, ?_⟩))
        exact (append_triggerTopic_eq_append_topic.mpr rfl).symm
  · rintro ⟨name_apart, topics_apart, trigger_apart⟩ key own_mem other_mem
    obtain ⟨suffix, suffix_mem, rfl⟩ := List.mem_map.mp own_mem
    rcases resourceSuffix_cases suffix_mem with rfl | ⟨uses_topic, rfl⟩ | distinctive
    · rw [String.append_empty] at other_mem
      rcases List.mem_append.mp other_mem with shared_mem | topic_mem
      · exact name_apart shared_mem
      · obtain ⟨name, mem, name_eq⟩ := List.mem_map.mp topic_mem
        exact topics_apart name mem name_eq.symm
    · obtain ⟨name_ne, topic_absent⟩ := trigger_apart uses_topic
      rcases List.mem_append.mp other_mem with shared_mem | topic_mem
      · have topic_eq : spec.name ++ "SNSTopic" = Names.alarmTopic := by
          have split_eq := append_triggerTopic_eq_append_topic.mpr (rfl : spec.name ++ "SNS" = _)
          rw [split_eq] at shared_mem ⊢
          exact eq_alarmTopic_of_append_topic shared_mem
        exact name_ne (append_triggerTopic_eq_alarmTopic.mp topic_eq)
      · obtain ⟨name, mem, name_eq⟩ := List.mem_map.mp topic_mem
        rw [append_triggerTopic_eq_append_topic.mp name_eq.symm] at topic_absent
        exact topic_absent mem
    · exact distinctive.append_ne spec.name (ending_mem_sharedEndings other_mem) rfl

theorem shared_disjoint_iff {reading : Reading} :
    List.Disjoint sharedResources (reading.topicNames.map (· ++ "Topic")) ↔
      "ServiceAlarmSNS" ∉ reading.topicNames := by
  constructor
  · intro apart mem
    exact apart (show Names.alarmTopic ∈ sharedResources by decide)
      (List.mem_map.mpr ⟨_, mem, append_topic_eq_alarmTopic.mpr rfl⟩)
  · rintro absent key shared_mem topic_mem
    obtain ⟨name, mem, rfl⟩ := List.mem_map.mp topic_mem
    rw [append_topic_eq_alarmTopic.mp (eq_alarmTopic_of_append_topic shared_mem)] at mem
    exact absent mem

theorem shared_disjoint_emails_iff {reading : Reading} :
    List.Disjoint sharedParameters (reading.topicNames.map (· ++ "Email")) ↔
      "ServiceAlarm" ∉ reading.topicNames := by
  constructor
  · intro apart mem
    exact apart (show Names.alarmEmail ∈ sharedParameters by decide)
      (List.mem_map.mpr ⟨_, mem, append_email_eq_alarmEmail.mpr rfl⟩)
  · rintro absent key shared_mem email_mem
    obtain ⟨name, mem, rfl⟩ := List.mem_map.mp email_mem
    rw [append_email_eq_alarmEmail.mp (eq_alarmEmail_of_append_email shared_mem)] at mem
    exact absent mem

theorem Collides.not_unambiguous {spec : FunctionSpec} {settings : Settings} {reading : Reading}
    (reads : spec.Reads settings reading) (collides : spec.Collides reading) :
    ¬spec.Unambiguous settings reading := by
  intro unambiguous
  obtain ⟨declared_apart, emails_apart⟩ :=
    (nodup_parameters_iff reads).mp unambiguous.parameters
  obtain ⟨own_apart, topics_apart⟩ := (nodup_resources_iff reads).mp unambiguous.resources
  obtain ⟨name_apart, name_ne, trigger_apart⟩ := own_disjoint_iff.mp own_apart
  cases collides with
  | shared mem => exact name_apart mem
  | alarmTopic name_eq uses_topic => exact (trigger_apart uses_topic).1 name_eq
  | functionTopic name mem name_eq => exact name_ne name mem name_eq
  | alarmDestination name mem reserved =>
      simp only [List.mem_cons, List.not_mem_nil, or_false] at reserved
      rcases reserved with rfl | rfl
      · exact shared_disjoint_emails_iff.mp emails_apart mem
      · exact shared_disjoint_iff.mp topics_apart mem
  | triggerTopic mem uses_topic => exact (trigger_apart uses_topic).2 mem
  | parameter name mem reserved => exact declared_apart mem (List.mem_append_left _ reserved)
  | email name mem declared =>
      exact declared_apart declared
        (List.mem_append_right _ (List.mem_map.mpr ⟨name, mem, rfl⟩))

theorem unambiguous_of_not_collides {spec : FunctionSpec} {settings : Settings}
    {reading : Reading} (reads : spec.Reads settings reading) (distinct : ¬spec.Collides reading) :
    spec.Unambiguous settings reading := by
  have alarmTopic_absent : "ServiceAlarmSNS" ∉ reading.topicNames := fun mem =>
    distinct (.alarmDestination _ mem (by decide))
  have alarmEmail_absent : "ServiceAlarm" ∉ reading.topicNames := fun mem =>
    distinct (.alarmDestination _ mem (by decide))
  have declared_apart : List.Disjoint spec.parameters.keys
      (sharedParameters ++ reading.topicNames.map (· ++ "Email")) := by
    intro key declared other_mem
    rcases List.mem_append.mp other_mem with shared_mem | email_mem
    · exact distinct (.parameter key declared shared_mem)
    · obtain ⟨name, mem, rfl⟩ := List.mem_map.mp email_mem
      exact distinct (.email name mem declared)
  have own_apart : spec.name ∉ sharedResources ∧
      (∀ name ∈ reading.topicNames, spec.name ≠ name ++ "Topic") ∧
      (Trigger.topic ∈ reading.triggers →
        spec.name ≠ "ServiceAlarm" ∧ spec.name ++ "SNS" ∉ reading.topicNames) :=
    ⟨fun mem => distinct (.shared mem),
      fun name mem name_eq => distinct (.functionTopic name mem name_eq),
      fun uses_topic => ⟨fun name_eq => distinct (.alarmTopic name_eq uses_topic),
        fun mem => distinct (.triggerTopic mem uses_topic)⟩⟩
  exact {
    parameters := (nodup_parameters_iff reads).mpr
      ⟨declared_apart, shared_disjoint_emails_iff.mpr alarmEmail_absent⟩
    resources := (nodup_resources_iff reads).mpr
      ⟨own_disjoint_iff.mpr own_apart, shared_disjoint_iff.mpr alarmTopic_absent⟩
    outputs := nodup_outputs reads
    environment := by
      rw [nodup_environment_iff reads]
      intro mem
      obtain ⟨name, name_mem, name_eq⟩ := List.mem_map.mp mem
      rw [append_topic_eq_alarmTopic.mp name_eq] at name_mem
      exact alarmTopic_absent name_mem
  }

/-- Two identifiers of a document agree in none of the listed ways just when they are distinct. -/
theorem unambiguous_iff_not_collides {spec : FunctionSpec} {settings : Settings}
    {reading : Reading} (reads : spec.Reads settings reading) :
    spec.Unambiguous settings reading ↔ ¬spec.Collides reading :=
  ⟨fun unambiguous collides => collides.not_unambiguous reads unambiguous,
    unambiguous_of_not_collides reads⟩

/-- A spec whose fields are in order, whose identifiers are distinct and whose parameters are within
the limit is compiled to its layout. -/
theorem embed_of_not_collides {spec : FunctionSpec} {settings : Settings} {reading : Reading}
    (reads : spec.Reads settings reading) (distinct : ¬spec.Collides reading)
    (within : spec.parameterCount reading ≤ Completion.parameterLimit) :
    spec.embed settings = .ok (spec.layout settings reading) := by
  rw [embed_of_unambiguous reads (unambiguous_of_not_collides reads distinct)]
  exact if_neg (Nat.not_lt.mpr within)

/-- A spec with a parameter, a statement, two triggers and a destination. -/
def sample : FunctionSpec where
  name := "report"
  handler := some "index.handler"
  parameters := .ofList [("Stage", { type := some "String", description := some "Stage" })]
  statements := some [
    .ofList [("Effect", "Allow"), ("Action", "s3:GetObject"), ("Resource", "*")]
  ]
  eventSources := some (.ofList [
    ("schedule", .object [("expression", "rate(1 hour)")]),
    ("webhook", .object [("method", "GET")])
  ])
  destinations := some (.ofList [("sns", .object [("operators", .object [])])])

/-- What the fields of the sample say. -/
def sampleReading : Reading where
  triggers := [
    .rule (.schedule "rate(1 hour)"),
    .webhook ⟨.get, WebhookOptions.defaultMethodResponses, ∅, false⟩
  ]
  topics := [{ name := "operators" }]
  runtime := .node10
  handler := "index.handler"

theorem reads_renamed {name : String} (name_ok : { sample with name := name }.checkName = .ok ()) :
    { sample with name := name }.Reads {} sampleReading where
  name := name_ok
  triggers := rfl
  topics := rfl
  parameters := by
    intro parameter mem
    rw [List.mem_singleton.mp mem]
    rfl
  runtime := rfl
  handler := rfl
  statements := by
    rintro statements ⟨⟩
    rfl

theorem reads_sample : sample.Reads {} sampleReading :=
  reads_renamed rfl

theorem sample_distinct : ¬sample.Collides sampleReading := by
  decide

theorem unambiguous_sample : sample.Unambiguous {} sampleReading :=
  (unambiguous_iff_not_collides reads_sample).mpr sample_distinct

theorem embed_sample : sample.embed {} = .ok (sample.layout {} sampleReading) := by
  rw [embed_of_unambiguous reads_sample unambiguous_sample]
  exact if_neg (by decide)

theorem embed_renamed {name : String} (name_ok : { sample with name := name }.checkName = .ok ())
    (distinct : ¬{ sample with name := name }.Collides sampleReading) :
    { sample with name := name }.embed {} =
      .ok ({ sample with name := name }.layout {} sampleReading) := by
  have within : sample.parameterCount sampleReading ≤ Completion.parameterLimit := by decide
  exact embed_of_not_collides (reads_renamed name_ok) distinct within

/-- A spec whose fields are in order is refused for a repeated key just when two of its identifiers
agree in one of the listed ways. Any other is refused only for more than sixty parameters, and else
compiled. -/
theorem embed_eq_error_iff {spec : FunctionSpec} {settings : Settings} {reading : Reading}
    (reads : spec.Reads settings reading) :
    ((∃ part key, spec.embed settings = .error (.duplicateKey part key)) ↔
      spec.Collides reading) ∧
    (¬spec.Collides reading →
      (∀ failure, spec.embed settings = .error failure ↔
        60 < spec.parameters.size + reading.topicNames.length + 5 ∧
          failure = .tooManyParameters
            (spec.parameters.size + reading.topicNames.length + 5) 60) ∧
      (spec.parameters.size + reading.topicNames.length + 5 ≤ 60 →
        ∃ template, spec.embed settings = .ok template)) := by
  have count_eq : spec.parameterCount reading =
      spec.parameters.size + reading.topicNames.length + 5 := by
    simp [parameterCount, Reading.topicNames]
  have embed_eq (distinct : ¬spec.Collides reading) :=
    embed_of_unambiguous reads ((unambiguous_iff_not_collides reads).mpr distinct)
  simp only [count_eq, Completion.parameterLimit] at embed_eq
  refine ⟨⟨?_, fun collides => ?_⟩, fun distinct => ⟨fun failure => ?_, fun within => ?_⟩⟩
  · rintro ⟨part, key, failed⟩
    by_contra distinct
    rw [embed_eq distinct] at failed
    split at failed <;> cases failed
  · exact embed_of_not_unambiguous reads fun unambiguous =>
      (unambiguous_iff_not_collides reads).mp unambiguous collides
  · rw [embed_eq distinct]
    split
    next beyond =>
      rw [Except.error.injEq, and_iff_right beyond, eq_comm]
    next within => simp [within]
  · rw [embed_eq distinct, if_neg (by omega)]
    exact ⟨_, rfl⟩

theorem sample_compiled_or_refused :
    (∃ template, sample.embed {} = .ok template) ∧
      ∃ part key, { sample with name := "operatorsTopic" }.embed {} =
        .error (.duplicateKey part key) :=
  ⟨((embed_eq_error_iff reads_sample).2 sample_distinct).2 (by decide),
    (embed_eq_error_iff (reads_renamed rfl)).1.mpr
      (.functionTopic "operators" List.mem_cons_self rfl)⟩

end FunctionSpec
end LambdaStack

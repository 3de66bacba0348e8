import LambdaStack.Proofs.Stack.Assembly

/-!
# Identifiers of a document

The names of resources, parameters and outputs, cut into those that begin with the name of the
function, those that every document has and those that are made from the name of a destination.
-/

namespace LambdaStack

open Identifier

namespace FunctionSpec

/-- What the identifiers that begin with the name of the function add to it. -/
def resourceSuffixes (settings : Settings) (reading : Reading) : List String :=
  ["", "AlarmErrors", "AlarmNoInvocations"] ++
    reading.triggers.flatMap (Trigger.resourceSuffixes settings.deploymentSuffix)

/-- Resources that every document has under the same name. -/
def sharedResources : List String :=
  [Names.defaultRole, Names.dispatchRole, Names.alarmTopic]

/-- The names of the resources in their order. -/
theorem keys_resourceEntries (spec : FunctionSpec) (settings : Settings) (reading : Reading) :
    Entries.keys (spec.resourceEntries settings reading) =
      [spec.name ++ "AlarmErrors", spec.name ++ "AlarmNoInvocations", Names.alarmTopic, spec.name,
        Names.defaultRole] ++
      (reading.triggers.flatMap (Trigger.resourceSuffixes settings.deploymentSuffix)).map
        (spec.name ++ ·) ++
      reading.topicNames.map (· ++ "Topic") ++ [Names.dispatchRole] := by
  have triggers_eq : Entries.keys (reading.triggers.flatMap
      (Trigger.resources spec.name settings)) =
        (reading.triggers.flatMap (Trigger.resourceSuffixes settings.deploymentSuffix)).map
          (spec.name ++ ·) := by
    simp only [Entries.keys, List.map_flatMap]
    exact List.flatMap_congr fun trigger _ => trigger.keys_resources spec.name settings
  have topics_eq : Entries.keys (reading.topics.map fun topic =>
      (topic.topicName, topic.topic)) = reading.topicNames.map (· ++ "Topic") := by
    simp [Entries.keys, Reading.topicNames, TopicDestination.topicName]
  simp only [resourceEntries, Entries.keys_append, Alarms.keys_resources, triggers_eq, topics_eq]
  rfl

theorem keys_resourceEntries_perm (spec : FunctionSpec) (settings : Settings)
    (reading : Reading) :
    (Entries.keys (spec.resourceEntries settings reading)).Perm
      ((resourceSuffixes settings reading).map (spec.name ++ ·) ++
        (sharedResources ++ reading.topicNames.map (· ++ "Topic"))) := by
  rw [keys_resourceEntries]
  refine List.perm_iff_count.mpr fun key => ?_
  simp only [resourceSuffixes, sharedResources, List.map_append, List.map_cons, List.map_nil,
    List.count_append, List.count_cons, List.count_nil, String.append_empty]
  omega

theorem nodup_resourceSuffixes {spec : FunctionSpec} {settings : Settings} {reading : Reading}
    (reads : spec.Reads settings reading) : (resourceSuffixes settings reading).Nodup := by
  have triggers_nodup := Trigger.nodup_flatMap_of_stem (FunctionSpec.nodup_kinds reads.triggers)
    (Trigger.nodup_resourceSuffixes settings.deploymentSuffix)
    (fun _ _ => Trigger.stem_of_mem_resourceSuffixes)
  refine List.nodup_append'.mpr ⟨by decide, triggers_nodup, ?_⟩
  -- The suffixes of the function and its alarms do not begin like those of any trigger.
  intro suffix own_mem trigger_mem
  obtain ⟨trigger, -, mem⟩ := List.mem_flatMap.mp trigger_mem
  have stem_eq := Trigger.stem_of_mem_resourceSuffixes mem
  simp only [List.mem_cons, List.not_mem_nil, or_false] at own_mem
  rcases own_mem with rfl | rfl | rfl <;> rcases trigger with _ | (_ | _) | _ <;>
    simp [Trigger.stem] at stem_eq

theorem resourceSuffix_cases {settings : Settings} {reading : Reading} {suffix : String}
    (mem : suffix ∈ resourceSuffixes settings reading) :
    suffix = "" ∨ (Trigger.topic ∈ reading.triggers ∧ suffix = "SNSTopic") ∨
      Distinctive suffix := by
  simp only [resourceSuffixes, List.mem_append, List.mem_cons, List.not_mem_nil, or_false,
    List.mem_flatMap] at mem
  rcases mem with (rfl | rfl | rfl) | ⟨trigger, trigger_mem, mem⟩
  · exact .inl rfl
  · exact .inr (.inr ⟨by decide, by decide⟩)
  · exact .inr (.inr ⟨by decide, by decide⟩)
  · rcases Trigger.distinctive_of_mem_resourceSuffixes mem with ⟨rfl, suffix_eq⟩ | distinctive
    · exact .inr (.inl ⟨trigger_mem, suffix_eq⟩)
    · exact .inr (.inr distinctive)

/-- A name that does not begin with that of the function ends like a shared one. -/
theorem ending_mem_sharedEndings {reading : Reading} {key : String}
    (mem : key ∈ sharedResources ++ reading.topicNames.map (· ++ "Topic")) :
    ending key ∈ sharedEndings := by
  rcases List.mem_append.mp mem with shared_mem | topic_mem
  · have shared_endings : ∀ shared ∈ sharedResources, ending shared ∈ sharedEndings := by decide
    exact shared_endings key shared_mem
  · obtain ⟨name, -, rfl⟩ := List.mem_map.mp topic_mem
    rw [ending_append name (by decide)]
    exact List.mem_cons_self

/-- Parameters that every document has under the same name. -/
def sharedParameters : List String :=
  [Names.codeBucket, Names.codePrefix, Names.gitSha, Names.alarmEmail, Names.dispatchTopic]

/-- The names of the parameters in their order. -/
theorem keys_parameterEntries (spec : FunctionSpec) (reading : Reading) :
    Entries.keys (spec.parameterEntries reading) =
      spec.parameters.keys ++ [Names.codeBucket, Names.codePrefix, Names.gitSha,
        Names.alarmEmail] ++ reading.topicNames.map (· ++ "Email") ++ [Names.dispatchTopic] := by
  have topics_eq : Entries.keys (reading.topics.map fun topic =>
      (topic.emailName, topic.email)) = reading.topicNames.map (· ++ "Email") := by
    simp [Entries.keys, Reading.topicNames, TopicDestination.emailName]
  simp only [parameterEntries, Entries.keys_append, keys_declaredEntries, topics_eq,
    List.append_assoc]
  rfl

theorem keys_parameterEntries_perm (spec : FunctionSpec) (reading : Reading) :
    (Entries.keys (spec.parameterEntries reading)).Perm
      (spec.parameters.keys ++ (sharedParameters ++ reading.topicNames.map (· ++ "Email"))) := by
  rw [keys_parameterEntries]
  refine List.perm_iff_count.mpr fun key => ?_
  simp only [sharedParameters, List.count_append, List.count_cons, List.count_nil]
  omega

theorem keys_outputEntries (spec : FunctionSpec) (reading : Reading) :
    Entries.keys (spec.outputEntries reading) =
      (reading.triggers.flatMap Trigger.outputSuffixes).map (spec.name ++ ·) := by
  simp only [outputEntries, Entries.keys, List.map_flatMap]
  exact List.flatMap_congr fun trigger _ => trigger.keys_outputs spec.name

/-- A suffix that is too long for the names that tell where the code is, or ends otherwise, ends
none of them. -/
theorem append_ne_provenance {suffix : String}
    (foreign : 12 < suffix.length ∨ 5 ≤ suffix.length ∧
      ending suffix ∉ (Entries.keys Parameters.provenance).map ending)
    (name : String) {key : String} (mem : key ∈ Entries.keys Parameters.provenance) :
    name ++ suffix ≠ key := by
  rintro rfl
  rcases foreign with long | ⟨long, ending_ne⟩
  · have bounded : ∀ key ∈ Entries.keys Parameters.provenance, key.length ≤ 12 := by decide
    have length_le := bounded _ mem
    rw [String.length_append] at length_le
    omega
  · rw [← ending_append name long] at ending_ne
    exact ending_ne (List.mem_map_of_mem mem)

theorem append_ne_provenance_of_mem {settings : Settings} {reading : Reading} {suffix : String}
    (mem : suffix ∈ resourceSuffixes settings reading) (proper : suffix ≠ "") (name : String)
    {key : String} (key_mem : key ∈ Entries.keys Parameters.provenance) :
    name ++ suffix ≠ key := by
  refine append_ne_provenance ?_ name key_mem
  simp only [resourceSuffixes, List.mem_append, List.mem_cons, List.not_mem_nil, or_false,
    List.mem_flatMap] at mem
  rcases mem with (rfl | rfl | rfl) | ⟨trigger, -, mem⟩
  · exact absurd rfl proper
  · exact .inr ⟨by decide, by decide⟩
  · exact .inr ⟨by decide, by decide⟩
  · rcases trigger with _ | (_ | _) | _ <;>
      simp only [Trigger.resourceSuffixes, List.mem_cons, List.not_mem_nil, or_false] at mem
    · rcases mem with rfl | rfl | rfl | rfl <;> exact .inr ⟨by decide, by decide⟩
    · rcases mem with rfl | rfl <;> exact .inr ⟨by decide, by decide⟩
    · rcases mem with rfl | rfl <;> exact .inr ⟨by decide, by decide⟩
    · -- The suffixes of a webhook all begin with seven letters and go on for long.
      left
      rcases mem with rfl | rfl | rfl | rfl | rfl | rfl | rfl | rfl | rfl
      case inr.inr.inr.inr.inr.inl =>
        simp only [WebhookTrigger.deploymentName, String.length_append]
        have front_long : 12 < "Webhook".length + "ApiDeployment".length := by decide
        omega
      all_goals decide

variable {spec : FunctionSpec} {settings : Settings} {reading : Reading}

theorem isAlphanumeric_of_declared (reads : spec.Reads settings reading) {name : String}
    (mem : name ∈ spec.parameters.keys) : isAlphanumeric name := by
  obtain ⟨definition, entry_mem⟩ := Entries.mem_keys.mp mem
  have valid := reads.parameters _ entry_mem
  unfold Parameters.validate at valid
  split at valid
  · cases valid
  next accepted => simpa using accepted

/-- Where the name of a resource comes from. -/
theorem mem_resources_cases {key : String}
    (mem : key ∈ (spec.layout settings reading).resources.keys) :
    (∃ suffix ∈ resourceSuffixes settings reading, key = spec.name ++ suffix) ∨
      key ∈ sharedResources ++ reading.topicNames.map (· ++ "Topic") := by
  have listed := (keys_resourceEntries_perm spec settings reading).mem_iff.mp
    (OrderedMap.mem_keys_ofList.mp mem)
  rcases List.mem_append.mp listed with own | other
  · obtain ⟨suffix, suffix_mem, rfl⟩ := List.mem_map.mp own
    exact .inl ⟨suffix, suffix_mem, rfl⟩
  · exact .inr other

theorem all_isAlphanum_of_mem_resourceSuffixes {suffix : String}
    (mem : suffix ∈ resourceSuffixes settings reading) : suffix.toList.all Char.isAlphanum := by
  simp only [resourceSuffixes, List.mem_append, List.mem_cons, List.not_mem_nil, or_false,
    List.mem_flatMap] at mem
  rcases mem with (rfl | rfl | rfl) | ⟨trigger, -, mem⟩
  · decide
  · decide
  · decide
  · exact Trigger.all_isAlphanum_of_mem_resourceSuffixes mem

/-- Resources have alphanumeric names. -/
theorem isAlphanumeric_of_mem_resources (reads : spec.Reads settings reading) {key : String}
    (mem : key ∈ (spec.layout settings reading).resources.keys) : isAlphanumeric key := by
  rcases mem_resources_cases mem with ⟨suffix, suffix_mem, rfl⟩ | other
  · exact isAlphanumeric_append reads.isAlphanumeric_name
      (all_isAlphanum_of_mem_resourceSuffixes suffix_mem)
  · rcases List.mem_append.mp other with shared | topic
    · have shared_ok : ∀ shared ∈ sharedResources, isAlphanumeric shared := by decide
      exact shared_ok key shared
    · obtain ⟨name, name_mem, rfl⟩ := List.mem_map.mp topic
      exact isAlphanumeric_append (reads.isAlphanumeric_topicName name_mem) (by decide)

/-- Of the resources, only the function can have a name that ends like a shared one, if that is
neither shared itself nor the topic of a destination. -/
theorem eq_name_of_ending {key : String}
    (mem : key ∈ (spec.layout settings reading).resources.keys)
    (ends_shared : ending key ∈ sharedEndings) (not_topic : ending key ≠ ending "Topic")
    (not_shared : key ∉ sharedResources) : key = spec.name := by
  rcases mem_resources_cases mem with ⟨suffix, suffix_mem, rfl⟩ | other
  · rcases resourceSuffix_cases suffix_mem with rfl | ⟨-, rfl⟩ | distinctive
    · exact String.append_empty
    · exact absurd (ending_append spec.name (by decide)) not_topic
    · exact absurd rfl (distinctive.append_ne spec.name ends_shared)
  · rcases List.mem_append.mp other with shared | topic
    · exact absurd shared not_shared
    · obtain ⟨name, -, rfl⟩ := List.mem_map.mp topic
      exact absurd (ending_append name (by decide)) not_topic

/-- Of the resources, only the function can be named like a parameter that every document has. -/
theorem eq_name_of_mem_sharedParameters {key : String}
    (mem : key ∈ (spec.layout settings reading).resources.keys)
    (shared : key ∈ sharedParameters) : key = spec.name := by
  have provenance_or_ending : ∀ key ∈ sharedParameters, key ∈ Entries.keys Parameters.provenance ∨
      ending key ∈ sharedEndings ∧ ending key ≠ ending "Topic" := by decide
  have apart : ∀ key ∈ sharedParameters, key ∉ sharedResources := by decide
  rcases provenance_or_ending key shared with provenance | ⟨ends_shared, not_topic⟩
  · rcases mem_resources_cases mem with ⟨suffix, suffix_mem, rfl⟩ | other
    · by_cases whole : suffix = ""
      · rw [whole, String.append_empty]
      · exact absurd rfl (append_ne_provenance_of_mem suffix_mem whole spec.name provenance)
    · rcases List.mem_append.mp other with shared_mem | topic_mem
      · exact absurd shared_mem (apart key shared)
      · obtain ⟨name, -, rfl⟩ := List.mem_map.mp topic_mem
        exact absurd rfl (append_ne_provenance (.inr ⟨by decide, by decide⟩) name provenance)
  · exact eq_name_of_ending mem ends_shared not_topic (apart key shared)

end FunctionSpec
end LambdaStack

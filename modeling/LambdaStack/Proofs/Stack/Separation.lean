import LambdaStack.Proofs.Stack.Inventory

/-!
# Functions side by side

Documents of functions with different names may be put into one stack. An identifier that begins
with the name of a function goes on with one of a few suffixes, none of which is the end of another;
so a common identifier of two functions would give them a common name. What remains in common is
meant to be shared, named after a destination, or the name of one of the functions itself.
-/

namespace LambdaStack

namespace Identifier

/-- No word of a list is the end of another. -/
def EndFree (words : List String) : Prop :=
  ∀ left ∈ words, ∀ right ∈ words, left.toList <:+ right.toList → left = right

instance (words : List String) : Decidable (EndFree words) :=
  inferInstanceAs (Decidable (∀ left ∈ words, ∀ right ∈ words, _))

/-- Names that agree once they are followed by words of such a list agree before, and so do the
words. -/
theorem EndFree.append_inj {words : List String} (free : EndFree words)
    {leftName rightName left right : String} (left_mem : left ∈ words) (right_mem : right ∈ words)
    (equal : leftName ++ left = rightName ++ right) : leftName = rightName ∧ left = right := by
  have lists_eq : leftName.toList ++ left.toList = rightName.toList ++ right.toList := by
    rw [← String.toList_append, equal, String.toList_append]
  have left_end : left.toList <:+ rightName.toList ++ right.toList := ⟨_, lists_eq⟩
  have right_end := List.suffix_append rightName.toList right.toList
  have same : left = right := by
    rcases List.suffix_or_suffix_of_suffix left_end right_end with shorter | longer
    · exact free left left_mem right right_mem shorter
    · exact (free right right_mem left left_mem longer).symm
  subst same
  exact ⟨(String.append_left_inj left).mp equal, rfl⟩

end Identifier

open Identifier

namespace FunctionSpec

/-- What the identifiers of resources add to the name of a function, its own resource apart. -/
def ownSuffixes : List String :=
  ["AlarmErrors", "AlarmNoInvocations"] ++
    ["sns", "cloudwatchEvent", "schedule", "webhook"].flatMap (sourceResources "ApiDeployment")

/-- What the identifiers of outputs add to the name of a function. -/
def ownOutputs : List String :=
  ["SNSTopic", "SNSUserAccessKey", "SNSUserSecretAccessKey", "WebhookAPIEndpoint", "WebhookApiKey"]

theorem endFree_ownSuffixes : EndFree ownSuffixes := by
  decide +kernel

theorem endFree_ownOutputs : EndFree ownOutputs := by
  decide +kernel

theorem mem_ownSuffixes {kind suffix : String}
    (mem : suffix ∈ sourceResources "ApiDeployment" kind) : suffix ∈ ownSuffixes :=
  List.mem_append_right _ (List.mem_flatMap.mpr ⟨kind, kind_of_mem_sourceResources mem, mem⟩)

theorem mem_ownOutputs {kind suffix : String} {options : Json}
    (mem : suffix ∈ sourceOutputs kind options) : suffix ∈ ownOutputs := by
  have topic_ok : ∀ suffix ∈ ["SNSTopic", "SNSUserAccessKey", "SNSUserSecretAccessKey"],
      suffix ∈ ownOutputs := by decide
  have webhook_ok : ∀ suffix ∈ ["WebhookAPIEndpoint", "WebhookApiKey"],
      suffix ∈ ownOutputs := by decide
  unfold sourceOutputs at mem
  split at mem
  · exact topic_ok suffix mem
  · refine webhook_ok suffix ?_
    split at mem
    · exact mem
    · rw [List.mem_singleton.mp mem]
      exact List.mem_cons_self
  · cases mem

variable {spec : FunctionSpec}

/-- Where the name of a resource comes from, when deployments have no suffix. -/
theorem mem_resourceInventory_cases {key : String}
    (mem : key ∈ spec.resourceInventory "ApiDeployment") :
    key ∈ ["LambdaCfnRole", "LambdaCfnDispatchRole", "ServiceAlarmSNSTopic"] ∨ key = spec.name ∨
      (∃ name ∈ spec.destinationNames, key = name ++ "Topic") ∨
      ∃ suffix ∈ ownSuffixes, key = spec.name ++ suffix := by
  simp only [resourceInventory, List.mem_append, List.mem_cons, List.not_mem_nil, or_false] at mem
  rcases mem with (((rfl | rfl | rfl | rfl | rfl) | own) | topic) | rfl
  · exact .inr (.inr (.inr ⟨"AlarmErrors", by simp [ownSuffixes], rfl⟩))
  · exact .inr (.inr (.inr ⟨"AlarmNoInvocations", by simp [ownSuffixes], rfl⟩))
  · exact .inl (by decide)
  · exact .inr (.inl rfl)
  · exact .inl (by decide)
  · obtain ⟨suffix, suffix_mem, rfl⟩ := List.mem_map.mp own
    obtain ⟨source, -, source_mem⟩ := List.mem_flatMap.mp suffix_mem
    exact .inr (.inr (.inr ⟨suffix, mem_ownSuffixes source_mem, rfl⟩))
  · obtain ⟨name, name_mem, rfl⟩ := List.mem_map.mp topic
    exact .inr (.inr (.inl ⟨name, name_mem, rfl⟩))
  · exact .inl (by decide)

theorem mem_outputInventory_cases {key : String} (mem : key ∈ spec.outputInventory) :
    ∃ suffix ∈ ownOutputs, key = spec.name ++ suffix := by
  obtain ⟨suffix, suffix_mem, rfl⟩ := List.mem_map.mp mem
  obtain ⟨source, -, source_mem⟩ := List.mem_flatMap.mp suffix_mem
  exact ⟨suffix, mem_ownOutputs source_mem, rfl⟩

theorem keys_of_embed {settings : Settings} {template : Template}
    (deterministic : settings.deploymentSuffix = none)
    (embed_ok : spec.embed settings = .ok template) :
    template.resources.keys = spec.resourceInventory "ApiDeployment" ∧
      template.outputs.keys = spec.outputInventory := by
  obtain ⟨reading, reads, unambiguous, rfl⟩ := layout_of_embed embed_ok
  have resources_eq := keys_resources_layout reads unambiguous
  rw [deterministic] at resources_eq
  exact ⟨resources_eq, keys_outputs_layout reads unambiguous⟩

/-- Documents of functions with different names have no output in common, and of the resources only
those that are shared or named after destinations, and what is named like one of the functions. -/
theorem separate_of_embed {left right : FunctionSpec} {leftSettings rightSettings : Settings}
    {leftTemplate rightTemplate : Template} (names_differ : left.name ≠ right.name)
    (left_deterministic : leftSettings.deploymentSuffix = none)
    (right_deterministic : rightSettings.deploymentSuffix = none)
    (left_ok : left.embed leftSettings = .ok leftTemplate)
    (right_ok : right.embed rightSettings = .ok rightTemplate) :
    List.Disjoint leftTemplate.outputs.keys rightTemplate.outputs.keys ∧
      ∀ key ∈ leftTemplate.resources.keys, key ∈ rightTemplate.resources.keys →
        key ∈ ["LambdaCfnRole", "LambdaCfnDispatchRole", "ServiceAlarmSNSTopic"] ∨
        key ∈ [left.name, right.name] ∨
        ∃ name ∈ left.destinationNames ++ right.destinationNames, key = name ++ "Topic" := by
  obtain ⟨left_resources, left_outputs⟩ := keys_of_embed left_deterministic left_ok
  obtain ⟨right_resources, right_outputs⟩ := keys_of_embed right_deterministic right_ok
  rw [left_resources, right_resources, left_outputs, right_outputs]
  refine ⟨fun key left_mem right_mem => ?_, fun key left_mem right_mem => ?_⟩
  · obtain ⟨suffix, suffix_mem, rfl⟩ := mem_outputInventory_cases left_mem
    obtain ⟨other, other_mem, equal⟩ := mem_outputInventory_cases right_mem
    exact names_differ (endFree_ownOutputs.append_inj suffix_mem other_mem equal).1
  · rcases mem_resourceInventory_cases left_mem with
      shared | rfl | ⟨name, name_mem, rfl⟩ | ⟨suffix, suffix_mem, rfl⟩
    · exact .inl shared
    · exact .inr (.inl List.mem_cons_self)
    · exact .inr (.inr ⟨name, List.mem_append_left _ name_mem, rfl⟩)
    rcases mem_resourceInventory_cases right_mem with
      shared | name_eq | ⟨name, name_mem, name_eq⟩ | ⟨other, other_mem, equal⟩
    · exact .inl shared
    · exact .inr (.inl (by simp [name_eq]))
    · exact .inr (.inr ⟨name, List.mem_append_right _ name_mem, name_eq⟩)
    · exact absurd (endFree_ownSuffixes.append_inj suffix_mem other_mem equal).1 names_differ

theorem sample_separate_from_renamed : ∃ left right, sample.embed {} = .ok left ∧
    { sample with name := "audit" }.embed {} = .ok right ∧
    List.Disjoint left.outputs.keys right.outputs.keys ∧
    ∀ key ∈ left.resources.keys, key ∈ right.resources.keys →
      key ∈ ["LambdaCfnRole", "LambdaCfnDispatchRole", "ServiceAlarmSNSTopic"] ∨
      key ∈ ["report", "audit"] ∨ ∃ name ∈ ["operators", "operators"], key = name ++ "Topic" := by
  have distinct : ¬{ sample with name := "audit" }.Collides sampleReading := by decide
  have renamed_ok := embed_renamed rfl distinct
  exact ⟨_, _, embed_sample, renamed_ok,
    separate_of_embed (by decide) rfl rfl embed_sample renamed_ok⟩

end FunctionSpec
end LambdaStack

import LambdaStack.Proofs.Document.Mentions
import LambdaStack.Proofs.FunctionSpec.Reading

/-!
# Raw JSON of a spec

The parts of a spec that go into a document as they are: statements, event patterns, method
responses and integrations. Whatever the triggers of a spec mention is mentioned in these parts.
-/

namespace LambdaStack

namespace Trigger

/-- The parts of the options of a trigger that go into a document as they are. -/
def rawOptions (kind : String) (options : Json) : List Json :=
  match kind with
  | "cloudwatchEvent" => (options.member? "eventPattern").toList
  | "webhook" =>
    (options.member? "methodResponses").toList ++ (options.member? "integration").toList
  | _ => []

/-- The values that a trigger carries into a document. -/
def rawJson : Trigger → List Json
  | rule (.pattern value) => [value]
  | webhook options => options.methodResponses ++ options.integration.entries.map Prod.snd
  | _ => []

theorem member?_of_truthyMember? {key : String} {options value : Json}
    (found : options.truthyMember? key = some value) : options.member? key = some value :=
  (Option.filter_eq_some_iff.mp found).1

theorem pattern_of_read {options : Json} {trigger : Trigger}
    (read_ok : read "cloudwatchEvent" options = .ok trigger) :
    ∃ pattern, options.member? "eventPattern" = some pattern ∧
      trigger = .rule (.pattern pattern) := by
  obtain ⟨source, source_ok, rfl⟩ := map_eq_ok_iff.mp read_ok
  unfold readPattern at source_ok
  split at source_ok <;> cases source_ok
  exact ⟨_, member?_of_truthyMember? ‹_›, rfl⟩

theorem schedule_of_read {options : Json} {trigger : Trigger}
    (read_ok : read "schedule" options = .ok trigger) :
    ∃ expression, options.member? "expression" = some (.string expression) ∧
      trigger = .rule (.schedule expression) := by
  obtain ⟨source, source_ok, rfl⟩ := map_eq_ok_iff.mp read_ok
  unfold readSchedule at source_ok
  split at source_ok <;> cases source_ok
  exact ⟨_, member?_of_truthyMember? ‹_›, rfl⟩

theorem parts_of_readWebhook {options : Json} {webhook : WebhookOptions}
    (read_ok : WebhookOptions.read options = .ok webhook) :
    WebhookOptions.readMethodResponses options = .ok webhook.methodResponses ∧
      WebhookOptions.readIntegration options = .ok webhook.integration ∧
      webhook.apiKey = WebhookOptions.readApiKey options := by
  rw [WebhookOptions.read_eq_bind] at read_ok
  obtain ⟨method, -, read_ok⟩ := bind_eq_ok_iff.mp read_ok
  obtain ⟨responses, responses_ok, read_ok⟩ := bind_eq_ok_iff.mp read_ok
  obtain ⟨integration, integration_ok, returned⟩ := bind_eq_ok_iff.mp read_ok
  cases returned
  exact ⟨responses_ok, integration_ok, rfl⟩

theorem responses_of_given {options given : Json} {responses : List Json}
    (read_ok : WebhookOptions.readMethodResponses options = .ok responses)
    (found : options.truthyMember? "methodResponses" = some given) :
    given = .array responses := by
  unfold WebhookOptions.readMethodResponses at read_ok
  rw [found] at read_ok
  split at read_ok <;> cases read_ok
  · cases ‹some given = none›
  · exact Option.some.inj ‹_›

theorem integration_of_given {options : Json} {integration : OrderedMap Json}
    {members : List (String × Json)}
    (read_ok : WebhookOptions.readIntegration options = .ok integration)
    (found : options.truthyMember? "integration" = some (.object members)) :
    integration = .ofList members := by
  unfold WebhookOptions.readIntegration at read_ok
  rw [found] at read_ok
  exact (Except.ok.inj read_ok).symm

theorem mentions_of_readMethodResponses {options : Json} {responses : List Json}
    (read_ok : WebhookOptions.readMethodResponses options = .ok responses) {mention : Mention}
    (mem : mention ∈ responses.flatMap Json.mentions) :
    ∃ raw, options.member? "methodResponses" = some raw ∧ mention ∈ raw.mentions := by
  unfold WebhookOptions.readMethodResponses at read_ok
  split at read_ok
  · cases read_ok
    simp [WebhookOptions.defaultMethodResponses, WebhookOptions.emptyResponse,
      Json.mentions_object, Json.ownMentions] at mem
  next found =>
    cases read_ok
    exact ⟨_, member?_of_truthyMember? found, by rwa [Json.mentions_array]⟩
  · cases read_ok

theorem mentions_of_readIntegration {options : Json} {integration : OrderedMap Json}
    (read_ok : WebhookOptions.readIntegration options = .ok integration) {entry : String × Json}
    (entry_mem : entry ∈ integration.entries) {mention : Mention}
    (mem : mention ∈ entry.2.mentions) :
    ∃ raw, options.member? "integration" = some raw ∧ mention ∈ raw.mentions := by
  unfold WebhookOptions.readIntegration at read_ok
  split at read_ok
  · cases read_ok
    cases entry_mem
  next members found =>
    cases read_ok
    refine ⟨_, member?_of_truthyMember? found, ?_⟩
    rw [Json.mentions_object]
    exact List.mem_append_right _
      (List.mem_flatMap.mpr ⟨entry, OrderedMap.mem_of_mem_ofList entry_mem, mem⟩)
  · cases read_ok

/-- Whatever a trigger mentions by itself is mentioned in its options. -/
theorem mentions_of_read {kind : String} {options : Json} {trigger : Trigger}
    (read_ok : read kind options = .ok trigger) {mention : Mention}
    (mem : mention ∈ trigger.rawJson.flatMap Json.mentions) :
    ∃ raw ∈ rawOptions kind options, mention ∈ raw.mentions := by
  unfold read at read_ok
  split at read_ok
  · cases read_ok
    simp [rawJson] at mem
  · obtain ⟨pattern, found, rfl⟩ := pattern_of_read read_ok
    exact ⟨pattern, by simp [rawOptions, found], by simpa [rawJson] using mem⟩
  · obtain ⟨expression, -, rfl⟩ := schedule_of_read read_ok
    simp [rawJson] at mem
  · obtain ⟨webhook, webhook_ok, rfl⟩ := map_eq_ok_iff.mp read_ok
    obtain ⟨responses_ok, integration_ok, -⟩ := parts_of_readWebhook webhook_ok
    rw [rawJson, List.flatMap_append, List.mem_append] at mem
    rcases mem with responses_mem | integration_mem
    · obtain ⟨raw, found, raw_mem⟩ := mentions_of_readMethodResponses responses_ok responses_mem
      exact ⟨raw, by simp [rawOptions, found], raw_mem⟩
    · obtain ⟨value, value_mem, mem⟩ := List.mem_flatMap.mp integration_mem
      obtain ⟨entry, entry_mem, rfl⟩ := List.mem_map.mp value_mem
      obtain ⟨raw, found, raw_mem⟩ := mentions_of_readIntegration integration_ok entry_mem mem
      exact ⟨raw, by simp [rawOptions, found], raw_mem⟩
  · cases read_ok

end Trigger

namespace FunctionSpec

/-- The parts of a spec that go into a document as they are. -/
def rawJson (spec : FunctionSpec) : List Json :=
  (spec.statements.getD []).map Json.ofMap ++
    (spec.eventSources.getD ∅).entries.flatMap fun source =>
      Trigger.rawOptions source.1 source.2

theorem mentions_of_mem_triggers {spec : FunctionSpec} {triggers : List Trigger}
    (triggers_ok : spec.triggers = .ok triggers) {trigger : Trigger} (mem : trigger ∈ triggers)
    {mention : Mention} (mention_mem : mention ∈ trigger.rawJson.flatMap Json.mentions) :
    ∃ raw ∈ spec.rawJson, mention ∈ raw.mentions := by
  have default_impossible : trigger ≠ .topic := by
    rintro rfl
    simp [Trigger.rawJson] at mention_mem
  unfold FunctionSpec.triggers at triggers_ok
  split at triggers_ok
  · cases triggers_ok
    exact absurd (List.mem_singleton.mp mem) default_impossible
  next sources sources_eq =>
    split at triggers_ok
    · cases triggers_ok
      exact absurd (List.mem_singleton.mp mem) default_impossible
    · obtain ⟨source, source_mem, read_ok⟩ := exists_of_mem_mapM triggers_ok mem
      obtain ⟨raw, raw_mem, mem⟩ := Trigger.mentions_of_read read_ok mention_mem
      refine ⟨raw, List.mem_append_right _ (List.mem_flatMap.mpr ⟨source, ?_, raw_mem⟩), mem⟩
      rwa [sources_eq]

theorem mentions_of_mem_statements {spec : FunctionSpec} {statement : OrderedMap Json}
    (mem : statement ∈ spec.statements.getD []) {mention : Mention}
    (mention_mem : mention ∈ (Json.ofMap statement).mentions) :
    ∃ raw ∈ spec.rawJson, mention ∈ raw.mentions :=
  ⟨_, List.mem_append_left _ (List.mem_map_of_mem mem), mention_mem⟩

end FunctionSpec
end LambdaStack

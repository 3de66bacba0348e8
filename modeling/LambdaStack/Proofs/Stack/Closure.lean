import LambdaStack.Proofs.Stack.Acceptance
import LambdaStack.Proofs.Stack.Mentions

/-!
# Closure

Whatever the resources, outputs and conditions of a document mention is declared in the document,
as long as the raw JSON of the spec mentions nothing.
-/

namespace LambdaStack

open Identifier

namespace Template

/-- What is mentioned is declared in a template. -/
def Resolves (template : Template) : Mention → Prop
  | .reference target => ∃ name, target = .string name ∧
      (name ∈ template.parameters.keys ∨ name ∈ template.resources.keys ∨
        name ∈ Expression.pseudoNames)
  | .attribute target => ∃ resource name, target = .array [.string resource, name] ∧
      resource ∈ template.resources.keys
  | .choice target => ∃ condition whenTrue whenFalse,
      target = .array [.string condition, whenTrue, whenFalse] ∧
      condition ∈ template.conditions.keys

/-- Everything to which a template refers is declared in it. -/
structure ReferencesClosed (template : Template) : Prop where
  /-- Mentions inside resources, outputs and conditions. -/
  mentions : ∀ part ∈ [template.resources, template.outputs, template.conditions],
    ∀ mention ∈ (Json.ofMap part).mentions, template.Resolves mention
  /-- Conditions of resources. -/
  conditions : ∀ key resource condition, template.resources.find? key = some resource →
    resource.member? "Condition" = some condition →
    ∃ name ∈ template.conditions.keys, condition = .string name
  /-- Order in which resources are made. -/
  dependencies : ∀ key resource target, template.resources.find? key = some resource →
    resource.member? "DependsOn" = some target →
    ∃ name ∈ template.resources.keys, target = .string name

end Template

namespace FunctionSpec

theorem resolves_parameter {spec : FunctionSpec} {settings : Settings} {reading : Reading}
    {name : String} (mem : name ∈ Entries.keys (spec.parameterEntries reading)) :
    (spec.layout settings reading).Resolves (.ofName name) :=
  ⟨name, rfl, .inl (OrderedMap.mem_keys_ofList.mpr mem)⟩

theorem HasResource.resolves {spec : FunctionSpec} {settings : Settings} {reading : Reading}
    {name : String} {value : Json} (resource : HasResource spec settings reading name value) :
    (spec.layout settings reading).Resolves (.ofName name) :=
  ⟨name, rfl, .inr (.inl resource.mem_keys)⟩

theorem HasResource.resolves_attribute {spec : FunctionSpec} {settings : Settings}
    {reading : Reading} {name : String} {value : Json}
    (resource : HasResource spec settings reading name value) (property : String) :
    (spec.layout settings reading).Resolves (.ofAttribute name property) :=
  ⟨name, .string property, rfl, resource.mem_keys⟩

theorem resolves_pseudo {template : Template} {name : String}
    (mem : name ∈ Expression.pseudoNames) : template.Resolves (.ofName name) :=
  ⟨name, rfl, .inr (.inr mem)⟩

theorem hasDispatch_mem_conditions (spec : FunctionSpec) (settings : Settings)
    (reading : Reading) :
    Names.hasDispatch ∈ (spec.layout settings reading).conditions.keys :=
  OrderedMap.mem_keys_ofList.mpr List.mem_cons_self

theorem resolves_roleArn (spec : FunctionSpec) (settings : Settings) (reading : Reading) :
    ∀ mention ∈ Role.arn.mentions, (spec.layout settings reading).Resolves mention := by
  have condition_mem := hasDispatch_mem_conditions spec settings reading
  rw [Role.mentions_arn]
  intro mention mem
  simp only [List.mem_cons, List.not_mem_nil, or_false] at mem
  rcases mem with rfl | rfl | rfl
  · exact ⟨_, _, _, rfl, condition_mem⟩
  · exact HasResource.dispatchRole.resolves_attribute "Arn"
  · exact HasResource.defaultRole.resolves_attribute "Arn"

theorem resolves_boundVariables (spec : FunctionSpec) (settings : Settings) (reading : Reading) :
    ∀ member ∈ spec.boundVariables reading, ∀ mention ∈ member.2.mentions,
      (spec.layout settings reading).Resolves mention := by
  rintro ⟨key, value⟩ member_mem mention mem
  rcases variableEntries_cases (OrderedMap.mem_of_mem_ofList member_mem) with
    ⟨rfl, key_mem⟩ | stack_mem | ⟨rfl, key_mem⟩
  · rw [Json.mentions_reference, List.mem_singleton] at mem
    subst mem
    rcases key_mem with rfl | topic_mem
    · exact HasResource.alarmTopic.resolves
    · obtain ⟨name, name_mem, rfl⟩ := List.mem_map.mp topic_mem
      obtain ⟨topic, destination_mem, rfl⟩ := List.mem_map.mp name_mem
      exact (HasResource.destination topic destination_mem).resolves
  · obtain ⟨name, pseudo, rfl⟩ := stackVariable_cases stack_mem
    rw [Json.mentions_reference, List.mem_singleton] at mem
    subst mem
    exact resolves_pseudo pseudo
  · rw [Json.mentions_reference, List.mem_singleton] at mem
    subst mem
    exact resolves_parameter key_mem

theorem resolves_functionResource (spec : FunctionSpec) (settings : Settings)
    (reading : Reading) :
    ∀ mention ∈ (spec.functionResource reading).mentions,
      (spec.layout settings reading).Resolves mention := by
  intro mention mem
  simp only [mentions_functionResource, List.mem_append, List.mem_cons, List.not_mem_nil,
    or_false] at mem
  rcases mem with (((rfl | rfl | rfl) | role_mem) | rfl) | variable_mem
  · exact resolves_parameter (by simp [parameterEntries, Parameters.provenance])
  · exact resolves_parameter (by simp [parameterEntries, Parameters.provenance])
  · exact resolves_parameter (by simp [parameterEntries, Parameters.provenance])
  · exact resolves_roleArn spec settings reading mention role_mem
  · exact resolves_pseudo (by decide)
  · obtain ⟨member, member_mem, mem⟩ := List.mem_flatMap.mp variable_mem
    exact resolves_boundVariables spec settings reading member member_mem mention mem

theorem resolves_rolePolicies {spec : FunctionSpec} (settings : Settings) (reading : Reading)
    (raw_plain : ∀ raw ∈ spec.rawJson, raw.mentions = []) :
    ∀ mention ∈ (spec.rolePolicies reading).flatMap Json.mentions,
      (spec.layout settings reading).Resolves mention := by
  intro mention mem
  rw [mentions_rolePolicies, List.mem_append] at mem
  rcases mem with statement_mem | policy_mem
  · obtain ⟨statement, mem, mention_mem⟩ := List.mem_flatMap.mp statement_mem
    obtain ⟨raw, raw_mem, mention_mem⟩ := mentions_of_mem_statements mem mention_mem
    rw [raw_plain raw raw_mem] at mention_mem
    cases mention_mem
  · obtain ⟨topic, -, rfl⟩ := List.mem_map.mp policy_mem
    exact HasResource.function.resolves

theorem not_mem_rawJson_of_trigger {spec : FunctionSpec} {settings : Settings} {reading : Reading}
    (reads : spec.Reads settings reading) (raw_plain : ∀ raw ∈ spec.rawJson, raw.mentions = [])
    {trigger : Trigger} (uses : trigger ∈ reading.triggers) (mention : Mention) :
    mention ∉ trigger.rawJson.flatMap Json.mentions := by
  intro mem
  obtain ⟨raw, raw_mem, mem⟩ := mentions_of_mem_triggers reads.triggers uses mem
  rw [raw_plain raw raw_mem] at mem
  cases mem

theorem HasResource.resolves_mentions {spec : FunctionSpec} {settings : Settings}
    {reading : Reading} (reads : spec.Reads settings reading)
    (raw_plain : ∀ raw ∈ spec.rawJson, raw.mentions = []) {key : String} {value : Json}
    (resource : HasResource spec settings reading key value) :
    ∀ mention ∈ value.mentions, (spec.layout settings reading).Resolves mention := by
  have stackName : (spec.layout settings reading).Resolves (.ofName "AWS::StackName") :=
    resolves_pseudo (by decide)
  have region : (spec.layout settings reading).Resolves (.ofName "AWS::Region") :=
    resolves_pseudo (by decide)
  have account : (spec.layout settings reading).Resolves (.ofName "AWS::AccountId") :=
    resolves_pseudo (by decide)
  have alarmTopic : (spec.layout settings reading).Resolves (.ofName Names.alarmTopic) :=
    HasResource.alarmTopic.resolves
  have function : (spec.layout settings reading).Resolves (.ofName spec.name) :=
    HasResource.function.resolves
  have functionArn : (spec.layout settings reading).Resolves (.ofAttribute spec.name "Arn") :=
    HasResource.function.resolves_attribute "Arn"
  cases resource with
  | alarm kind => simp [Alarms.mentions_alarm, alarmTopic, function]
  | alarmTopic =>
      have email : (spec.layout settings reading).Resolves (.ofName Names.alarmEmail) :=
        resolves_parameter (by simp [parameterEntries])
      simp [Alarms.mentions_topic, stackName, email]
  | function => exact resolves_functionResource spec settings reading
  | defaultRole =>
      have policies := resolves_rolePolicies settings reading raw_plain
      simp only [mentions_defaultRole, List.forall_mem_append, List.forall_mem_cons]
      exact ⟨⟨account, alarmTopic, List.forall_mem_nil _⟩, policies⟩
  | dispatchRole =>
      have policies := resolves_rolePolicies settings reading raw_plain
      have dispatchTopic : (spec.layout settings reading).Resolves (.ofName Names.dispatchTopic) :=
        resolves_parameter (dispatchTopic_mem_keys spec reading)
      simp only [mentions_dispatchRole, List.forall_mem_append, List.forall_mem_cons]
      exact ⟨⟨account, alarmTopic, dispatchTopic, List.forall_mem_nil _⟩, policies⟩
  | destination topic mem =>
      have email : (spec.layout settings reading).Resolves (.ofName topic.emailName) :=
        resolves_parameter (emailName_mem_keys spec mem)
      simp [TopicDestination.mentions_topic, stackName, email]
  | topicPermission uses =>
      have topic : HasResource spec settings reading _ _ := .triggerTopic uses
      simp [mentions_invocationPermission, functionArn, topic.resolves]
  | user uses =>
      have topic : HasResource spec settings reading _ _ := .triggerTopic uses
      simp [TopicTrigger.mentions_user, topic.resolves, region, account]
  | triggerTopic => simp [TopicTrigger.mentions_topic, stackName, functionArn]
  | accessKey uses =>
      have user : HasResource spec settings reading _ _ := .user uses
      simp [TopicTrigger.mentions_accessKey, user.resolves]
  | rulePermission source uses =>
      have rule : HasResource spec settings reading _ _ := .rule source uses
      simp [mentions_invocationPermission, functionArn, rule.resolves_attribute]
  | rule source uses =>
      have roles := resolves_roleArn spec settings reading
      have pattern := not_mem_rawJson_of_trigger reads raw_plain uses
      simp only [RuleTrigger.mentions_rule, List.forall_mem_append, List.forall_mem_cons]
      exact ⟨roles, functionArn, fun mention mem => absurd mem (pattern mention)⟩
  | httpResource options uses =>
      have gateway : HasResource spec settings reading _ _ := .gateway options uses
      simp [WebhookTrigger.mentions_resource, gateway.resolves, gateway.resolves_attribute]
  | method options uses =>
      have gateway : HasResource spec settings reading _ _ := .gateway options uses
      have httpResource : HasResource spec settings reading _ _ := .httpResource options uses
      intro mention mem
      rcases WebhookTrigger.mem_mentions_method mem with rfl | rfl | given | ⟨-, uri_mem⟩
      · exact gateway.resolves
      · exact httpResource.resolves
      · exact absurd given (not_mem_rawJson_of_trigger reads raw_plain uses mention)
      · simp only [WebhookTrigger.mentions_defaultUri, List.mem_cons, List.not_mem_nil,
          or_false] at uri_mem
        rcases uri_mem with rfl | rfl
        · exact region
        · exact functionArn
  | webhookPermission options uses =>
      have gateway : HasResource spec settings reading _ _ := .gateway options uses
      simp [mentions_invocationPermission, WebhookTrigger.mentions_requests, functionArn, region,
        account, gateway.resolves]
  | gateway => simp [WebhookTrigger.mentions_gateway, stackName]
  | apiKey options uses =>
      have gateway : HasResource spec settings reading _ _ := .gateway options uses
      simp [WebhookTrigger.mentions_apiKey, stackName, gateway.resolves]
  | deployment options uses =>
      have gateway : HasResource spec settings reading _ _ := .gateway options uses
      simp [WebhookTrigger.mentions_deployment, gateway.resolves]
  | webhookAlarm => simp [WebhookTrigger.mentions_alarm, alarmTopic, stackName]

theorem resolves_outputs {spec : FunctionSpec} (settings : Settings) {reading : Reading} :
    ∀ output ∈ spec.outputEntries reading, ∀ mention ∈ output.2.mentions,
      (spec.layout settings reading).Resolves mention := by
  intro output output_mem
  obtain ⟨trigger, uses, mem⟩ := List.mem_flatMap.mp output_mem
  rcases trigger with _ | source | options
  · have topic : HasResource spec settings reading _ _ := .triggerTopic uses
    have accessKey : HasResource spec settings reading _ _ := .accessKey uses
    simp only [Trigger.outputs, TopicTrigger.outputs, List.mem_cons, List.not_mem_nil,
      or_false] at mem
    rcases mem with rfl | rfl | rfl
    · simp [TopicTrigger.mentions_output, topic.resolves]
    · simp [TopicTrigger.mentions_output, accessKey.resolves]
    · simp [TopicTrigger.mentions_output, accessKey.resolves_attribute]
  · cases mem
  · have gateway : HasResource spec settings reading _ _ := .gateway options uses
    have apiKey : HasResource spec settings reading _ _ := .apiKey options uses
    have region : (spec.layout settings reading).Resolves (.ofName "AWS::Region") :=
      resolves_pseudo (by decide)
    simp only [Trigger.outputs, WebhookTrigger.outputs, List.mem_cons] at mem
    rcases mem with rfl | key_mem
    · simp [WebhookTrigger.mentions_endpoint, gateway.resolves, region]
    · split at key_mem
      · rw [List.mem_singleton.mp key_mem]
        simp [Json.mentions_object, Json.ownMentions, apiKey.resolves]
      · cases key_mem

theorem resolves_conditions {spec : FunctionSpec} {settings : Settings} {reading : Reading}
    {key : String} {value : Json}
    (mem : (key, value) ∈ (spec.layout settings reading).conditions.entries) :
    ∀ mention ∈ value.mentions, (spec.layout settings reading).Resolves mention := by
  have entry_eq := List.mem_singleton.mp (OrderedMap.mem_of_mem_ofList mem)
  cases entry_eq
  have dispatchTopic : (spec.layout settings reading).Resolves (.ofName Names.dispatchTopic) :=
    resolves_parameter (dispatchTopic_mem_keys spec reading)
  simpa [Dispatch.condition] using dispatchTopic

theorem ownMentions_resources (spec : FunctionSpec) (settings : Settings) (reading : Reading) :
    Json.ownMentions (spec.layout settings reading).resources.entries = [] :=
  Json.ownMentions_eq_nil HasResource.defaultRole.mem_keys (by decide)

theorem outputKey_plain {trigger : Trigger} {suffix : String}
    (mem : suffix ∈ trigger.outputSuffixes) (name : String) :
    name ++ suffix ∉ ["Ref", "Fn::GetAtt", "Fn::If"] := by
  have endings_differ : ∀ suffix ∈ ["SNSTopic", "SNSUserAccessKey", "SNSUserSecretAccessKey",
      "WebhookAPIEndpoint", "WebhookApiKey"], 5 ≤ suffix.length ∧
        ∀ key ∈ ["Ref", "Fn::GetAtt", "Fn::If"], ending suffix ≠ ending key := by decide
  have listed : suffix ∈ ["SNSTopic", "SNSUserAccessKey", "SNSUserSecretAccessKey",
      "WebhookAPIEndpoint", "WebhookApiKey"] := by
    rcases trigger with _ | source | options
    · simp only [Trigger.outputSuffixes, List.mem_cons, List.not_mem_nil, or_false] at mem ⊢
      tauto
    · cases mem
    · cases asked : options.apiKey <;> simp [Trigger.outputSuffixes, asked] at mem ⊢ <;> tauto
  obtain ⟨long, differ⟩ := endings_differ suffix listed
  intro key_mem
  exact differ _ key_mem (ending_append name long).symm

theorem ownMentions_outputs {spec : FunctionSpec} {settings : Settings} {reading : Reading}
    (reads : spec.Reads settings reading) :
    Json.ownMentions (spec.layout settings reading).outputs.entries = [] := by
  have entries_eq : (spec.layout settings reading).outputs.entries = spec.outputEntries reading :=
    OrderedMap.entries_ofList (nodup_outputs reads)
  rw [entries_eq]
  cases outputs_eq : spec.outputEntries reading with
  | nil => rfl
  | cons output rest =>
      have key_mem : output.1 ∈ Entries.keys (spec.outputEntries reading) := by
        simp [outputs_eq]
      rw [keys_outputEntries] at key_mem
      obtain ⟨suffix, suffix_mem, key_eq⟩ := List.mem_map.mp key_mem
      obtain ⟨trigger, -, suffix_mem⟩ := List.mem_flatMap.mp suffix_mem
      have plain := outputKey_plain suffix_mem spec.name
      rw [key_eq] at plain
      exact Json.ownMentions_eq_nil List.mem_cons_self plain

/-- Only the dispatch role has a condition. -/
theorem HasResource.eq_of_condition {spec : FunctionSpec} {settings : Settings}
    {reading : Reading} {key : String} {value condition : Json}
    (resource : HasResource spec settings reading key value)
    (found : value.member? "Condition" = some condition) :
    condition = .string Names.hasDispatch := by
  cases resource with
  | dispatchRole => exact (Option.some.inj found).symm
  | _ => cases found

/-- Only the key and the deployment of a webhook wait for another resource. -/
theorem HasResource.eq_of_dependsOn {spec : FunctionSpec} {settings : Settings}
    {reading : Reading} {key : String} {value target : Json}
    (resource : HasResource spec settings reading key value)
    (found : value.member? "DependsOn" = some target) :
    ∃ options, .webhook options ∈ reading.triggers ∧
      ((key = WebhookTrigger.apiKeyName spec.name ∧
          target = .string (WebhookTrigger.deploymentKey spec.name settings.deploymentSuffix)) ∨
        (key = WebhookTrigger.deploymentKey spec.name settings.deploymentSuffix ∧
          target = .string (WebhookTrigger.methodName spec.name))) := by
  cases resource with
  | apiKey options uses => exact ⟨options, uses, .inl ⟨rfl, (Option.some.inj found).symm⟩⟩
  | deployment options uses => exact ⟨options, uses, .inr ⟨rfl, (Option.some.inj found).symm⟩⟩
  | _ => cases found

theorem resolves_part {template : Template} {part : OrderedMap Json}
    (own_eq : Json.ownMentions part.entries = [])
    (resolves : ∀ key value, (key, value) ∈ part.entries →
      ∀ mention ∈ value.mentions, template.Resolves mention) :
    ∀ mention ∈ (Json.ofMap part).mentions, template.Resolves mention := by
  intro mention mem
  rw [Json.ofMap, Json.mentions_object, own_eq, List.nil_append] at mem
  obtain ⟨⟨key, value⟩, entry_mem, mem⟩ := List.mem_flatMap.mp mem
  exact resolves key value entry_mem mention mem

/-- Whatever is compiled from a spec whose raw JSON mentions nothing refers only to what it
declares. -/
theorem referencesClosed_of_embed {spec : FunctionSpec} {settings : Settings}
    {template : Template} (embed_ok : spec.embed settings = .ok template)
    (raw_plain : ∀ raw ∈ spec.rawJson, raw.mentions = []) : template.ReferencesClosed := by
  obtain ⟨reading, reads, unambiguous, rfl⟩ := layout_of_embed embed_ok
  have resource_of_mem {key : String} {value : Json}
      (mem : (key, value) ∈ (spec.layout settings reading).resources.entries) :
      HasResource spec settings reading key value :=
    mem_resourceEntries_iff.mp (OrderedMap.mem_of_mem_ofList mem)
  have condition_mem := hasDispatch_mem_conditions spec settings reading
  refine ⟨?_, fun key resource condition found has_condition => ?_,
    fun key resource target found waits => ?_⟩
  · intro part part_mem
    simp only [List.mem_cons, List.not_mem_nil, or_false] at part_mem
    rcases part_mem with rfl | rfl | rfl
    · exact resolves_part (ownMentions_resources spec settings reading)
        fun key value mem => (resource_of_mem mem).resolves_mentions reads raw_plain
    · exact resolves_part (ownMentions_outputs reads) fun key value mem =>
        resolves_outputs settings (key, value) (OrderedMap.mem_of_mem_ofList mem)
    · exact resolves_part (Json.ownMentions_eq_nil condition_mem (by decide))
        fun key value mem => resolves_conditions mem
  · have resource := (find?_resources unambiguous).mp found
    exact ⟨_, condition_mem, resource.eq_of_condition has_condition⟩
  · have resource := (find?_resources unambiguous).mp found
    obtain ⟨options, uses, ⟨-, target_eq⟩ | ⟨-, target_eq⟩⟩ := resource.eq_of_dependsOn waits
    · have deployment : HasResource spec settings reading _ _ := .deployment options uses
      exact ⟨_, deployment.mem_keys, target_eq⟩
    · have method : HasResource spec settings reading _ _ := .method options uses
      exact ⟨_, method.mem_keys, target_eq⟩

theorem sample_plain : ∀ raw ∈ sample.rawJson, raw.mentions = [] := by
  have rawJson_eq : sample.rawJson =
      [.object [("Effect", "Allow"), ("Action", "s3:GetObject"), ("Resource", "*")]] := rfl
  rw [rawJson_eq, List.forall_mem_singleton]
  simp [Json.mentions_object, Json.ownMentions]

theorem sample_referencesClosed : ∃ template, sample.embed {} = .ok template ∧
    (∀ raw ∈ sample.rawJson, raw.mentions = []) ∧ template.ReferencesClosed :=
  ⟨_, embed_sample, sample_plain, referencesClosed_of_embed embed_sample sample_plain⟩

end FunctionSpec
end LambdaStack

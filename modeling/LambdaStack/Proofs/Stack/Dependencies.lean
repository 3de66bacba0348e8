import LambdaStack.Proofs.Document.Dependencies
import LambdaStack.Proofs.Stack.Closure

/-!
# Circular documents

The function needs both of its roles and, as a variable, everything that is named like a parameter.
Hence a document is circular when its roles name the function, as they do for each destination, or
when a parameter is named like a resource that needs the function. There are no other circles.
-/

namespace LambdaStack

open Identifier Relation

/-- Resources of a trigger that need the function. -/
def Trigger.dependents (function : String) (settings : Settings) : Trigger → List String
  | topic => [
      TopicTrigger.permissionName function,
      TopicTrigger.userName function,
      TopicTrigger.topicName function,
      TopicTrigger.accessKeyName function
    ]
  | rule source => [RuleTrigger.permissionName function source, RuleTrigger.ruleName function source]
  | webhook options =>
    WebhookTrigger.permissionName function ::
      if WebhookTrigger.isSet options.integration "Uri" then []
      else [
        WebhookTrigger.methodName function,
        WebhookTrigger.deploymentKey function settings.deploymentSuffix,
        WebhookTrigger.apiKeyName function
      ]

namespace FunctionSpec

/-- The function and the resources that need it, if only through others. -/
def dependents (spec : FunctionSpec) (settings : Settings) (reading : Reading) : List String :=
  [spec.name, Alarms.alarmName spec.name Alarms.errors,
    Alarms.alarmName spec.name Alarms.noInvocations] ++
    reading.triggers.flatMap (Trigger.dependents spec.name settings)

/-- The ways in which a resource of a document needs itself. -/
inductive Circular (spec : FunctionSpec) (settings : Settings) (reading : Reading) : Prop where
  /-- The policy of a destination, which is part of both roles, names the function. -/
  | destination (topic : TopicDestination) (mem : topic ∈ reading.topics)
  /-- A variable of the function is named like a resource that needs the function. -/
  | parameter (name : String) (mem : name ∈ Entries.keys (spec.parameterEntries reading))
    (dependent : name ∈ spec.dependents settings reading)

variable {spec : FunctionSpec} {settings : Settings} {reading : Reading}

theorem mem_dependents_of_trigger {trigger : Trigger} (uses : trigger ∈ reading.triggers)
    {key : String} (mem : key ∈ trigger.dependents spec.name settings) :
    key ∈ spec.dependents settings reading :=
  List.mem_append_right _ (List.mem_flatMap.mpr ⟨trigger, uses, mem⟩)

/-- A resource of the document that needs the function, if only through others. -/
def NeedsFunction (spec : FunctionSpec) (settings : Settings) (reading : Reading) (key : String) :
    Prop :=
  (∃ value, HasResource spec settings reading key value) ∧
    ReflTransGen (spec.layout settings reading).Needs key spec.name

section NeedsFunction

variable (unambiguous : spec.Unambiguous settings reading)
include unambiguous

/-- A resource needs every resource that its body mentions. -/
theorem HasResource.needs {key target : String} {value needed : Json}
    (resource : HasResource spec settings reading key value)
    (other : HasResource spec settings reading target needed) {mention : Mention}
    (mem : mention ∈ value.mentions) (target_eq : mention.target? = some target) :
    (spec.layout settings reading).Needs key target :=
  ⟨other.mem_keys, value, (find?_resources unambiguous).mpr resource,
    value.targets_subset_requirements (Json.mem_targets mem target_eq)⟩

theorem HasResource.needsFunction {key target : String} {value : Json}
    (resource : HasResource spec settings reading key value)
    (other : NeedsFunction spec settings reading target) {mention : Mention}
    (mem : mention ∈ value.mentions) (target_eq : mention.target? = some target) :
    NeedsFunction spec settings reading key := by
  obtain ⟨⟨needed, found⟩, reaches⟩ := other
  exact ⟨⟨value, resource⟩, .head (resource.needs unambiguous found mem target_eq) reaches⟩

/-- A resource needs the one for which it waits. -/
theorem HasResource.needsFunction_of_wait {key target : String} {value : Json}
    (resource : HasResource spec settings reading key value)
    (other : NeedsFunction spec settings reading target)
    (waits : value.member? "DependsOn" = some (.string target)) :
    NeedsFunction spec settings reading key := by
  obtain ⟨⟨needed, found⟩, reaches⟩ := other
  have required : target ∈ value.requirements := by
    rw [Json.requirements, waits]
    exact List.mem_cons_self
  exact ⟨⟨value, resource⟩, .head
    ⟨found.mem_keys, value, (find?_resources unambiguous).mpr resource, required⟩ reaches⟩

omit unambiguous in
theorem needsFunction_self : NeedsFunction spec settings reading spec.name :=
  ⟨⟨_, .function⟩, .refl⟩

theorem HasResource.needsFunction_of_arn {key : String} {value : Json}
    (resource : HasResource spec settings reading key value)
    (mentioned : .ofAttribute spec.name "Arn" ∈ value.mentions) :
    NeedsFunction spec settings reading key :=
  resource.needsFunction unambiguous needsFunction_self mentioned rfl

theorem needsFunction_of_topic (uses : .topic ∈ reading.triggers) {key : String}
    (mem : key ∈ Trigger.topic.dependents spec.name settings) :
    NeedsFunction spec settings reading key := by
  have topic : NeedsFunction spec settings reading (TopicTrigger.topicName spec.name) :=
    HasResource.needsFunction_of_arn unambiguous (.triggerTopic uses)
      (by simp [TopicTrigger.mentions_topic])
  have user : NeedsFunction spec settings reading (TopicTrigger.userName spec.name) :=
    HasResource.needsFunction unambiguous (.user uses) topic
      (by rw [TopicTrigger.mentions_user]; exact List.mem_cons_self) rfl
  simp only [Trigger.dependents, List.mem_cons, List.not_mem_nil, or_false] at mem
  rcases mem with rfl | rfl | rfl | rfl
  · exact HasResource.needsFunction_of_arn unambiguous (.topicPermission uses)
      (by simp [mentions_invocationPermission])
  · exact user
  · exact topic
  · exact HasResource.needsFunction unambiguous (.accessKey uses) user
      (by rw [TopicTrigger.mentions_accessKey]; exact List.mem_cons_self) rfl

theorem needsFunction_of_rule {source : RuleSource} (uses : .rule source ∈ reading.triggers)
    {key : String} (mem : key ∈ (Trigger.rule source).dependents spec.name settings) :
    NeedsFunction spec settings reading key := by
  simp only [Trigger.dependents, List.mem_cons, List.not_mem_nil, or_false] at mem
  rcases mem with rfl | rfl
  · exact HasResource.needsFunction_of_arn unambiguous (.rulePermission source uses)
      (by simp [mentions_invocationPermission])
  · exact HasResource.needsFunction_of_arn unambiguous (.rule source uses)
      (by simp [RuleTrigger.mentions_rule])

/-- A method without an address of the caller is integrated with the function. -/
theorem needsFunction_of_method {options : WebhookOptions}
    (uses : .webhook options ∈ reading.triggers)
    (unset : WebhookTrigger.isSet options.integration "Uri" = false) :
    NeedsFunction spec settings reading (WebhookTrigger.methodName spec.name) := by
  have address_mem : ("Uri", WebhookTrigger.defaultUri spec.name) ∈
      (WebhookTrigger.integration spec.name options).entries :=
    WebhookTrigger.uri_mem_integration unset
  refine HasResource.needsFunction_of_arn unambiguous (.method options uses) ?_
  rw [WebhookTrigger.mentions_method, WebhookTrigger.mentions_integration]
  refine List.mem_append_right _ (List.mem_flatMap.mpr ⟨_, address_mem, ?_⟩)
  simp [WebhookTrigger.mentions_defaultUri]

theorem needsFunction_of_webhook {options : WebhookOptions}
    (uses : .webhook options ∈ reading.triggers) {key : String}
    (mem : key ∈ (Trigger.webhook options).dependents spec.name settings) :
    NeedsFunction spec settings reading key := by
  simp only [Trigger.dependents, List.mem_cons] at mem
  rcases mem with rfl | mem
  · exact HasResource.needsFunction_of_arn unambiguous (.webhookPermission options uses)
      (by simp [mentions_invocationPermission])
  · split at mem
    · cases mem
    next unset =>
      have method := needsFunction_of_method unambiguous uses (Bool.not_eq_true _ ▸ unset)
      have deployment := HasResource.needsFunction_of_wait unambiguous
        (.deployment options uses) method rfl
      simp only [List.mem_cons, List.not_mem_nil, or_false] at mem
      rcases mem with rfl | rfl | rfl
      · exact method
      · exact deployment
      · exact HasResource.needsFunction_of_wait unambiguous (.apiKey options uses) deployment rfl

/-- Dependent resources need the function. -/
theorem needsFunction_of_mem_dependents {key : String}
    (mem : key ∈ spec.dependents settings reading) : NeedsFunction spec settings reading key := by
  have alarm (kind : Alarms.Kind) (mem : kind ∈ [Alarms.errors, Alarms.noInvocations]) :
      NeedsFunction spec settings reading (Alarms.alarmName spec.name kind) :=
    HasResource.needsFunction unambiguous (.alarm kind mem) needsFunction_self
      (by rw [Alarms.mentions_alarm]; exact List.mem_cons_of_mem _ List.mem_cons_self) rfl
  simp only [dependents, List.mem_append, List.mem_cons, List.not_mem_nil, or_false,
    List.mem_flatMap] at mem
  rcases mem with (rfl | rfl | rfl) | ⟨trigger, uses, mem⟩
  · exact needsFunction_self
  · exact alarm Alarms.errors (by simp)
  · exact alarm Alarms.noInvocations (by simp)
  · rcases trigger with _ | source | options
    · exact needsFunction_of_topic unambiguous uses mem
    · exact needsFunction_of_rule unambiguous uses mem
    · exact needsFunction_of_webhook unambiguous uses mem

/-- The function needs what a parameter is named like, and its roles; either may need the function
in turn. -/
theorem Circular.not_acyclic (circular : spec.Circular settings reading) :
    ¬(spec.layout settings reading).Acyclic := by
  intro acyclic
  have own : HasResource spec settings reading _ _ := .function
  cases circular with
  | destination topic mem =>
      have role : HasResource spec settings reading _ _ := .defaultRole
      have role_mem : .ofAttribute Names.defaultRole "Arn" ∈
          (spec.functionResource reading).mentions := by
        simp [mentions_functionResource, Role.mentions_arn]
      have function_mem : .ofName spec.name ∈ (spec.defaultRole reading).mentions := by
        rw [mentions_defaultRole, mentions_rolePolicies]
        exact List.mem_append_right _ (List.mem_append_right _ (List.mem_map.mpr ⟨topic, mem, rfl⟩))
      exact acyclic spec.name (.head (own.needs unambiguous role role_mem rfl)
        (.single (role.needs unambiguous own function_mem rfl)))
  | parameter name mem dependent =>
      obtain ⟨⟨value, resource⟩, reaches⟩ := needsFunction_of_mem_dependents unambiguous dependent
      have bound_mem := parameter_mem_boundVariables mem
      have variable_mem : .ofName name ∈ (spec.functionResource reading).mentions := by
        rw [mentions_functionResource]
        exact List.mem_append_right _ (List.mem_flatMap.mpr ⟨_, bound_mem, by simp⟩)
      exact acyclic spec.name (.head' (own.needs unambiguous resource variable_mem rfl) reaches)

end NeedsFunction

theorem topics_eq_nil (straight : ¬spec.Circular settings reading) : reading.topics = [] :=
  List.eq_nil_iff_forall_not_mem.mpr fun topic mem => straight (.destination topic mem)

theorem target?_of_mem_rawJson (raw_plain : ∀ raw ∈ spec.rawJson, raw.targets = []) {raw : Json}
    (raw_mem : raw ∈ spec.rawJson) {mention : Mention} (mem : mention ∈ raw.mentions) :
    mention.target? = none := by
  refine Option.eq_none_iff_forall_ne_some.mpr fun target target_eq => ?_
  have target_mem := Json.mem_targets mem target_eq
  rw [raw_plain raw raw_mem] at target_mem
  cases target_mem

theorem target?_of_trigger (reads : spec.Reads settings reading)
    (raw_plain : ∀ raw ∈ spec.rawJson, raw.targets = []) {trigger : Trigger}
    (uses : trigger ∈ reading.triggers) {mention : Mention}
    (mem : mention ∈ trigger.rawJson.flatMap Json.mentions) : mention.target? = none := by
  obtain ⟨raw, raw_mem, mem⟩ := mentions_of_mem_triggers reads.triggers uses mem
  exact target?_of_mem_rawJson raw_plain raw_mem mem

/-- The policies of the roles need nothing while there is no destination. -/
theorem target?_of_mem_rolePolicies (raw_plain : ∀ raw ∈ spec.rawJson, raw.targets = [])
    (straight : ¬spec.Circular settings reading) {mention : Mention}
    (mem : mention ∈ (spec.rolePolicies reading).flatMap Json.mentions) :
    mention.target? = none := by
  rw [mentions_rolePolicies, topics_eq_nil straight, List.map_nil, List.append_nil] at mem
  obtain ⟨statement, statement_mem, mem⟩ := List.mem_flatMap.mp mem
  obtain ⟨raw, raw_mem, mem⟩ := mentions_of_mem_statements statement_mem mem
  exact target?_of_mem_rawJson raw_plain raw_mem mem

/-- A resource can be made when all can that it mentions or waits for. -/
theorem HasResource.makeable_of (unambiguous : spec.Unambiguous settings reading) {key : String}
    {value : Json} (resource : HasResource spec settings reading key value)
    (awaited : ∀ target, value.member? "DependsOn" = some (.string target) →
      (spec.layout settings reading).Makeable target)
    (mentioned : ∀ mention ∈ value.mentions, ∀ target, mention.target? = some target →
      (spec.layout settings reading).Makeable target) :
    (spec.layout settings reading).Makeable key := by
  refine Acc.intro key fun target needs => ?_
  obtain ⟨-, other, found, required⟩ := needs
  rw [(find?_resources unambiguous).mpr resource, Option.some.injEq] at found
  subst found
  rcases Json.mem_requirements required with waits | ⟨mention, mem, target_eq⟩
  · exact awaited target waits
  · exact mentioned mention mem target target_eq

section Makeable

variable (reads : spec.Reads settings reading) (unambiguous : spec.Unambiguous settings reading)
  (raw_plain : ∀ raw ∈ spec.rawJson, raw.targets = []) (straight : ¬spec.Circular settings reading)

include reads in
theorem makeable_pseudo {name : String} (pseudo : name ∈ Expression.pseudoNames) :
    (spec.layout settings reading).Makeable name := by
  refine Template.makeable_of_not_mem fun mem => ?_
  have not_alphanumeric : ∀ name ∈ Expression.pseudoNames, isAlphanumeric name = false := by decide
  have alphanumeric := isAlphanumeric_of_mem_resources reads mem
  rw [not_alphanumeric name pseudo] at alphanumeric
  cases alphanumeric

include reads in
theorem makeable_stackName : (spec.layout settings reading).Makeable "AWS::StackName" :=
  makeable_pseudo reads (by decide)

include reads in
theorem makeable_region : (spec.layout settings reading).Makeable "AWS::Region" :=
  makeable_pseudo reads (by decide)

include reads in
theorem makeable_account : (spec.layout settings reading).Makeable "AWS::AccountId" :=
  makeable_pseudo reads (by decide)

include straight in
theorem makeable_fixed {name : String} (fixed : name ∈ [Names.alarmEmail, Names.dispatchTopic]) :
    (spec.layout settings reading).Makeable name := by
  have listed : ∀ name ∈ [Names.alarmEmail, Names.dispatchTopic], name ∈ sharedParameters := by
    decide
  have shared := listed name fixed
  refine Template.makeable_of_not_mem fun mem => straight (.parameter name ?_ ?_)
  · rw [(keys_parameterEntries_perm spec reading).mem_iff]
    exact List.mem_append_right _ (List.mem_append_left _ shared)
  · rw [eq_name_of_mem_sharedParameters mem shared]
    exact List.mem_append_left _ List.mem_cons_self

include reads unambiguous

include straight in
theorem makeable_alarmTopic : (spec.layout settings reading).Makeable Names.alarmTopic := by
  have stackName := makeable_stackName reads
  have email := makeable_fixed straight (show Names.alarmEmail ∈ _ by decide)
  refine HasResource.makeable_of unambiguous .alarmTopic (by rintro target ⟨⟩) ?_
  simp [Alarms.mentions_topic, Mention.target?, stackName, email]

include raw_plain straight in
theorem makeable_defaultRole : (spec.layout settings reading).Makeable Names.defaultRole := by
  have account := makeable_account reads
  have alarmTopic := makeable_alarmTopic reads unambiguous straight
  refine HasResource.makeable_of unambiguous .defaultRole (by rintro target ⟨⟩) ?_
  rw [mentions_defaultRole, List.forall_mem_append]
  refine ⟨by simp [Mention.target?, account, alarmTopic], fun mention mem target target_eq => ?_⟩
  rw [target?_of_mem_rolePolicies raw_plain straight mem] at target_eq
  cases target_eq

include raw_plain straight in
theorem makeable_dispatchRole : (spec.layout settings reading).Makeable Names.dispatchRole := by
  have account := makeable_account reads
  have alarmTopic := makeable_alarmTopic reads unambiguous straight
  have dispatchTopic := makeable_fixed straight (show Names.dispatchTopic ∈ _ by decide)
  refine HasResource.makeable_of unambiguous .dispatchRole (by rintro target ⟨⟩) ?_
  rw [mentions_dispatchRole, List.forall_mem_append]
  refine ⟨by simp [Mention.target?, account, alarmTopic, dispatchTopic],
    fun mention mem target target_eq => ?_⟩
  rw [target?_of_mem_rolePolicies raw_plain straight mem] at target_eq
  cases target_eq

include raw_plain straight in
theorem makeable_roleArn : ∀ mention ∈ Role.arn.mentions, ∀ target,
    mention.target? = some target → (spec.layout settings reading).Makeable target := by
  have defaultRole := makeable_defaultRole reads unambiguous raw_plain straight
  have dispatchRole := makeable_dispatchRole reads unambiguous raw_plain straight
  simp [Role.mentions_arn, Mention.target?, defaultRole, dispatchRole]

theorem makeable_gateway {options : WebhookOptions} (uses : .webhook options ∈ reading.triggers) :
    (spec.layout settings reading).Makeable (WebhookTrigger.gatewayName spec.name) := by
  have stackName := makeable_stackName reads
  refine HasResource.makeable_of unambiguous (.gateway options uses) (by rintro target ⟨⟩) ?_
  simp [WebhookTrigger.mentions_gateway, Mention.target?, stackName]

theorem makeable_httpResource {options : WebhookOptions}
    (uses : .webhook options ∈ reading.triggers) :
    (spec.layout settings reading).Makeable (WebhookTrigger.resourceName spec.name) := by
  have gateway := makeable_gateway reads unambiguous uses
  refine HasResource.makeable_of unambiguous (.httpResource options uses) (by rintro target ⟨⟩) ?_
  simp [WebhookTrigger.mentions_resource, Mention.target?, gateway]

include raw_plain in
theorem makeable_method {options : WebhookOptions} (uses : .webhook options ∈ reading.triggers)
    (own : WebhookTrigger.isSet options.integration "Uri" = false →
      (spec.layout settings reading).Makeable spec.name) :
    (spec.layout settings reading).Makeable (WebhookTrigger.methodName spec.name) := by
  refine HasResource.makeable_of unambiguous (.method options uses) (by rintro target ⟨⟩) ?_
  intro mention mem target target_eq
  rcases WebhookTrigger.mem_mentions_method mem with rfl | rfl | given | ⟨unset, address_mem⟩
  · cases target_eq
    exact makeable_gateway reads unambiguous uses
  · cases target_eq
    exact makeable_httpResource reads unambiguous uses
  · rw [target?_of_trigger reads raw_plain uses given] at target_eq
    cases target_eq
  · simp only [WebhookTrigger.mentions_defaultUri, List.mem_cons, List.not_mem_nil, or_false]
      at address_mem
    rcases address_mem with rfl | rfl
    · cases target_eq
      exact makeable_pseudo reads (by decide)
    · cases target_eq
      exact own unset

include raw_plain in
theorem makeable_deployment {options : WebhookOptions} (uses : .webhook options ∈ reading.triggers)
    (own : WebhookTrigger.isSet options.integration "Uri" = false →
      (spec.layout settings reading).Makeable spec.name) :
    (spec.layout settings reading).Makeable
      (WebhookTrigger.deploymentKey spec.name settings.deploymentSuffix) := by
  have gateway := makeable_gateway reads unambiguous uses
  refine HasResource.makeable_of unambiguous (.deployment options uses) ?_ ?_
  · rintro target ⟨⟩
    exact makeable_method reads unambiguous raw_plain uses own
  · simp [WebhookTrigger.mentions_deployment, Mention.target?, gateway]

include raw_plain in
theorem makeable_apiKey {options : WebhookOptions} (uses : .webhook options ∈ reading.triggers)
    (own : WebhookTrigger.isSet options.integration "Uri" = false →
      (spec.layout settings reading).Makeable spec.name) :
    (spec.layout settings reading).Makeable (WebhookTrigger.apiKeyName spec.name) := by
  have stackName := makeable_stackName reads
  have gateway := makeable_gateway reads unambiguous uses
  refine HasResource.makeable_of unambiguous (.apiKey options uses) ?_ ?_
  · rintro target ⟨⟩
    exact makeable_deployment reads unambiguous raw_plain uses own
  · simp [WebhookTrigger.mentions_apiKey, Mention.target?, stackName, gateway]

theorem makeable_triggerTopic (uses : .topic ∈ reading.triggers)
    (own : (spec.layout settings reading).Makeable spec.name) :
    (spec.layout settings reading).Makeable (TopicTrigger.topicName spec.name) := by
  have stackName := makeable_stackName reads
  refine HasResource.makeable_of unambiguous (.triggerTopic uses) (by rintro target ⟨⟩) ?_
  simp [TopicTrigger.mentions_topic, Mention.target?, stackName, own]

theorem makeable_user (uses : .topic ∈ reading.triggers)
    (own : (spec.layout settings reading).Makeable spec.name) :
    (spec.layout settings reading).Makeable (TopicTrigger.userName spec.name) := by
  have topic := makeable_triggerTopic reads unambiguous uses own
  have region := makeable_region reads
  have account := makeable_account reads
  refine HasResource.makeable_of unambiguous (.user uses) (by rintro target ⟨⟩) ?_
  simp [TopicTrigger.mentions_user, Mention.target?, topic, region, account]

include raw_plain straight in
theorem makeable_rule {source : RuleSource} (uses : .rule source ∈ reading.triggers)
    (own : (spec.layout settings reading).Makeable spec.name) :
    (spec.layout settings reading).Makeable (RuleTrigger.ruleName spec.name source) := by
  refine HasResource.makeable_of unambiguous (.rule source uses) (by rintro target ⟨⟩) ?_
  intro mention mem target target_eq
  rw [RuleTrigger.mentions_rule, List.mem_append, List.mem_cons] at mem
  rcases mem with role_mem | rfl | given
  · exact makeable_roleArn reads unambiguous raw_plain straight mention role_mem target target_eq
  · cases target_eq
    exact own
  · rw [target?_of_trigger reads raw_plain uses given] at target_eq
    cases target_eq

include raw_plain straight in
/-- Every resource can be made, if the function can in case the resource depends on it. -/
theorem HasResource.makeable {key : String} {value : Json}
    (resource : HasResource spec settings reading key value)
    (own : key ∈ spec.dependents settings reading →
      (spec.layout settings reading).Makeable spec.name) :
    (spec.layout settings reading).Makeable key := by
  have alarmTopic := makeable_alarmTopic reads unambiguous straight
  have stackName := makeable_stackName reads
  have region := makeable_region reads
  have account := makeable_account reads
  cases resource with
  | alarm kind mem =>
      have lambda := own <| by
        simp only [List.mem_cons, List.not_mem_nil, or_false] at mem
        rcases mem with rfl | rfl <;> simp [dependents]
      refine HasResource.makeable_of unambiguous (.alarm kind mem) (by rintro target ⟨⟩) ?_
      simp [Alarms.mentions_alarm, Mention.target?, alarmTopic, lambda]
  | alarmTopic => exact alarmTopic
  | function => exact own (by simp [dependents])
  | defaultRole => exact makeable_defaultRole reads unambiguous raw_plain straight
  | dispatchRole => exact makeable_dispatchRole reads unambiguous raw_plain straight
  | destination topic mem => exact absurd (.destination topic mem) straight
  | topicPermission uses =>
      have lambda := own (mem_dependents_of_trigger uses (by simp [Trigger.dependents]))
      have topic := makeable_triggerTopic reads unambiguous uses lambda
      refine HasResource.makeable_of unambiguous (.topicPermission uses) (by rintro target ⟨⟩) ?_
      simp [mentions_invocationPermission, Mention.target?, lambda, topic]
  | user uses =>
      have lambda := own (mem_dependents_of_trigger uses (by simp [Trigger.dependents]))
      exact makeable_user reads unambiguous uses lambda
  | triggerTopic uses =>
      have lambda := own (mem_dependents_of_trigger uses (by simp [Trigger.dependents]))
      exact makeable_triggerTopic reads unambiguous uses lambda
  | accessKey uses =>
      have lambda := own (mem_dependents_of_trigger uses (by simp [Trigger.dependents]))
      have user := makeable_user reads unambiguous uses lambda
      refine HasResource.makeable_of unambiguous (.accessKey uses) (by rintro target ⟨⟩) ?_
      simp [TopicTrigger.mentions_accessKey, Mention.target?, user]
  | rulePermission source uses =>
      have lambda := own (mem_dependents_of_trigger uses (by simp [Trigger.dependents]))
      have rule := makeable_rule reads unambiguous raw_plain straight uses lambda
      refine HasResource.makeable_of unambiguous (.rulePermission source uses)
        (by rintro target ⟨⟩) ?_
      simp [mentions_invocationPermission, Mention.target?, lambda, rule]
  | rule source uses =>
      have lambda := own (mem_dependents_of_trigger uses (by simp [Trigger.dependents]))
      exact makeable_rule reads unambiguous raw_plain straight uses lambda
  | httpResource options uses => exact makeable_httpResource reads unambiguous uses
  | method options uses =>
      exact makeable_method reads unambiguous raw_plain uses fun unset =>
        own (mem_dependents_of_trigger uses (by simp [Trigger.dependents, unset]))
  | webhookPermission options uses =>
      have lambda := own (mem_dependents_of_trigger uses (by simp [Trigger.dependents]))
      have gateway := makeable_gateway reads unambiguous uses
      refine HasResource.makeable_of unambiguous (.webhookPermission options uses)
        (by rintro target ⟨⟩) ?_
      simp [mentions_invocationPermission, WebhookTrigger.mentions_requests, Mention.target?,
        lambda, region, account, gateway]
  | gateway options uses => exact makeable_gateway reads unambiguous uses
  | apiKey options uses =>
      exact makeable_apiKey reads unambiguous raw_plain uses fun unset =>
        own (mem_dependents_of_trigger uses (by simp [Trigger.dependents, unset]))
  | deployment options uses =>
      exact makeable_deployment reads unambiguous raw_plain uses fun unset =>
        own (mem_dependents_of_trigger uses (by simp [Trigger.dependents, unset]))
  | webhookAlarm options uses kind mem =>
      refine HasResource.makeable_of unambiguous (.webhookAlarm options uses kind mem)
        (by rintro target ⟨⟩) ?_
      simp [WebhookTrigger.mentions_alarm, Mention.target?, alarmTopic, stackName]

include raw_plain straight in
/-- What a parameter is named like can be made, since it does not need the function. -/
theorem makeable_parameter {name : String}
    (mem : name ∈ Entries.keys (spec.parameterEntries reading)) :
    (spec.layout settings reading).Makeable name := by
  by_cases resource_mem : name ∈ (spec.layout settings reading).resources.keys
  · obtain ⟨value, entry_mem⟩ := Entries.mem_keys.mp (OrderedMap.mem_keys_ofList.mp resource_mem)
    have resource := mem_resourceEntries_iff.mp entry_mem
    exact resource.makeable reads unambiguous raw_plain straight fun dependent =>
      absurd (.parameter name mem dependent) straight
  · exact Template.makeable_of_not_mem resource_mem

include raw_plain straight in
theorem makeable_function : (spec.layout settings reading).Makeable spec.name := by
  have parameter {name : String} (mem : name ∈ Entries.keys (spec.parameterEntries reading)) :=
    makeable_parameter reads unambiguous raw_plain straight mem
  refine HasResource.makeable_of unambiguous .function (by rintro target ⟨⟩) ?_
  intro mention mem target target_eq
  simp only [mentions_functionResource, List.mem_append, List.mem_cons, List.not_mem_nil,
    or_false] at mem
  rcases mem with (((rfl | rfl | rfl) | role_mem) | rfl) | variable_mem
  · cases target_eq
    exact parameter (by simp [parameterEntries, Parameters.provenance])
  · cases target_eq
    exact parameter (by simp [parameterEntries, Parameters.provenance])
  · cases target_eq
    exact parameter (by simp [parameterEntries, Parameters.provenance])
  · exact makeable_roleArn reads unambiguous raw_plain straight mention role_mem target target_eq
  · cases target_eq
    exact makeable_pseudo reads (by decide)
  · obtain ⟨⟨key, value⟩, member_mem, mem⟩ := List.mem_flatMap.mp variable_mem
    rcases variableEntries_cases (OrderedMap.mem_of_mem_ofList member_mem) with
      ⟨rfl, key_mem⟩ | stack_mem | ⟨rfl, key_mem⟩
    · rw [Json.mentions_reference, List.mem_singleton] at mem
      subst mem
      cases target_eq
      rcases key_mem with rfl | topic_mem
      · exact makeable_alarmTopic reads unambiguous straight
      · simp [Reading.topicNames, topics_eq_nil straight] at topic_mem
    · obtain ⟨name, pseudo, rfl⟩ := stackVariable_cases stack_mem
      rw [Json.mentions_reference, List.mem_singleton] at mem
      subst mem
      cases target_eq
      exact makeable_pseudo reads pseudo
    · rw [Json.mentions_reference, List.mem_singleton] at mem
      subst mem
      cases target_eq
      exact parameter key_mem

include raw_plain straight in
theorem acyclic_of_not_circular : (spec.layout settings reading).Acyclic := by
  refine Template.acyclic_of_makeable fun key mem => ?_
  obtain ⟨value, entry_mem⟩ := Entries.mem_keys.mp (OrderedMap.mem_keys_ofList.mp mem)
  have resource := mem_resourceEntries_iff.mp entry_mem
  exact resource.makeable reads unambiguous raw_plain straight fun _ =>
    makeable_function reads unambiguous raw_plain straight

end Makeable

theorem sample_targets : ∀ raw ∈ sample.rawJson, raw.targets = [] := fun raw mem => by
  rw [Json.targets, sample_plain raw mem, List.filterMap_nil]

/-- A spec without its destinations. -/
def withoutDestinations (spec : FunctionSpec) : FunctionSpec :=
  { spec with destinations := none }

theorem Reads.withoutDestinations (reads : spec.Reads settings reading) :
    spec.withoutDestinations.Reads settings { reading with topics := [] } where
  name := reads.name
  triggers := reads.triggers
  topics := rfl
  parameters := reads.parameters
  runtime := reads.runtime
  handler := reads.handler
  statements := reads.statements

theorem Collides.of_withoutDestinations
    (collides : spec.withoutDestinations.Collides { reading with topics := [] }) :
    spec.Collides reading := by
  cases collides with
  | shared mem => exact .shared mem
  | alarmTopic name_eq uses_topic => exact .alarmTopic name_eq uses_topic
  | parameter name mem reserved => exact .parameter name mem reserved
  | functionTopic name mem | alarmDestination name mem | email name mem => cases mem
  | triggerTopic mem => cases mem

/-- A document, whose raw JSON needs nothing, is free of circles and can be made in some order just
when it is circular in none of the listed ways. -/
theorem acyclic_iff_not_circular {template : Template} (reads : spec.Reads settings reading)
    (embed_ok : spec.embed settings = .ok template)
    (raw_plain : ∀ raw ∈ spec.rawJson, raw.targets = []) :
    (template.Acyclic ↔ ¬spec.Circular settings reading) ∧
      (template.Deployable ↔ ¬spec.Circular settings reading) := by
  obtain ⟨unambiguous, rfl⟩ := eq_layout_of_embed reads embed_ok
  have acyclic_iff : (spec.layout settings reading).Acyclic ↔ ¬spec.Circular settings reading :=
    ⟨fun acyclic circular => circular.not_acyclic unambiguous acyclic,
      acyclic_of_not_circular reads unambiguous raw_plain⟩
  exact ⟨acyclic_iff, Template.deployable_iff_acyclic.trans acyclic_iff⟩

theorem sample_acyclic_withoutDestinations :
    ∃ template, sample.withoutDestinations.embed {} = .ok template ∧ template.Acyclic ∧
      template.Deployable := by
  have reads := reads_sample.withoutDestinations
  have unambiguous := (unambiguous_iff_not_collides reads).mpr fun collides =>
    sample_distinct collides.of_withoutDestinations
  have embed_ok : sample.withoutDestinations.embed {} =
      .ok (sample.withoutDestinations.layout {} { sampleReading with topics := [] }) := by
    rw [embed_of_unambiguous reads unambiguous]
    exact if_neg (by decide)
  have straight : ¬sample.withoutDestinations.Circular {} { sampleReading with topics := [] } := by
    intro circular
    cases circular with
    | destination topic mem => cases mem
    | parameter name mem dependent =>
        revert name
        decide
  have acyclic_iff := acyclic_iff_not_circular reads embed_ok sample_targets
  exact ⟨_, embed_ok, acyclic_iff.1.mpr straight, acyclic_iff.2.mpr straight⟩

/-- The sample, which has a destination, is compiled to a circular document. -/
theorem sample_not_acyclic : ∃ template, sample.embed {} = .ok template ∧
    (∀ raw ∈ sample.rawJson, raw.targets = []) ∧ ¬template.Acyclic := by
  have circular : sample.Circular {} sampleReading :=
    .destination { name := "operators" } List.mem_cons_self
  exact ⟨_, embed_sample, sample_targets, circular.not_acyclic unambiguous_sample⟩

end FunctionSpec
end LambdaStack

import LambdaStack.Proofs.Stack.Layout

/-!
# The resources of a document

The resources of a layout, case by case, with the triggers and destinations from which they come.
-/

namespace LambdaStack

namespace FunctionSpec

/-- A resource of a document, and the identifier that it has there. -/
inductive HasResource (spec : FunctionSpec) (settings : Settings) (reading : Reading) :
    String → Json → Prop where
  | alarm (kind : Alarms.Kind) (mem : kind ∈ [Alarms.errors, Alarms.noInvocations]) :
    HasResource spec settings reading (Alarms.alarmName spec.name kind)
      (Alarms.alarm spec settings kind)
  | alarmTopic : HasResource spec settings reading Names.alarmTopic Alarms.topic
  | function : HasResource spec settings reading spec.name (spec.functionResource reading)
  | defaultRole : HasResource spec settings reading Names.defaultRole (spec.defaultRole reading)
  | dispatchRole : HasResource spec settings reading Names.dispatchRole (spec.dispatchRole reading)
  | destination (topic : TopicDestination) (mem : topic ∈ reading.topics) :
    HasResource spec settings reading topic.topicName topic.topic
  | topicPermission (uses : .topic ∈ reading.triggers) :
    HasResource spec settings reading (TopicTrigger.permissionName spec.name)
      (invocationPermission spec.name "sns.amazonaws.com"
        (Expression.reference (TopicTrigger.topicName spec.name)))
  | user (uses : .topic ∈ reading.triggers) :
    HasResource spec settings reading (TopicTrigger.userName spec.name)
      (TopicTrigger.user spec.name)
  | triggerTopic (uses : .topic ∈ reading.triggers) :
    HasResource spec settings reading (TopicTrigger.topicName spec.name)
      (TopicTrigger.topic spec.name)
  | accessKey (uses : .topic ∈ reading.triggers) :
    HasResource spec settings reading (TopicTrigger.accessKeyName spec.name)
      (TopicTrigger.accessKey spec.name)
  | rulePermission (source : RuleSource) (uses : .rule source ∈ reading.triggers) :
    HasResource spec settings reading (RuleTrigger.permissionName spec.name source)
      (invocationPermission spec.name "events.amazonaws.com"
        (Expression.attributeOf (RuleTrigger.ruleName spec.name source) "Arn"))
  | rule (source : RuleSource) (uses : .rule source ∈ reading.triggers) :
    HasResource spec settings reading (RuleTrigger.ruleName spec.name source)
      (RuleTrigger.rule spec.name source)
  | httpResource (options : WebhookOptions) (uses : .webhook options ∈ reading.triggers) :
    HasResource spec settings reading (WebhookTrigger.resourceName spec.name)
      (WebhookTrigger.resource spec.name)
  | method (options : WebhookOptions) (uses : .webhook options ∈ reading.triggers) :
    HasResource spec settings reading (WebhookTrigger.methodName spec.name)
      (WebhookTrigger.method spec.name options)
  | webhookPermission (options : WebhookOptions) (uses : .webhook options ∈ reading.triggers) :
    HasResource spec settings reading (WebhookTrigger.permissionName spec.name)
      (invocationPermission spec.name "apigateway.amazonaws.com"
        (WebhookTrigger.requests spec.name))
  | gateway (options : WebhookOptions) (uses : .webhook options ∈ reading.triggers) :
    HasResource spec settings reading (WebhookTrigger.gatewayName spec.name)
      WebhookTrigger.gateway
  | apiKey (options : WebhookOptions) (uses : .webhook options ∈ reading.triggers) :
    HasResource spec settings reading (WebhookTrigger.apiKeyName spec.name)
      (WebhookTrigger.apiKey spec.name
        (WebhookTrigger.deploymentKey spec.name settings.deploymentSuffix))
  | deployment (options : WebhookOptions) (uses : .webhook options ∈ reading.triggers) :
    HasResource spec settings reading
      (WebhookTrigger.deploymentKey spec.name settings.deploymentSuffix)
      (WebhookTrigger.deployment spec.name)
  | webhookAlarm (options : WebhookOptions) (uses : .webhook options ∈ reading.triggers)
    (kind : WebhookTrigger.AlarmKind) (mem : kind ∈ WebhookTrigger.alarmKinds) :
    HasResource spec settings reading (WebhookTrigger.alarmName spec.name kind)
      (WebhookTrigger.alarm settings kind)

theorem hasResource_of_mem_trigger {spec : FunctionSpec} {settings : Settings} {reading : Reading}
    {trigger : Trigger} (uses : trigger ∈ reading.triggers) {key : String} {value : Json}
    (mem : (key, value) ∈ trigger.resources spec.name settings) :
    HasResource spec settings reading key value := by
  rcases trigger with _ | source | options
  · simp only [Trigger.resources, TopicTrigger.resources, List.mem_cons, List.not_mem_nil,
      or_false, Prod.mk.injEq] at mem
    rcases mem with ⟨rfl, rfl⟩ | ⟨rfl, rfl⟩ | ⟨rfl, rfl⟩ | ⟨rfl, rfl⟩
    · exact .topicPermission uses
    · exact .user uses
    · exact .triggerTopic uses
    · exact .accessKey uses
  · simp only [Trigger.resources, RuleTrigger.resources, List.mem_cons, List.not_mem_nil,
      or_false, Prod.mk.injEq] at mem
    rcases mem with ⟨rfl, rfl⟩ | ⟨rfl, rfl⟩
    · exact .rulePermission source uses
    · exact .rule source uses
  · simp only [Trigger.resources, WebhookTrigger.resources, List.mem_append, List.mem_cons,
      List.not_mem_nil, or_false, List.mem_map, Prod.mk.injEq] at mem
    rcases mem with (⟨rfl, rfl⟩ | ⟨rfl, rfl⟩ | ⟨rfl, rfl⟩ | ⟨rfl, rfl⟩ | ⟨rfl, rfl⟩ | ⟨rfl, rfl⟩) |
      ⟨kind, kind_mem, rfl, rfl⟩
    · exact .httpResource options uses
    · exact .method options uses
    · exact .webhookPermission options uses
    · exact .gateway options uses
    · exact .apiKey options uses
    · exact .deployment options uses
    · exact .webhookAlarm options uses kind kind_mem

theorem hasResource_of_mem {spec : FunctionSpec} {settings : Settings} {reading : Reading}
    {key : String} {value : Json} (mem : (key, value) ∈ spec.resourceEntries settings reading) :
    HasResource spec settings reading key value := by
  simp only [resourceEntries, Alarms.resources, List.mem_append, List.mem_cons, List.not_mem_nil,
    or_false, List.mem_flatMap, List.mem_map, Prod.mk.injEq] at mem
  rcases mem with ((((⟨rfl, rfl⟩ | ⟨rfl, rfl⟩ | ⟨rfl, rfl⟩) | ⟨rfl, rfl⟩ | ⟨rfl, rfl⟩) |
    ⟨trigger, uses, trigger_mem⟩) | ⟨topic, topic_mem, rfl, rfl⟩) | ⟨rfl, rfl⟩
  · exact .alarm _ (by simp)
  · exact .alarm _ (by simp)
  · exact .alarmTopic
  · exact .function
  · exact .defaultRole
  · exact hasResource_of_mem_trigger uses trigger_mem
  · exact .destination topic topic_mem
  · exact .dispatchRole

theorem mem_of_trigger {spec : FunctionSpec} {settings : Settings} {reading : Reading}
    {trigger : Trigger} (uses : trigger ∈ reading.triggers) {entry : String × Json}
    (mem : entry ∈ trigger.resources spec.name settings) :
    entry ∈ spec.resourceEntries settings reading :=
  List.mem_append_left _ (List.mem_append_left _ (List.mem_append_right _
    (List.mem_flatMap.mpr ⟨trigger, uses, mem⟩)))

/-- The entries of the resources are just the listed cases. -/
theorem mem_resourceEntries_iff {spec : FunctionSpec} {settings : Settings} {reading : Reading}
    {key : String} {value : Json} :
    (key, value) ∈ spec.resourceEntries settings reading ↔
      HasResource spec settings reading key value := by
  refine ⟨hasResource_of_mem, fun resource => ?_⟩
  cases resource with
  | alarm kind mem =>
      simp only [List.mem_cons, List.not_mem_nil, or_false] at mem
      rcases mem with rfl | rfl <;> simp [resourceEntries, Alarms.resources]
  | alarmTopic => simp [resourceEntries, Alarms.resources]
  | function => simp [resourceEntries]
  | defaultRole => simp [resourceEntries]
  | dispatchRole => simp [resourceEntries]
  | destination topic mem =>
      exact List.mem_append_left _ (List.mem_append_right _ (List.mem_map.mpr ⟨topic, mem, rfl⟩))
  | topicPermission uses | user uses | triggerTopic uses | accessKey uses =>
      exact mem_of_trigger uses (by simp [Trigger.resources, TopicTrigger.resources])
  | rulePermission source uses | rule source uses =>
      exact mem_of_trigger uses (by simp [Trigger.resources, RuleTrigger.resources])
  | httpResource options uses | method options uses | webhookPermission options uses
  | gateway options uses | apiKey options uses | deployment options uses =>
      exact mem_of_trigger uses (by simp [Trigger.resources, WebhookTrigger.resources])
  | webhookAlarm options uses kind mem =>
      exact mem_of_trigger uses
        (List.mem_append_right _ (List.mem_map.mpr ⟨kind, mem, rfl⟩))

theorem HasResource.mem_keys {spec : FunctionSpec} {settings : Settings} {reading : Reading}
    {key : String} {value : Json} (resource : HasResource spec settings reading key value) :
    key ∈ (spec.layout settings reading).resources.keys :=
  OrderedMap.mem_keys_ofList.mpr (Entries.mem_keys_of_mem (mem_resourceEntries_iff.mpr resource))

end FunctionSpec
end LambdaStack

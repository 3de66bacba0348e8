import LambdaStack.Proofs.Document.Provenance
import LambdaStack.Proofs.Stack.Defaults

/-!
# Provenance of a document

What is in a document was put there by one of the fragments of its spec. The steps that come after
merging add the parameter and the role of dispatching, bind the variables of the function and add
policies to its role; every other entry is as its fragment made it. So what the caller writes out is
found in the document word for word.
-/

namespace LambdaStack

/-- A template holds what several fragments hold, each entry from just one of them. Only the
function has variables that its fragment did not give it, and its role more policies; besides there
may be the parameter and the role of dispatching. -/
structure Template.Keeps (template : Template) (function : String) (fragments : List Fragment) :
    Prop where
  /-- The parameters are those of the fragments. -/
  parameters : ∀ key value, key ≠ "DispatchSnsArn" →
    (template.parameters.find? key = some value ↔
      Fragment.BoundOnce fragments .parameters key value)
  /-- The outputs are those of the fragments. -/
  outputs : ∀ key value, template.outputs.find? key = some value ↔
    Fragment.BoundOnce fragments .outputs key value
  /-- The resources are those of the fragments, the function and its roles apart. -/
  resources : ∀ key value, key ∉ [function, "LambdaCfnRole", "LambdaCfnDispatchRole"] →
    (template.resources.find? key = some value ↔
      Fragment.BoundOnce fragments .resources key value)
  /-- The function differs only in its variables. -/
  function : ∃ built completed, Fragment.BoundOnce fragments .resources function built ∧
    template.resources.find? function = some completed ∧
    Json.ChangedAt (fun _ _ => True) ["Properties", "Environment", "Variables"] built completed
  /-- Its role differs only by the policies of the fragments, which follow its own. -/
  defaultRole : ∃ built completed,
    Fragment.BoundOnce fragments .resources "LambdaCfnRole" built ∧
    template.resources.find? "LambdaCfnRole" = some completed ∧
    Json.ChangedAt (Json.Extends (fragments.flatMap Fragment.policies))
      ["Properties", "Policies"] built completed

/-- A template has the parts that the caller of a spec writes out, as they are written. An option
that counts as unset is not written out. -/
structure Template.Carries (template : Template) (spec : FunctionSpec) : Prop where
  /-- The pattern of events, which is always given. -/
  eventPattern : ∀ options, ("cloudwatchEvent", options) ∈ spec.sources → ∃ pattern,
    options.member? "eventPattern" = some pattern ∧
    template.property? (spec.name ++ "CloudwatchEventRule") "EventPattern" = some pattern
  /-- The schedule expression, which is always given. -/
  expression : ∀ options, ("schedule", options) ∈ spec.sources → ∃ expression,
    options.member? "expression" = some expression ∧
    template.property? (spec.name ++ "ScheduleRule") "ScheduleExpression" = some expression
  /-- The responses of a webhook, when they are given. -/
  methodResponses : ∀ options, ("webhook", options) ∈ spec.sources →
    ∀ responses, options.truthyMember? "methodResponses" = some responses →
      template.property? (spec.name ++ "WebhookMethod") "MethodResponses" = some responses
  /-- The fields of the integration of a webhook that are set. -/
  integration : ∀ options, ("webhook", options) ∈ spec.sources →
    ∀ fields, options.truthyMember? "integration" = some (.object fields) →
      ∀ key value, (OrderedMap.ofList fields).find? key = some value → value.isTruthy →
        (template.property? (spec.name ++ "WebhookMethod") "Integration").bind
          (Json.member? key) = some value
  /-- The statements, in both execution roles. -/
  statements : ∀ statements ∈ spec.statements,
    ∀ role ∈ ["LambdaCfnRole", "LambdaCfnDispatchRole"], ∃ policies,
      template.property? role "Policies" = some (.array policies) ∧
      ∃ policy ∈ policies, policy.at? ["PolicyDocument", "Statement"] =
        some (.array (statements.map Json.ofMap))

theorem Function.changedAt_resource (spec : FunctionSpec) (runtime : Runtime) (handler : String)
    (bound : OrderedMap Json) :
    Json.ChangedAt (fun _ _ => True) ["Properties", "Environment", "Variables"]
      (resource spec runtime handler ∅) (resource spec runtime handler bound) := by
  have modified : Json.modifyAt? (fun _ => some (.ofMap bound))
      ["Properties", "Environment", "Variables"] (resource spec runtime handler ∅) =
        some (resource spec runtime handler bound) := by
    simp [Json.modifyAt?, resource, List.lookup_cons, Entries.insert]
  exact (Json.changedAt_of_modifyAt? modified).mono fun _ _ _ => trivial

theorem Completion.extends_of_addPolicies {added : List Json} {old new : Json}
    (extended : addPolicies added old = some new) : Json.Extends added old new := by
  unfold addPolicies at extended
  split at extended <;> cases extended
  exact ⟨_, rfl, rfl⟩

theorem Role.changedAt_members (triggers : List Trigger) (extra front added : List Json) :
    Json.ChangedAt (Json.Extends added) ["Properties", "Policies"]
      (.object (members triggers extra front))
      (.object (members triggers extra (front ++ added))) := by
  have modified := FunctionSpec.addPolicies_members triggers extra front added []
  rw [List.append_nil, List.append_nil] at modified
  exact (Json.changedAt_of_modifyAt? modified).mono fun _ _ => Completion.extends_of_addPolicies

namespace WebhookTrigger

theorem methodName_eq (function : String) : methodName function = function ++ "WebhookMethod" := by
  rw [methodName, webhookName, String.append_assoc]
  rfl

end WebhookTrigger

namespace FunctionSpec

variable {spec : FunctionSpec} {settings : Settings} {reading : Reading}

/-- Every event source is read as one of the triggers. -/
theorem Reads.exists_trigger (reads : spec.Reads settings reading) {kind : String} {options : Json}
    (mem : (kind, options) ∈ spec.sources) :
    ∃ trigger ∈ reading.triggers, Trigger.read kind options = .ok trigger := by
  have triggers_ok := reads.triggers
  rw [triggers_eq_mapM] at triggers_ok
  exact exists_result_of_mem_mapM triggers_ok mem

/-- The completing steps leave all resources alone but the function and its role. -/
theorem mem_mergedResources_iff {key : String} {value : Json}
    (other : key ∉ [spec.name, Names.defaultRole, Names.dispatchRole]) :
    (key, value) ∈ spec.mergedResources settings reading (spec.bareFunction reading)
        (spec.bareRole reading) ↔
      (key, value) ∈ spec.resourceEntries settings reading := by
  simp only [List.mem_cons, List.not_mem_nil, or_false, not_or] at other
  obtain ⟨not_function, not_default, not_dispatch⟩ := other
  simp [mergedResources, resourceEntries, not_function, not_default, not_dispatch]

theorem keeps_layout (reads : spec.Reads settings reading)
    (unambiguous : spec.Unambiguous settings reading) {groups : List Destination}
    (groups_eq : groups.flatMap Destination.entries = reading.topics) :
    (spec.layout settings reading).Keeps spec.name
      (spec.builtFragments settings reading groups) := by
  have front_nodup := unambiguous.nodup_frontParameters
  have compatible := (compatible_builtFragments front_nodup groups_eq reads.nodup_topicNames).mpr
    (unambiguous_iff.mp unambiguous).1
  have bound_iff (part : Section) (key : String) (value : Json) :
      Fragment.BoundOnce (spec.builtFragments settings reading groups) part key value ↔
        (key, value) ∈ spec.mergedEntries settings reading part := by
    rw [Fragment.boundOnce_iff compatible,
      gather_builtFragments front_nodup groups_eq reads.nodup_topicNames]
  have policies_eq : (spec.builtFragments settings reading groups).flatMap Fragment.policies =
      reading.topics.map (TopicDestination.policy spec.name) := by
    rw [← Fragment.policies_joined, joined_builtFragments front_nodup groups_eq
      reads.nodup_topicNames]
    rfl
  exact {
    parameters := fun key value other => by
      rw [bound_iff, OrderedMap.find?_eq_some_iff, layout,
        OrderedMap.entries_ofList unambiguous.parameters]
      change (key, value) ∈ spec.mergedParameters reading ++ _ ↔ _
      simp [mergedEntries, other, Names.dispatchTopic]
    outputs := fun key value => by
      rw [bound_iff, OrderedMap.find?_eq_some_iff, layout,
        OrderedMap.entries_ofList unambiguous.outputs]
      rfl
    resources := fun key value other => by
      rw [bound_iff, OrderedMap.find?_eq_some_iff, layout,
        OrderedMap.entries_ofList unambiguous.resources, ← mem_mergedResources_iff other]
      rfl
    function := by
      refine ⟨spec.bareFunction reading, _, (bound_iff _ _ _).mpr ?_,
        (find?_resources unambiguous).mpr .function, Function.changedAt_resource _ _ _ _⟩
      simp [mergedEntries, mergedResources]
    defaultRole := by
      rw [policies_eq]
      refine ⟨spec.bareRole reading, _, (bound_iff _ _ _).mpr ?_,
        (find?_resources unambiguous).mpr .defaultRole, Role.changedAt_members _ _ _ _⟩
      simp [mergedEntries, mergedResources, Names.defaultRole]
  }

theorem property?_rule (unambiguous : spec.Unambiguous settings reading) {source : RuleSource}
    (uses : .rule source ∈ reading.triggers) :
    (spec.layout settings reading).property? (RuleTrigger.ruleName spec.name source)
        (RuleTrigger.sourceProperty source).1 = some (RuleTrigger.sourceProperty source).2 := by
  rw [Template.property?, (find?_resources unambiguous).mpr (.rule source uses)]
  cases source <;> rfl

theorem property?_policies (unambiguous : spec.Unambiguous settings reading) {role : String}
    (mem : role ∈ [Names.defaultRole, Names.dispatchRole]) :
    ∃ basic, (spec.layout settings reading).property? role "Policies" =
      some (.array (basic :: spec.rolePolicies reading)) := by
  simp only [List.mem_cons, List.not_mem_nil, or_false] at mem
  rcases mem with rfl | rfl
  · rw [Template.property?, (find?_resources unambiguous).mpr .defaultRole]
    exact ⟨_, rfl⟩
  · rw [Template.property?, (find?_resources unambiguous).mpr .dispatchRole]
    exact ⟨_, rfl⟩

theorem member?_integration {function : String} {options : WebhookOptions} {key : String}
    {value : Json} (found : options.integration.find? key = some value) (truthy : value.isTruthy) :
    (Json.ofMap (WebhookTrigger.integration function options)).member? key = some value := by
  have set : WebhookTrigger.isSet options.integration key := by
    rw [WebhookTrigger.isSet, found]
    exact truthy
  exact (WebhookTrigger.find?_foldl_completeField_of_isSet set _).trans found

theorem carries_layout (reads : spec.Reads settings reading)
    (unambiguous : spec.Unambiguous settings reading) :
    (spec.layout settings reading).Carries spec :=
  {
    eventPattern := fun options mem => by
      obtain ⟨trigger, uses, read_ok⟩ := reads.exists_trigger mem
      obtain ⟨pattern, found, rfl⟩ := Trigger.pattern_of_read read_ok
      have property_eq := property?_rule unambiguous uses
      rw [RuleTrigger.ruleName, RuleTrigger.eventName_pattern, String.append_assoc] at property_eq
      exact ⟨pattern, found, property_eq⟩
    expression := fun options mem => by
      obtain ⟨trigger, uses, read_ok⟩ := reads.exists_trigger mem
      obtain ⟨expression, found, rfl⟩ := Trigger.schedule_of_read read_ok
      have property_eq := property?_rule unambiguous uses
      rw [RuleTrigger.ruleName, RuleTrigger.eventName_schedule, String.append_assoc] at property_eq
      exact ⟨expression, found, property_eq⟩
    methodResponses := fun options mem responses given => by
      obtain ⟨trigger, uses, read_ok⟩ := reads.exists_trigger mem
      obtain ⟨webhook, webhook_ok, rfl⟩ := map_eq_ok_iff.mp read_ok
      obtain ⟨responses_ok, -, -⟩ := Trigger.parts_of_readWebhook webhook_ok
      rw [Trigger.responses_of_given responses_ok given]
      have property_eq := (property?_method unambiguous uses).1
      rwa [WebhookTrigger.methodName_eq] at property_eq
    integration := fun options mem fields given key value found truthy => by
      obtain ⟨trigger, uses, read_ok⟩ := reads.exists_trigger mem
      obtain ⟨webhook, webhook_ok, rfl⟩ := map_eq_ok_iff.mp read_ok
      obtain ⟨-, integration_ok, -⟩ := Trigger.parts_of_readWebhook webhook_ok
      rw [← Trigger.integration_of_given integration_ok given] at found
      have property_eq := (property?_method unambiguous uses).2
      rw [WebhookTrigger.methodName_eq] at property_eq
      rw [property_eq]
      exact member?_integration found truthy
    statements := fun statements given role mem => by
      obtain ⟨basic, policies_eq⟩ := property?_policies unambiguous mem
      have policy_mem : Role.policy spec.name (statements.map Json.ofMap) ∈
          spec.statementPolicies :=
        List.mem_map_of_mem (Option.mem_toList.mpr given)
      exact ⟨_, policies_eq, _, List.mem_cons_of_mem _ (List.mem_append_left _ policy_mem), rfl⟩
  }

/-- Every entry of a document comes from just one of the fragments of its spec and is as that
fragment made it, but for what the completing steps are meant to add; and what the caller writes out
is carried over word for word. -/
theorem provenance_of_embed {template : Template} (embed_ok : spec.embed settings = .ok template) :
    ∃ triggers groups fragments, spec.triggers = .ok triggers ∧
      spec.readDestinations = .ok groups ∧
      spec.fragments settings triggers groups = .ok fragments ∧
      template.Keeps spec.name fragments ∧ template.Carries spec := by
  obtain ⟨reading, reads, unambiguous, rfl⟩ := layout_of_embed embed_ok
  obtain ⟨groups, groups_ok, groups_eq⟩ := reads.groups
  exact ⟨reading.triggers, groups, _, reads.triggers, groups_ok,
    fragments_of_reads reads unambiguous.nodup_frontParameters groups,
    keeps_layout reads unambiguous groups_eq, carries_layout reads unambiguous⟩

theorem sample_provenance : ∃ template triggers groups fragments,
    sample.embed {} = .ok template ∧ sample.triggers = .ok triggers ∧
    sample.readDestinations = .ok groups ∧ sample.fragments {} triggers groups = .ok fragments ∧
    template.Keeps "report" fragments ∧ template.Carries sample ∧
    template.property? "reportScheduleRule" "ScheduleExpression" =
      some (.string "rate(1 hour)") := by
  obtain ⟨triggers, groups, fragments, triggers_ok, groups_ok, fragments_ok, keeps, carries⟩ :=
    provenance_of_embed embed_sample
  refine ⟨_, triggers, groups, fragments, embed_sample, triggers_ok, groups_ok, fragments_ok,
    keeps, carries, ?_⟩
  obtain ⟨expression, given, found⟩ := carries.expression _ List.mem_cons_self
  cases given
  exact found

end FunctionSpec
end LambdaStack

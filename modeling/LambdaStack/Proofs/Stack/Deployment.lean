import LambdaStack.Proofs.Document.Provenance
import LambdaStack.Proofs.Stack.Precedence
import LambdaStack.Proofs.Stack.Roles
import Mathlib.Data.Set.List

/-!
# Deployments with a suffix

The suffix of the settings is the only thing by which two documents of one spec can differ. It goes
into the name of the deployment of a webhook and into the key, which waits for that deployment. No
other identifier can be equal to the name of a deployment, whatever its suffix is; so the suffix
decides neither whether a spec is refused nor for what.
-/

namespace LambdaStack

open Identifier

namespace DeploymentSuffix

theorem exists_digit {c : Char} (drawn : '0' ≤ c ∧ c ≤ '9' ∨ 'a' ≤ c ∧ c ≤ 'z') :
    ∃ digit : Fin 36, (if digit.val < 10 then Char.ofNat (digit.val + '0'.toNat)
      else Char.ofNat (digit.val - 10 + 'a'.toNat)) = c := by
  rcases drawn with digit | letter
  · have bounds : 48 ≤ c.toNat ∧ c.toNat ≤ 57 := digit
    refine ⟨⟨c.toNat - 48, by omega⟩, ?_⟩
    have low : c.toNat - 48 < 10 := by omega
    have value_eq : c.toNat - 48 + '0'.toNat = c.toNat := Nat.sub_add_cancel bounds.1
    rw [if_pos low, value_eq, Char.ofNat_toNat]
  · have bounds : 97 ≤ c.toNat ∧ c.toNat ≤ 122 := letter
    refine ⟨⟨c.toNat - 97 + 10, by omega⟩, ?_⟩
    have high : ¬c.toNat - 97 + 10 < 10 := by omega
    have value_eq : c.toNat - 97 + 10 - 10 + 'a'.toNat = c.toNat := by
      rw [Nat.add_sub_cancel]
      exact Nat.sub_add_cancel bounds.1
    rw [if_neg high, value_eq, Char.ofNat_toNat]

/-- Every ten digits and small letters are the text of a suffix. -/
theorem exists_text {text : String} (length_eq : text.length = 10)
    (drawn : ∀ c ∈ text.toList, '0' ≤ c ∧ c ≤ '9' ∨ 'a' ≤ c ∧ c ≤ 'z') :
    ∃ suffix : DeploymentSuffix, suffix.text = text := by
  have in_range : text.toList ∈ Set.range (List.map fun digit : Fin 36 =>
      if digit.val < 10 then Char.ofNat (digit.val + '0'.toNat)
      else Char.ofNat (digit.val - 10 + 'a'.toNat)) := by
    rw [Set.range_list_map]
    exact fun c mem => exists_digit (drawn c mem)
  obtain ⟨digits, digits_eq⟩ := in_range
  have digits_length : digits.toArray.size = 10 := by
    rw [List.size_toArray, ← length_eq, ← String.length_toList, ← digits_eq, List.length_map]
  refine ⟨⟨⟨digits.toArray, digits_length⟩⟩, ?_⟩
  rw [DeploymentSuffix.text, ← String.ofList_toList (s := text), ← digits_eq]
  rfl

end DeploymentSuffix

namespace WebhookTrigger

theorem deploymentKey_eq (function : String) (deployment : Option DeploymentSuffix) :
    deploymentKey function deployment = function ++ ("Webhook" ++ deploymentName deployment) :=
  String.append_assoc

/-- No identifier of a function that goes on otherwise is the name of a deployment. -/
theorem append_ne_deploymentKey (function : String) (deployment : Option DeploymentSuffix)
    {suffix : String} (other : suffix.toList.take 11 ≠ "WebhookApiD".toList) :
    function ++ suffix ≠ deploymentKey function deployment := by
  rw [deploymentKey_eq]
  intro equal
  rw [String.append_right_inj] at equal
  subst equal
  exact other (take_deploymentName deployment)

theorem ne_deploymentKey (function : String) (deployment : Option DeploymentSuffix) :
    function ≠ deploymentKey function deployment := by
  have apart : "".toList.take 11 ≠ "WebhookApiD".toList := by decide
  have differs := append_ne_deploymentKey function deployment apart
  rwa [String.append_empty] at differs

/-- No identifier that is shared or named after a destination is the name of a deployment. -/
theorem shared_ne_deploymentKey (function : String) (deployment : Option DeploymentSuffix)
    {key : String} (shared : ending key ∈ sharedEndings) :
    key ≠ deploymentKey function deployment :=
  ((distinctive_deploymentName deployment).append_ne (webhookName function) shared).symm

theorem apiKeyName_eq (function : String) : apiKeyName function = function ++ "WebhookApiKey" := by
  rw [apiKeyName, webhookName, String.append_assoc]
  rfl

theorem deploymentKey_none (function : String) :
    deploymentKey function none = function ++ "WebhookApiDeployment" := by
  rw [deploymentKey_eq]
  rfl

theorem deploymentKey_some (function : String) (suffix : DeploymentSuffix) :
    deploymentKey function (some suffix) = function ++ "WebhookApiDeployment" ++ suffix.text := by
  have start_eq : "Webhook" ++ "ApiDeployment" = "WebhookApiDeployment" := rfl
  rw [deploymentKey_eq, String.append_assoc, ← start_eq, String.append_assoc]
  rfl

theorem changedAt_apiKey (function left right : String) :
    Json.ChangedAt (fun before after => before = .string left ∧ after = .string right)
      ["DependsOn"] (apiKey function left) (apiKey function right) :=
  .member [("Type", .string "AWS::ApiGateway::ApiKey")] [_] (by simp) (.here ⟨rfl, rfl⟩)

end WebhookTrigger

/-- A template differs from another only in that the deployment of a webhook has a suffix in its
name, under which the key waits for it. -/
structure Template.Redeploys (redeployed plain : Template) (function suffix : String) : Prop where
  /-- Only the resources differ. -/
  sections : redeployed = { plain with resources := redeployed.resources }
  /-- Of these, the deployment has another name in the same place, and the key depends on that. -/
  resources : ∃ front back deployment before after,
    plain.resources.entries = front ++
      [(function ++ "WebhookApiKey", before),
        (function ++ "WebhookApiDeployment", deployment)] ++ back ∧
    redeployed.resources.entries = front ++
      [(function ++ "WebhookApiKey", after),
        (function ++ "WebhookApiDeployment" ++ suffix, deployment)] ++ back ∧
    Json.ChangedAt
      (fun old new => old = .string (function ++ "WebhookApiDeployment") ∧
        new = .string (function ++ "WebhookApiDeployment" ++ suffix))
      ["DependsOn"] before after

open WebhookTrigger

namespace FunctionSpec

/-- Only a webhook has resources that depend on the name of deployments. -/
theorem sourceResources_of_ne {kind : String} (other : kind ≠ "webhook") (left right : String) :
    sourceResources left kind = sourceResources right kind := by
  unfold sourceResources
  split
  · rfl
  · rfl
  · rfl
  · exact absurd rfl other
  · rfl

theorem take_of_mem_sourceResources {deployment kind suffix : String} (other : kind ≠ "webhook")
    (mem : suffix ∈ sourceResources deployment kind) :
    suffix.toList.take 11 ≠ "WebhookApiD".toList := by
  have apart : ∀ kind ∈ ["sns", "cloudwatchEvent", "schedule", "webhook"], kind ≠ "webhook" →
      ∀ suffix ∈ sourceResources "" kind, suffix.toList.take 11 ≠ "WebhookApiD".toList := by
    decide
  rw [sourceResources_of_ne other deployment ""] at mem
  exact apart kind (kind_of_mem_sourceResources mem) other suffix mem

variable {spec : FunctionSpec} {settings : Settings}

theorem eq_webhook_of_mem_sourceKeys {deployment : Option DeploymentSuffix}
    {source : String × Json} (mem : deploymentKey spec.name deployment ∈
      spec.sourceKeys (deploymentName deployment) source .resources) : source.1 = "webhook" := by
  obtain ⟨suffix, suffix_mem, equal⟩ := List.mem_map.mp mem
  by_contra other
  exact append_ne_deploymentKey spec.name deployment
    (take_of_mem_sourceResources other suffix_mem) equal

theorem filter_ownKeys (spec : FunctionSpec) (deployment : Option DeploymentSuffix)
    {suffixes : List String}
    (other : ∀ suffix ∈ suffixes, suffix.toList.take 11 ≠ "WebhookApiD".toList) :
    (suffixes.map (spec.name ++ ·)).filter (· ≠ deploymentKey spec.name deployment) =
      suffixes.map (spec.name ++ ·) := by
  refine List.filter_eq_self.mpr fun key mem => decide_eq_true ?_
  obtain ⟨suffix, suffix_mem, rfl⟩ := List.mem_map.mp mem
  exact append_ne_deploymentKey spec.name deployment (other suffix suffix_mem)

theorem filter_deploymentKey (spec : FunctionSpec) (deployment : Option DeploymentSuffix)
    {front back : List String}
    (front_other : ∀ suffix ∈ front, suffix.toList.take 11 ≠ "WebhookApiD".toList)
    (back_other : ∀ suffix ∈ back, suffix.toList.take 11 ≠ "WebhookApiD".toList) :
    ((front ++ ("Webhook" ++ deploymentName deployment) :: back).map (spec.name ++ ·)).filter
        (· ≠ deploymentKey spec.name deployment) = (front ++ back).map (spec.name ++ ·) := by
  rw [List.map_append, List.map_cons, ← deploymentKey_eq, List.filter_append,
    List.filter_cons_of_neg (by simp), spec.filter_ownKeys deployment front_other,
    spec.filter_ownKeys deployment back_other, List.map_append]

/-- Without the name of its deployment an event source has the same keys under every suffix. -/
theorem without_sourceKeys (left right : Option DeploymentSuffix) (source : String × Json) :
    Fragment.without .resources (deploymentKey spec.name left)
        (spec.sourceKeys (deploymentName left) source) =
      Fragment.without .resources (deploymentKey spec.name right)
        (spec.sourceKeys (deploymentName right) source) := by
  obtain ⟨kind, options⟩ := source
  by_cases webhook : kind = "webhook"
  · subst webhook
    have front_other : ∀ suffix ∈ ["WebhookResource", "WebhookMethod", "WebhookPermission",
        "WebhookApiGateway", "WebhookApiKey"],
        suffix.toList.take 11 ≠ "WebhookApiD".toList := by decide
    have back_other : ∀ suffix ∈ ["WebhookApiLatencyAlarm", "WebhookApi4xxAlarm",
        "WebhookApiCountAlarm"], suffix.toList.take 11 ≠ "WebhookApiD".toList := by decide
    funext part
    cases part with
    | resources =>
        exact (spec.filter_deploymentKey left front_other back_other).trans
          (spec.filter_deploymentKey right front_other back_other).symm
    | metadata | parameters | mappings | conditions | outputs | environment => rfl
  · rw [Fragment.without_of_not_mem fun mem => webhook (eq_webhook_of_mem_sourceKeys mem),
      Fragment.without_of_not_mem fun mem => webhook (eq_webhook_of_mem_sourceKeys mem)]
    funext part
    cases part with
    | resources => exact congrArg (List.map _) (sourceResources_of_ne webhook _ _)
    | metadata | parameters | mappings | conditions | outputs | environment => rfl

theorem deploymentKey_not_mem_fixed (deployment : Option DeploymentSuffix) :
    ∀ keys ∈ [spec.parameterKeys, spec.alarmKeys, resourceKeys spec.name,
      resourceKeys "LambdaCfnRole"], deploymentKey spec.name deployment ∉ keys .resources := by
  have errors_apart : "AlarmErrors".toList.take 11 ≠ "WebhookApiD".toList := by decide
  have missing_apart : "AlarmNoInvocations".toList.take 11 ≠ "WebhookApiD".toList := by decide
  have topic_shared : ending "ServiceAlarmSNSTopic" ∈ sharedEndings := by decide
  have role_shared : ending "LambdaCfnRole" ∈ sharedEndings := by decide
  intro keys keys_mem mem
  simp only [List.mem_cons, List.not_mem_nil, or_false] at keys_mem
  rcases keys_mem with rfl | rfl | rfl | rfl
  · cases mem
  · simp only [alarmKeys, List.mem_cons, List.not_mem_nil, or_false] at mem
    rcases mem with equal | equal | equal
    · exact append_ne_deploymentKey spec.name deployment errors_apart equal.symm
    · exact append_ne_deploymentKey spec.name deployment missing_apart equal.symm
    · exact shared_ne_deploymentKey spec.name deployment topic_shared equal.symm
  · exact ne_deploymentKey spec.name deployment (List.mem_singleton.mp mem).symm
  · exact shared_ne_deploymentKey spec.name deployment role_shared (List.mem_singleton.mp mem).symm

theorem deploymentKey_not_mem_destination (deployment : Option DeploymentSuffix) :
    ∀ keys ∈ (spec.destinations.getD ∅).entries.map destinationKeys,
      deploymentKey spec.name deployment ∉ keys .resources := by
  intro keys keys_mem mem
  obtain ⟨destination, -, rfl⟩ := List.mem_map.mp keys_mem
  obtain ⟨name, -, equal⟩ := List.mem_map.mp mem
  have shared : ending (name ++ "Topic") ∈ sharedEndings := by
    rw [ending_append name (by decide)]
    decide
  exact shared_ne_deploymentKey spec.name deployment shared equal

/-- No two fragments have the name of the deployment. -/
theorem deploymentKey_once (spec : FunctionSpec) (deployment : Option DeploymentSuffix) :
    (spec.fragmentKeys (deploymentName deployment)).Pairwise fun left right =>
      deploymentKey spec.name deployment ∈ left .resources →
        deploymentKey spec.name deployment ∉ right .resources := by
  have sources_once : (spec.sources.map (spec.sourceKeys (deploymentName deployment))).Pairwise
      fun left right => deploymentKey spec.name deployment ∈ left .resources →
        deploymentKey spec.name deployment ∉ right .resources := by
    refine List.pairwise_map.mpr ((List.pairwise_map.mp spec.nodup_keys_sources).imp ?_)
    intro left right differ left_mem right_mem
    exact differ ((eq_webhook_of_mem_sourceKeys left_mem).trans
      (eq_webhook_of_mem_sourceKeys right_mem).symm)
  have fixed_absent := spec.deploymentKey_not_mem_fixed deployment
  have destination_absent := spec.deploymentKey_not_mem_destination deployment
  rw [fragmentKeys, List.pairwise_append, List.pairwise_append]
  refine ⟨⟨?_, sources_once, fun left left_mem _ _ bound => ?_⟩, ?_,
    fun _ _ right right_mem _ => ?_⟩
  · exact List.pairwise_of_forall_mem_list fun left left_mem _ _ bound =>
      absurd bound (fixed_absent left left_mem)
  · exact absurd bound (fixed_absent left left_mem)
  · exact List.pairwise_of_forall_mem_list fun left left_mem _ _ bound =>
      absurd bound (destination_absent left left_mem)
  · exact destination_absent right right_mem

/-- Without the name of the deployment the fragments have the same keys under every suffix. -/
theorem without_fragmentKeys (spec : FunctionSpec) (left right : Option DeploymentSuffix) :
    (spec.fragmentKeys (deploymentName left)).map
        (Fragment.without .resources (deploymentKey spec.name left)) =
      (spec.fragmentKeys (deploymentName right)).map
        (Fragment.without .resources (deploymentKey spec.name right)) := by
  have unchanged {fragments : List (Section → List String)}
      (absent : ∀ deployment, ∀ keys ∈ fragments,
        deploymentKey spec.name deployment ∉ keys .resources) :
      fragments.map (Fragment.without .resources (deploymentKey spec.name left)) =
        fragments.map (Fragment.without .resources (deploymentKey spec.name right)) :=
    List.map_congr_left fun keys mem => by
      rw [Fragment.without_of_not_mem (absent left keys mem),
        Fragment.without_of_not_mem (absent right keys mem)]
  have sources_eq : (spec.sources.map (spec.sourceKeys (deploymentName left))).map
        (Fragment.without .resources (deploymentKey spec.name left)) =
      (spec.sources.map (spec.sourceKeys (deploymentName right))).map
        (Fragment.without .resources (deploymentKey spec.name right)) := by
    rw [List.map_map, List.map_map]
    exact List.map_congr_left fun source _ => without_sourceKeys left right source
  rw [fragmentKeys, fragmentKeys, List.map_append, List.map_append, List.map_append,
    List.map_append, unchanged deploymentKey_not_mem_fixed, sources_eq,
    unchanged deploymentKey_not_mem_destination]

/-- The same is wrong with a spec under every suffix. -/
theorem faults_eq (spec : FunctionSpec) (settings : Settings)
    (left right : Option DeploymentSuffix) :
    spec.faults { settings with deploymentSuffix := left } =
      spec.faults { settings with deploymentSuffix := right } := by
  have without_eq := spec.without_fragmentKeys left right
  have collisions_eq : Fragment.collisions (spec.fragmentKeys (deploymentName left)) =
      Fragment.collisions (spec.fragmentKeys (deploymentName right)) := by
    rw [← Fragment.collisions_without (spec.deploymentKey_once left), without_eq,
      Fragment.collisions_without (spec.deploymentKey_once right)]
  have bound_iff (part : Section) (key : String) (other : ∀ deployment,
      ¬(part = .resources ∧ key = deploymentKey spec.name deployment)) :
      (∃ keys ∈ spec.fragmentKeys (deploymentName left), key ∈ keys part) ↔
        ∃ keys ∈ spec.fragmentKeys (deploymentName right), key ∈ keys part := by
    rw [← Fragment.exists_mem_without_iff (other left), without_eq,
      Fragment.exists_mem_without_iff (other right)]
  have role_shared : ending "LambdaCfnDispatchRole" ∈ sharedEndings := by decide
  have topic_iff := bound_iff .parameters "DispatchSnsArn" nofun
  have role_iff := bound_iff .resources "LambdaCfnDispatchRole" fun deployment equal =>
    shared_ne_deploymentKey spec.name deployment role_shared equal.2
  have document_eq : spec.documentFaults { settings with deploymentSuffix := left } =
      spec.documentFaults { settings with deploymentSuffix := right } := by
    simp only [documentFaults, collisions_eq, failIf, topic_iff, role_iff]
  rw [faults, faults, document_eq]
  rfl

/-- A spec is refused alike under every suffix. -/
theorem embed_error_iff (spec : FunctionSpec) (settings : Settings)
    (left right : Option DeploymentSuffix) (failure : Failure) :
    spec.embed { settings with deploymentSuffix := left } = .error failure ↔
      spec.embed { settings with deploymentSuffix := right } = .error failure := by
  rw [embed_failsFirst _ _ failure, embed_failsFirst _ _ failure,
    spec.faults_eq settings left right]

variable {reading : Reading}

theorem Reads.redeployed (reads : spec.Reads settings reading)
    (deployment : Option DeploymentSuffix) :
    spec.Reads { settings with deploymentSuffix := deployment } reading :=
  { reads with }

/-- What is compiled under one suffix is compiled under every other one. -/
theorem embed_redeployed {left : Option DeploymentSuffix} {template : Template}
    (embed_ok : spec.embed { settings with deploymentSuffix := left } = .ok template)
    (right : Option DeploymentSuffix) :
    ∃ redeployed, spec.embed { settings with deploymentSuffix := right } = .ok redeployed := by
  cases outcome : spec.embed { settings with deploymentSuffix := right } with
  | ok redeployed => exact ⟨redeployed, rfl⟩
  | error failure =>
      rw [spec.embed_error_iff settings right left failure, embed_ok] at outcome
      cases outcome

theorem resources_of_not_webhook {triggers : List Trigger}
    (other : ∀ trigger ∈ triggers, trigger.isWebhook = false) (function : String)
    (settings : Settings) (left right : Option DeploymentSuffix) :
    triggers.flatMap (Trigger.resources function { settings with deploymentSuffix := left }) =
      triggers.flatMap
        (Trigger.resources function { settings with deploymentSuffix := right }) := by
  refine List.flatMap_congr fun trigger mem => ?_
  cases trigger with
  | topic | rule => rfl
  | webhook => cases other _ mem

/-- A webhook is the only one among the triggers of a spec. -/
theorem Reads.split_triggers (reads : spec.Reads settings reading) {options : WebhookOptions}
    (uses : .webhook options ∈ reading.triggers) :
    ∃ before after, reading.triggers = before ++ .webhook options :: after ∧
      ∀ trigger ∈ before ++ after, trigger.isWebhook = false := by
  obtain ⟨before, after, triggers_eq⟩ := List.append_of_mem uses
  have kinds_nodup := nodup_kinds reads.triggers
  rw [triggers_eq, (List.perm_middle.map Trigger.kind).nodup_iff, List.map_cons, List.nodup_cons]
    at kinds_nodup
  refine ⟨before, after, triggers_eq, fun trigger mem => ?_⟩
  rw [Bool.eq_false_iff, ne_eq, Trigger.isWebhook_iff_kind]
  intro kind_eq
  exact kinds_nodup.1 (List.mem_map.mpr ⟨trigger, mem, kind_eq⟩)

/-- The key of a webhook and its deployment stand next to each other, amid resources that are the
same under every suffix. -/
theorem Reads.exists_deployment (reads : spec.Reads settings reading) {options : WebhookOptions}
    (uses : .webhook options ∈ reading.triggers) :
    ∃ front back, ∀ deployment,
      spec.resourceEntries { settings with deploymentSuffix := deployment } reading =
        front ++ [
          (apiKeyName spec.name, apiKey spec.name (deploymentKey spec.name deployment)),
          (deploymentKey spec.name deployment, WebhookTrigger.deployment spec.name)
        ] ++ back := by
  obtain ⟨before, after, triggers_eq, other⟩ := reads.split_triggers uses
  have before_other := fun trigger mem => other trigger (List.mem_append_left after mem)
  have after_other := fun trigger mem => other trigger (List.mem_append_right before mem)
  let plain : Settings := { settings with deploymentSuffix := none }
  let front : List (String × Json) := Alarms.resources spec settings ++
    [(spec.name, spec.functionResource reading), (Names.defaultRole, spec.defaultRole reading)] ++
    before.flatMap (Trigger.resources spec.name plain) ++ [
      (resourceName spec.name, resource spec.name),
      (methodName spec.name, method spec.name options),
      (WebhookTrigger.permissionName spec.name,
        invocationPermission spec.name "apigateway.amazonaws.com" (requests spec.name)),
      (gatewayName spec.name, gateway)
    ]
  let back : List (String × Json) :=
    alarmKinds.map (fun kind => (alarmName spec.name kind, alarm settings kind)) ++
    after.flatMap (Trigger.resources spec.name plain) ++
    reading.topics.map (fun topic => (topic.topicName, topic.topic)) ++
    [(Names.dispatchRole, spec.dispatchRole reading)]
  refine ⟨front, back, fun deployment => ?_⟩
  rw [resourceEntries, triggers_eq, List.flatMap_append, List.flatMap_cons,
    resources_of_not_webhook before_other spec.name settings deployment none,
    resources_of_not_webhook after_other spec.name settings deployment none]
  simp only [front, back, Trigger.resources, WebhookTrigger.resources, List.append_assoc,
    List.cons_append, List.nil_append]
  rfl

theorem redeploys_layout (reads : spec.Reads settings reading) {options : WebhookOptions}
    (uses : .webhook options ∈ reading.triggers) {suffix : DeploymentSuffix}
    (plain_ok : spec.Unambiguous { settings with deploymentSuffix := none } reading)
    (redeployed_ok : spec.Unambiguous { settings with deploymentSuffix := some suffix } reading) :
    (spec.layout { settings with deploymentSuffix := some suffix } reading).Redeploys
      (spec.layout { settings with deploymentSuffix := none } reading) spec.name suffix.text := by
  obtain ⟨front, back, entries_eq⟩ := reads.exists_deployment uses
  have plain_eq := (OrderedMap.entries_ofList plain_ok.resources).trans (entries_eq none)
  have redeployed_eq :=
    (OrderedMap.entries_ofList redeployed_ok.resources).trans (entries_eq (some suffix))
  rw [apiKeyName_eq, deploymentKey_none] at plain_eq
  rw [apiKeyName_eq, deploymentKey_some] at redeployed_eq
  exact {
    sections := rfl
    resources := ⟨front, back, _, _, _, plain_eq, redeployed_eq, changedAt_apiKey _ _ _⟩
  }

theorem layout_of_not_webhook {suffixed plain : Option DeploymentSuffix}
    (other : ∀ trigger ∈ reading.triggers, trigger.isWebhook = false) :
    spec.layout { settings with deploymentSuffix := suffixed } reading =
      spec.layout { settings with deploymentSuffix := plain } reading := by
  have triggers_eq := resources_of_not_webhook other spec.name settings suffixed plain
  rw [layout, layout, resourceEntries, resourceEntries, triggers_eq]
  rfl

/-- A spec is refused under a suffix just when it is refused without one, and for the same reason.
What is compiled differs only in the name of the deployment of a webhook, if there is one. -/
theorem suffix_confined (spec : FunctionSpec) (settings : Settings) (suffix : DeploymentSuffix) :
    (∀ failure, spec.embed { settings with deploymentSuffix := some suffix } = .error failure ↔
      spec.embed { settings with deploymentSuffix := none } = .error failure) ∧
    ∀ plain, spec.embed { settings with deploymentSuffix := none } = .ok plain →
      ∃ redeployed,
        spec.embed { settings with deploymentSuffix := some suffix } = .ok redeployed ∧
        ("webhook" ∈ Entries.keys spec.sources →
          redeployed.Redeploys plain spec.name suffix.text) ∧
        ("webhook" ∉ Entries.keys spec.sources → redeployed = plain) := by
  refine ⟨spec.embed_error_iff settings (some suffix) none, fun plain plain_ok => ?_⟩
  obtain ⟨redeployed, redeployed_ok⟩ := embed_redeployed plain_ok (some suffix)
  obtain ⟨reading, reads, unambiguous, rfl⟩ := layout_of_embed plain_ok
  obtain ⟨redeployed_unambiguous, rfl⟩ :=
    eq_layout_of_embed (reads.redeployed (some suffix)) redeployed_ok
  refine ⟨_, redeployed_ok, fun uses => ?_, fun unused => ?_⟩
  · obtain ⟨trigger, mem, webhook⟩ := List.any_eq_true.mp (reads.any_isWebhook_iff.mpr uses)
    cases trigger with
    | topic | rule => cases webhook
    | webhook options => exact redeploys_layout reads mem unambiguous redeployed_unambiguous
  · refine layout_of_not_webhook fun trigger mem => Bool.eq_false_iff.mpr fun webhook => unused ?_
    exact reads.any_isWebhook_iff.mp (List.any_eq_true.mpr ⟨trigger, mem, webhook⟩)

/-- A suffix as it may be drawn. -/
def sampleSuffix : DeploymentSuffix :=
  ⟨.ofFn fun place => ⟨5 * place.val % 36, Nat.mod_lt _ (by decide)⟩⟩

theorem sample_suffix_confined : ∃ plain redeployed, sample.embed {} = .ok plain ∧
    sample.embed { deploymentSuffix := some sampleSuffix } = .ok redeployed ∧
    redeployed.Redeploys plain "report" "05afkpuz49" := by
  obtain ⟨redeployed, redeployed_ok, webhook, -⟩ :=
    (suffix_confined sample {} sampleSuffix).2 _ embed_sample
  have text_eq : sampleSuffix.text = "05afkpuz49" := by decide
  exact ⟨_, redeployed, embed_sample, redeployed_ok, text_eq ▸ webhook (by decide)⟩

end FunctionSpec
end LambdaStack

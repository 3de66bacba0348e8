import LambdaStack.Proofs.FunctionSpec.RawJson
import LambdaStack.Proofs.Stack.Acceptance

/-!
# Inventory

The identifiers of a document, written down from the spec alone: what each event source and each
destination adds, in the order in which they are declared, between what every document has. Nothing
is lost on the way to the document, nothing is added, and no place changes.
-/

namespace LambdaStack

namespace FunctionSpec

/-- What the identifiers of the resources of an event source of a kind add to the name of the
function, when deployments of webhooks have the given name. -/
def sourceResources (deployment : String) : String → List String
  | "sns" => ["SNSPermission", "SNSUser", "SNSTopic", "SNSUserAccessKey"]
  | "cloudwatchEvent" => ["CloudwatchEventPermission", "CloudwatchEventRule"]
  | "schedule" => ["SchedulePermission", "ScheduleRule"]
  | "webhook" => [
      "WebhookResource",
      "WebhookMethod",
      "WebhookPermission",
      "WebhookApiGateway",
      "WebhookApiKey",
      "Webhook" ++ deployment,
      "WebhookApiLatencyAlarm",
      "WebhookApi4xxAlarm",
      "WebhookApiCountAlarm"
    ]
  | _ => []

/-- What the identifiers of the outputs of an event source add to the name of the function. The key
of a webhook is given out when it is asked for. -/
def sourceOutputs (kind : String) (options : Json) : List String :=
  match kind with
  | "sns" => ["SNSTopic", "SNSUserAccessKey", "SNSUserSecretAccessKey"]
  | "webhook" =>
    "WebhookAPIEndpoint" ::
      if (options.truthyMember? "apiKey").isSome then ["WebhookApiKey"] else []
  | _ => []

/-- The names of the resources of a document. -/
def resourceInventory (spec : FunctionSpec) (deployment : String) : List String :=
  [spec.name ++ "AlarmErrors", spec.name ++ "AlarmNoInvocations", "ServiceAlarmSNSTopic", spec.name,
    "LambdaCfnRole"] ++
  (spec.sources.flatMap fun source => sourceResources deployment source.1).map (spec.name ++ ·) ++
  spec.destinationNames.map (· ++ "Topic") ++ ["LambdaCfnDispatchRole"]

/-- The names of the parameters of a document. -/
def parameterInventory (spec : FunctionSpec) : List String :=
  spec.parameters.keys ++ ["CodeS3Bucket", "CodeS3Prefix", "GitSha", "ServiceAlarmEmail"] ++
    spec.destinationNames.map (· ++ "Email") ++ ["DispatchSnsArn"]

/-- The names of the outputs of a document. -/
def outputInventory (spec : FunctionSpec) : List String :=
  (spec.sources.flatMap fun source => sourceOutputs source.1 source.2).map (spec.name ++ ·)

end FunctionSpec

/-- A template has just the listed parameters, resources and outputs, in order and each once, and
one condition. -/
structure Template.Lists (template : Template) (parameterNames resourceNames outputNames :
    List String) : Prop where
  /-- The parameters. -/
  parameters : template.parameters.keys = parameterNames
  /-- No parameter is listed twice. -/
  parameters_nodup : parameterNames.Nodup
  /-- The resources. -/
  resources : template.resources.keys = resourceNames
  /-- No resource is listed twice. -/
  resources_nodup : resourceNames.Nodup
  /-- The outputs. -/
  outputs : template.outputs.keys = outputNames
  /-- No output is listed twice. -/
  outputs_nodup : outputNames.Nodup
  /-- The only condition tells whether there is a dispatch topic. -/
  conditions : template.conditions.keys = ["HasDispatchSnsArn"]
  /-- There are no remarks. -/
  metadata : template.metadata = ∅
  /-- There are no constant tables. -/
  mappings : template.mappings = ∅

namespace Trigger

theorem resourceSuffixes_of_read (deployment : Option DeploymentSuffix) {kind : String}
    {options : Json} {trigger : Trigger} (read_ok : read kind options = .ok trigger) :
    trigger.resourceSuffixes deployment =
      FunctionSpec.sourceResources (WebhookTrigger.deploymentName deployment) kind := by
  rw [← kind_of_read read_ok]
  rcases trigger with _ | (_ | _) | _ <;> rfl

theorem outputSuffixes_of_read {kind : String} {options : Json} {trigger : Trigger}
    (read_ok : read kind options = .ok trigger) :
    trigger.outputSuffixes = FunctionSpec.sourceOutputs kind options := by
  have kind_eq := kind_of_read read_ok
  rcases trigger with _ | source | webhook
  · rw [← kind_eq]
    rfl
  · rw [← kind_eq]
    rcases source with _ | _ <;> rfl
  · subst kind_eq
    obtain ⟨given, given_ok, given_eq⟩ := map_eq_ok_iff.mp read_ok
    cases given_eq
    obtain ⟨-, -, apiKey_eq⟩ := parts_of_readWebhook given_ok
    simp only [outputSuffixes, apiKey_eq]
    rfl

end Trigger

namespace FunctionSpec

/-- Only event sources of a known kind have resources. -/
theorem kind_of_mem_sourceResources {deployment kind suffix : String}
    (mem : suffix ∈ sourceResources deployment kind) :
    kind ∈ ["sns", "cloudwatchEvent", "schedule", "webhook"] := by
  unfold sourceResources at mem
  split at mem
  · decide
  · decide
  · decide
  · decide
  · cases mem

variable {spec : FunctionSpec} {settings : Settings} {reading : Reading}

theorem Reads.resourceSuffixes_eq (reads : spec.Reads settings reading) :
    reading.triggers.flatMap (Trigger.resourceSuffixes settings.deploymentSuffix) =
      spec.sources.flatMap fun source =>
        sourceResources (WebhookTrigger.deploymentName settings.deploymentSuffix) source.1 := by
  have triggers_ok := reads.triggers
  rw [triggers_eq_mapM] at triggers_ok
  rw [List.flatMap_def, List.flatMap_def, map_eq_of_mapM (fun _ _ =>
    Trigger.resourceSuffixes_of_read settings.deploymentSuffix) triggers_ok]

theorem Reads.outputSuffixes_eq (reads : spec.Reads settings reading) :
    reading.triggers.flatMap Trigger.outputSuffixes =
      spec.sources.flatMap fun source => sourceOutputs source.1 source.2 := by
  have triggers_ok := reads.triggers
  rw [triggers_eq_mapM] at triggers_ok
  rw [List.flatMap_def, List.flatMap_def,
    map_eq_of_mapM (fun _ _ => Trigger.outputSuffixes_of_read) triggers_ok]

theorem keys_resources_layout (reads : spec.Reads settings reading)
    (unambiguous : spec.Unambiguous settings reading) :
    (spec.layout settings reading).resources.keys =
      spec.resourceInventory (WebhookTrigger.deploymentName settings.deploymentSuffix) := by
  have keys_eq := spec.keys_resourceEntries settings reading
  rw [reads.resourceSuffixes_eq, reads.topicNames_eq] at keys_eq
  exact (OrderedMap.keys_ofList unambiguous.resources).trans keys_eq

theorem keys_parameters_layout (reads : spec.Reads settings reading)
    (unambiguous : spec.Unambiguous settings reading) :
    (spec.layout settings reading).parameters.keys = spec.parameterInventory := by
  have keys_eq := spec.keys_parameterEntries reading
  rw [reads.topicNames_eq] at keys_eq
  exact (OrderedMap.keys_ofList unambiguous.parameters).trans keys_eq

theorem keys_outputs_layout (reads : spec.Reads settings reading)
    (unambiguous : spec.Unambiguous settings reading) :
    (spec.layout settings reading).outputs.keys = spec.outputInventory := by
  have keys_eq := spec.keys_outputEntries reading
  rw [reads.outputSuffixes_eq] at keys_eq
  exact (OrderedMap.keys_ofList unambiguous.outputs).trans keys_eq

/-- What is compiled without a deployment suffix consists of just what the spec lists. -/
theorem inventory_of_embed {template : Template} (deterministic : settings.deploymentSuffix = none)
    (embed_ok : spec.embed settings = .ok template) :
    template.Lists spec.parameterInventory (spec.resourceInventory "ApiDeployment")
      spec.outputInventory := by
  obtain ⟨reading, reads, unambiguous, rfl⟩ := layout_of_embed embed_ok
  have parameters_eq := keys_parameters_layout reads unambiguous
  have resources_eq := keys_resources_layout reads unambiguous
  have outputs_eq := keys_outputs_layout reads unambiguous
  rw [deterministic] at resources_eq
  exact {
    parameters := parameters_eq
    parameters_nodup := parameters_eq ▸ OrderedMap.nodup _
    resources := resources_eq
    resources_nodup := resources_eq ▸ OrderedMap.nodup _
    outputs := outputs_eq
    outputs_nodup := outputs_eq ▸ OrderedMap.nodup _
    conditions := rfl
    metadata := rfl
    mappings := rfl
  }

theorem sample_inventory : ∃ template, sample.embed {} = .ok template ∧ template.Lists
    ["Stage", "CodeS3Bucket", "CodeS3Prefix", "GitSha", "ServiceAlarmEmail", "operatorsEmail",
      "DispatchSnsArn"]
    ["reportAlarmErrors", "reportAlarmNoInvocations", "ServiceAlarmSNSTopic", "report",
      "LambdaCfnRole", "reportSchedulePermission", "reportScheduleRule", "reportWebhookResource",
      "reportWebhookMethod", "reportWebhookPermission", "reportWebhookApiGateway",
      "reportWebhookApiKey", "reportWebhookApiDeployment", "reportWebhookApiLatencyAlarm",
      "reportWebhookApi4xxAlarm", "reportWebhookApiCountAlarm", "operatorsTopic",
      "LambdaCfnDispatchRole"]
    ["reportWebhookAPIEndpoint"] :=
  ⟨_, embed_sample, inventory_of_embed rfl embed_sample⟩

end FunctionSpec
end LambdaStack

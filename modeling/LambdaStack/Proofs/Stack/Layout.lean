import LambdaStack.Proofs.FunctionSpec.Reading
import LambdaStack.Proofs.Stack.Suffixes
import LambdaStack.Stack.Compilation

/-!
# The layout of a document

What the fields of a spec say, each read on its own, and the document that they describe: the
entries of each of its sections, written out in order. Nothing is merged or completed here; that
compilation arrives at this document is proved where the steps of compilation are followed.
-/

namespace LambdaStack

namespace RuleTrigger

theorem eventName_pattern (function : String) (value : Json) :
    eventName function (.pattern value) = function ++ "CloudwatchEvent" := by
  have kind_eq : Text.capitalizeFirst "cloudwatchEvent" = "CloudwatchEvent" := by decide
  rw [eventName, RuleSource.kind, kind_eq]

theorem eventName_schedule (function expression : String) :
    eventName function (.schedule expression) = function ++ "Schedule" := by
  have kind_eq : Text.capitalizeFirst "schedule" = "Schedule" := by decide
  rw [eventName, RuleSource.kind, kind_eq]

end RuleTrigger

namespace Trigger

/-- Resources of a trigger. -/
def resources (function : String) (settings : Settings) : Trigger → List (String × Json)
  | topic => TopicTrigger.resources function
  | rule source => RuleTrigger.resources function source
  | webhook options => WebhookTrigger.resources function options settings

/-- Outputs of a trigger. -/
def outputs (function : String) : Trigger → List (String × Json)
  | topic => TopicTrigger.outputs function
  | rule _ => []
  | webhook options => WebhookTrigger.outputs function options

theorem keys_resources (function : String) (settings : Settings) (trigger : Trigger) :
    Entries.keys (trigger.resources function settings) =
      (trigger.resourceSuffixes settings.deploymentSuffix).map (function ++ ·) := by
  rcases trigger with _ | (_ | _) | _
  · rfl
  · simp [resources, RuleTrigger.resources, resourceSuffixes, RuleTrigger.permissionName,
      RuleTrigger.ruleName, RuleTrigger.eventName_pattern, String.append_assoc]
  · simp [resources, RuleTrigger.resources, resourceSuffixes, RuleTrigger.permissionName,
      RuleTrigger.ruleName, RuleTrigger.eventName_schedule, String.append_assoc]
  · simp [resources, WebhookTrigger.resources, resourceSuffixes, WebhookTrigger.alarmKinds,
      WebhookTrigger.resourceName, WebhookTrigger.methodName, WebhookTrigger.permissionName,
      WebhookTrigger.gatewayName, WebhookTrigger.apiKeyName, WebhookTrigger.deploymentKey,
      WebhookTrigger.alarmName, WebhookTrigger.webhookName, String.append_assoc]

theorem keys_outputs (function : String) (trigger : Trigger) :
    Entries.keys (trigger.outputs function) = trigger.outputSuffixes.map (function ++ ·) := by
  rcases trigger with _ | _ | options
  · rfl
  · rfl
  · cases asked : options.apiKey <;>
      simp [outputs, WebhookTrigger.outputs, outputSuffixes, asked, WebhookTrigger.endpointName,
        WebhookTrigger.apiKeyName, WebhookTrigger.webhookName, String.append_assoc]

theorem nodup_keys_resources (function : String) (settings : Settings) (trigger : Trigger) :
    (Entries.keys (trigger.resources function settings)).Nodup := by
  rw [keys_resources]
  exact (nodup_resourceSuffixes _ _).map (Identifier.append_injective function)

theorem nodup_keys_outputs (function : String) (trigger : Trigger) :
    (Entries.keys (trigger.outputs function)).Nodup := by
  rw [keys_outputs]
  exact (nodup_outputSuffixes _).map (Identifier.append_injective function)

end Trigger

theorem Alarms.keys_resources (spec : FunctionSpec) (settings : Settings) :
    Entries.keys (resources spec settings) =
      [spec.name ++ "AlarmErrors", spec.name ++ "AlarmNoInvocations", Names.alarmTopic] := by
  simp [resources, alarmName, errors, noInvocations, String.append_assoc]

/-- What the fields of a spec say, each read on its own. -/
structure Reading where
  /-- What invokes the function. -/
  triggers : List Trigger
  /-- The topics that it publishes to. -/
  topics : List TopicDestination
  /-- What executes it. -/
  runtime : Runtime
  /-- Its entry point. -/
  handler : String

namespace Reading

/-- Names of the topics. -/
def topicNames (reading : Reading) : List String :=
  reading.topics.map TopicDestination.name

end Reading

namespace FunctionSpec

/-- Every field of a spec passes its own check and is read as given. -/
structure Reads (spec : FunctionSpec) (settings : Settings) (reading : Reading) : Prop where
  /-- The name is there and alphanumeric. -/
  name : spec.checkName = .ok ()
  /-- Every event source is a trigger. -/
  triggers : spec.triggers = .ok reading.triggers
  /-- Every destination is a group of topics. -/
  topics : (spec.readDestinations.map fun groups => groups.flatMap Destination.entries) =
    .ok reading.topics
  /-- Every declared parameter is valid. -/
  parameters : ∀ parameter ∈ spec.parameters.entries,
    Parameters.validate parameter.1 parameter.2 = .ok ()
  /-- The runtime is supported, or the default. -/
  runtime : Runtime.resolve spec.runtime = .ok reading.runtime
  /-- The handler is given, or follows from the place of the spec. -/
  handler : Function.handler spec.handler settings.sourcePath = .ok reading.handler
  /-- Every statement is valid. -/
  statements : ∀ statements ∈ spec.statements, Role.validateStatements statements = .ok ()

/-- The declared parameters as they stand in the document. -/
def declaredEntries (spec : FunctionSpec) : List (String × Json) :=
  spec.parameters.entries.map fun parameter => (parameter.1, parameter.2.toJson)

/-- The parameters of the document. -/
def parameterEntries (spec : FunctionSpec) (reading : Reading) : List (String × Json) :=
  spec.declaredEntries ++ Parameters.provenance ++ [(Names.alarmEmail, Alarms.emailParameter)] ++
    reading.topics.map (fun topic => (topic.emailName, topic.email)) ++
    [(Names.dispatchTopic, Dispatch.parameter)]

/-- The variables that fragments give to the function. -/
def topicVariables (reading : Reading) : List (String × Json) :=
  (Names.alarmTopic, Expression.reference Names.alarmTopic) ::
    reading.topics.map fun topic => (topic.topicName, Expression.reference topic.topicName)

/-- The variables of the function, with which a later one of the same name replaces an earlier. -/
def variableEntries (spec : FunctionSpec) (reading : Reading) : List (String × Json) :=
  topicVariables reading ++ Completion.stackVariables ++
    (Entries.keys (spec.parameterEntries reading)).map fun name =>
      (name, Expression.reference name)

/-- The policy of the statements of a spec, if it has statements. -/
def statementPolicies (spec : FunctionSpec) : List Json :=
  spec.statements.toList.map fun statements =>
    Role.policy spec.name (statements.map Json.ofMap)

/-- All policies of an execution role but the basic one. -/
def rolePolicies (spec : FunctionSpec) (reading : Reading) : List Json :=
  spec.statementPolicies ++ reading.topics.map (TopicDestination.policy spec.name)

/-- The execution role. -/
def defaultRole (spec : FunctionSpec) (reading : Reading) : Json :=
  .object (Role.members reading.triggers [] (spec.rolePolicies reading))

/-- The execution role while a dispatch topic is set. -/
def dispatchRole (spec : FunctionSpec) (reading : Reading) : Json :=
  .object (Role.members reading.triggers [Dispatch.publishStatement] (spec.rolePolicies reading) ++
    [("Condition", .string Names.hasDispatch)])

/-- The function itself. -/
def functionResource (spec : FunctionSpec) (reading : Reading) : Json :=
  Function.resource spec reading.runtime reading.handler (.ofList (spec.variableEntries reading))

/-- The resources of the document. -/
def resourceEntries (spec : FunctionSpec) (settings : Settings) (reading : Reading) :
    List (String × Json) :=
  Alarms.resources spec settings ++
    [(spec.name, spec.functionResource reading), (Names.defaultRole, spec.defaultRole reading)] ++
    reading.triggers.flatMap (Trigger.resources spec.name settings) ++
    reading.topics.map (fun topic => (topic.topicName, topic.topic)) ++
    [(Names.dispatchRole, spec.dispatchRole reading)]

/-- The outputs of the document. -/
def outputEntries (spec : FunctionSpec) (reading : Reading) : List (String × Json) :=
  reading.triggers.flatMap (Trigger.outputs spec.name)

/-- The document. -/
def layout (spec : FunctionSpec) (settings : Settings) (reading : Reading) : Template where
  metadata := ∅
  parameters := .ofList (spec.parameterEntries reading)
  mappings := ∅
  conditions := .ofList [(Names.hasDispatch, Dispatch.condition)]
  resources := .ofList (spec.resourceEntries settings reading)
  outputs := .ofList (spec.outputEntries reading)

/-- No identifier is used twice in a section of the document, nor twice for a variable by the
fragments. -/
structure Unambiguous (spec : FunctionSpec) (settings : Settings) (reading : Reading) : Prop where
  /-- Parameters have distinct names. -/
  parameters : (Entries.keys (spec.parameterEntries reading)).Nodup
  /-- Resources have distinct names. -/
  resources : (Entries.keys (spec.resourceEntries settings reading)).Nodup
  /-- Outputs have distinct names. -/
  outputs : (Entries.keys (spec.outputEntries reading)).Nodup
  /-- The variables that fragments give have distinct names. -/
  environment : (Entries.keys (topicVariables reading)).Nodup

/-- Number of parameters of the document. -/
def parameterCount (spec : FunctionSpec) (reading : Reading) : Nat :=
  spec.parameters.size + reading.topics.length + 5

theorem length_parameterEntries (spec : FunctionSpec) (reading : Reading) :
    (spec.parameterEntries reading).length = spec.parameterCount reading := by
  simp only [parameterEntries, declaredEntries, Parameters.provenance, parameterCount,
    OrderedMap.size, List.length_append, List.length_map, List.length_cons, List.length_nil]
  omega

end FunctionSpec
end LambdaStack

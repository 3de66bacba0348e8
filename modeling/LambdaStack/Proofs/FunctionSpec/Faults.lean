import LambdaStack.Proofs.Checks
import LambdaStack.Proofs.FunctionSpec.Reading

/-!
# Faults of triggers and destinations

What is wrong with an event source or a destination, listed without regard to how it is read. The
options of a webhook can be wrong in three ways at once; reading reports the first of them.
-/

namespace LambdaStack

namespace WebhookOptions

/-- What is wrong with the method of a webhook. -/
def methodFaults (options : Json) : List Failure :=
  match options.truthyMember? "method" with
  | none => [.missingField "method" "Webhook function method not found"]
  | some (.string name) =>
    failIf (Text.toUpper name ∉ ["GET", "HEAD", "PUT", "PATCH", "OPTIONS", "POST", "DELETE"])
      (.unsupportedMethod name)
  | some value => [.unsupportedMethod value.compact]

/-- What is wrong with the responses of a webhook. -/
def responseFaults (options : Json) : List Failure :=
  match options.truthyMember? "methodResponses" with
  | none | some (.array _) => []
  | some _ => [.methodResponsesNotList]

/-- What is wrong with the integration of a webhook. -/
def integrationFaults (options : Json) : List Failure :=
  match options.truthyMember? "integration" with
  | none | some (.object _) => []
  | some _ => [.invalidOption "integration" "webhook integration must be an object"]

theorem readMethod_failsFirst (name : String) :
    FailsFirst (readMethod (.string name))
      (failIf (Text.toUpper name ∉ ["GET", "HEAD", "PUT", "PATCH", "OPTIONS", "POST", "DELETE"])
        (.unsupportedMethod name)) := by
  by_cases unknown : HttpMethod.ofText? name = none
  · rw [failIf, if_pos (HttpMethod.ofText?_eq_none_iff.mp unknown)]
    simp only [readMethod, unknown]
    exact .error _ []
  · obtain ⟨method, found⟩ := Option.ne_none_iff_exists'.mp unknown
    rw [failIf, if_neg fun absent => unknown (HttpMethod.ofText?_eq_none_iff.mpr absent)]
    simp only [readMethod, found]
    exact .ok method

theorem readGivenMethod_failsFirst (options : Json) :
    FailsFirst (readGivenMethod options) (methodFaults options) := by
  unfold readGivenMethod methodFaults
  rcases options.truthyMember? "method" with _ | (_ | _ | _ | name | _ | _)
  case some.string => exact readMethod_failsFirst name
  all_goals exact .error _ []

theorem readMethodResponses_failsFirst (options : Json) :
    FailsFirst (readMethodResponses options) (responseFaults options) := by
  unfold readMethodResponses responseFaults
  rcases options.truthyMember? "methodResponses" with _ | (_ | _ | _ | _ | responses | _)
  · exact .ok defaultMethodResponses
  case some.array => exact .ok responses
  all_goals exact .error _ []

theorem readIntegration_failsFirst (options : Json) :
    FailsFirst (readIntegration options) (integrationFaults options) := by
  unfold readIntegration integrationFaults
  rcases options.truthyMember? "integration" with _ | (_ | _ | _ | _ | _ | members)
  · exact .ok ∅
  case some.object => exact .ok (OrderedMap.ofList members)
  all_goals exact .error _ []

theorem read_failsFirst (options : Json) :
    FailsFirst (read options)
      (methodFaults options ++ (responseFaults options ++ integrationFaults options)) := by
  rw [read_eq_bind]
  refine (readGivenMethod_failsFirst options).bind fun _ _ => ?_
  refine (readMethodResponses_failsFirst options).bind fun _ _ => ?_
  exact (readIntegration_failsFirst options).bindLast fun _ _ => .ok _

end WebhookOptions

/-- What is wrong with an event source. -/
def Trigger.faults (kind : String) (options : Json) : List Failure :=
  match kind with
  | "sns" => []
  | "cloudwatchEvent" =>
    failIf (options.truthyMember? "eventPattern" = none)
      (.missingField "eventPattern" "eventPattern required for cloudwatch event")
  | "schedule" =>
    match options.truthyMember? "expression" with
    | none => [.missingField "expression" "scheduled function expression cannot be undefined"]
    | some (.string _) => []
    | some _ => [.invalidOption "expression" "schedule expression must be a string"]
  | "webhook" =>
    WebhookOptions.methodFaults options ++
      (WebhookOptions.responseFaults options ++ WebhookOptions.integrationFaults options)
  | kind => [.unknownTrigger kind]

/-- What is wrong with a group of topics. -/
def Destination.topicFaults : Json → List Failure
  | .object members => (OrderedMap.ofList members).keys.flatMap fun name =>
    failIf (!isAlphanumeric name)
      (.invalidOption "destinations.sns" ("destination names must be alphanumeric: " ++ name))
  | .null => []
  | _ => [.invalidOption "destinations.sns" "expected a map of destination name to options"]

/-- What is wrong with a destination. -/
def Destination.faults (kind : String) (options : Json) : List Failure :=
  match kind with
  | "sns" => topicFaults options
  | kind => [.unknownDestination kind]

theorem Trigger.readSchedule_failsFirst (options : Json) :
    FailsFirst (readSchedule options) (faults "schedule" options) := by
  unfold readSchedule faults
  rcases options.truthyMember? "expression" with _ | (_ | _ | _ | expression | _ | _)
  case some.string => exact .ok (RuleSource.schedule expression)
  all_goals exact .error _ []

theorem Trigger.readPattern_failsFirst (options : Json) :
    FailsFirst (readPattern options) (faults "cloudwatchEvent" options) := by
  unfold readPattern faults
  cases options.truthyMember? "eventPattern" with
  | none => exact .error _ []
  | some pattern => exact .ok (RuleSource.pattern pattern)

theorem Trigger.read_failsFirst (kind : String) (options : Json) :
    FailsFirst (read kind options) (faults kind options) := by
  unfold read
  split
  · exact .ok topic
  · exact (readPattern_failsFirst options).map rule
  · exact (readSchedule_failsFirst options).map rule
  · exact (WebhookOptions.read_failsFirst options).map webhook
  next not_topic not_pattern not_schedule not_webhook =>
    simp only [faults]
    exact .error _ []

theorem Destination.readTopic_failsFirst (name : String) (options : Json) :
    FailsFirst (readTopic name options)
      (failIf (!isAlphanumeric name)
        (.invalidOption "destinations.sns"
          ("destination names must be alphanumeric: " ++ name))) := by
  unfold readTopic failIf
  by_cases accepted : isAlphanumeric name = true
  · simp only [accepted]
    exact .ok _
  · simp only [accepted]
    exact .error _ []

theorem Destination.readTopics_failsFirst (options : Json) :
    FailsFirst (readTopics options) (topicFaults options) := by
  cases options with
  | object members =>
      have first (member : String × Json) := readTopic_failsFirst member.1 member.2
      rw [readTopics, topicFaults, OrderedMap.keys, Entries.keys, List.flatMap_map]
      exact .mapM first _
  | null => exact .ok []
  | bool | number | string | array => exact .error _ []

theorem Destination.read_failsFirst (kind : String) (options : Json) :
    FailsFirst (read kind options) (faults kind options) := by
  unfold read
  split
  · exact (readTopics_failsFirst options).map topics
  next unknown =>
    simp only [faults]
    exact .error _ []

end LambdaStack

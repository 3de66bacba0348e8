import LambdaStack.Failure
import LambdaStack.Notice.Message
import LambdaStack.Stack.Names

/-!
# Routing

Where a message goes, decided by the environment of the function: nowhere in test mode, to the
dispatch topic as JSON text when that is set, and otherwise to the topic of the message or to that
of alarms as text for human readers.
-/

namespace LambdaStack

/-- The variables of an environment on which routing depends. -/
structure RoutingEnvironment where
  /-- The dispatch topic, if set. -/
  dispatchTopic : Option String := none
  /-- The topic of alarms, if set. -/
  alarmTopic : Option String := none
  /-- Messages are handed back instead of being published. -/
  testMode : Bool := false
  deriving DecidableEq

namespace RoutingEnvironment

/-- The variable that switches test mode on when it is `test`. -/
def testModeVariable : String := "STACKFN_ENV"

/-- Take a variable into account. Empty topics count as unset, so that they change nothing. -/
def setVariable (environment : RoutingEnvironment) (binding : String × String) :
    RoutingEnvironment :=
  let (name, value) := binding
  if name = Names.dispatchTopic then
    if value = "" then environment else { environment with dispatchTopic := some value }
  else if name = Names.alarmTopic then
    if value = "" then environment else { environment with alarmTopic := some value }
  else if name = testModeVariable then { environment with testMode := value = "test" }
  else environment

/-- The environment of a list of variables. -/
def ofVariables (bindings : List (String × String)) : RoutingEnvironment :=
  bindings.foldl setVariable {}

end RoutingEnvironment

/-- Where a message goes. -/
inductive Route where
  /-- Back to the caller. -/
  | echo (message : Message)
  /-- To the dispatch topic. -/
  | dispatch (topic body : String)
  /-- To a topic that human readers have subscribed to. -/
  | alert (topic subject body : String)
  deriving DecidableEq

namespace Message

/-- Text of a message for human readers. -/
def alertBody (message : Message) : String :=
  message.summary ++ "\n\n" ++ message.event.pretty

/-- The topic of an alert: that of the message, unless empty, or that of alarms. -/
def alertTopic? (message : Message) (environment : RoutingEnvironment) : Option String :=
  (message.topic.filter (· ≠ "")).or environment.alarmTopic

/-- The route of a message. -/
def route (message : Message) (environment : RoutingEnvironment) : Except Failure Route :=
  if environment.testMode then .ok (.echo message)
  else
    match environment.dispatchTopic with
    | some topic => .ok (.dispatch topic { message with topic := some topic }.toJson.compact)
    | none =>
      match message.alertTopic? environment with
      | some topic => .ok (.alert topic message.subject message.alertBody)
      | none =>
        .error (.missingField "topic" "no topic given and ServiceAlarmSNSTopic is not set")

end Message
end LambdaStack

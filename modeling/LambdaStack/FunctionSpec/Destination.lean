import LambdaStack.Failure
import LambdaStack.FunctionSpec.Basic
import LambdaStack.FunctionSpec.Identifier

/-!
# Destinations

Where a function sends notices of its own. The only kind of destination is a group of named topics.
-/

namespace LambdaStack

/-- A topic that a function publishes to. -/
structure TopicDestination where
  /-- Name of the topic, with which its identifiers begin. -/
  name : String
  /-- Description of the address that is subscribed. -/
  description : Option String := none
  deriving DecidableEq

/-- One entry of the destinations of a spec. -/
inductive Destination where
  /-- A group of topics. -/
  | topics (entries : List TopicDestination)
  deriving DecidableEq

namespace Destination

/-- Topics of a destination. -/
def entries : Destination → List TopicDestination
  | topics entries => entries

/-- The topic of one named entry. Its description is kept when it is a text. -/
def readTopic (name : String) (options : Json) : Except Failure TopicDestination :=
  if isAlphanumeric name then
    .ok { name, description := (options.member? "Description").bind Json.asString? }
  else
    .error (.invalidOption "destinations.sns" ("destination names must be alphanumeric: " ++ name))

/-- The topics of an options object; null stands for none. -/
def readTopics : Json → Except Failure (List TopicDestination)
  | .object members =>
    (OrderedMap.ofList members).entries.mapM fun member => readTopic member.1 member.2
  | .null => .ok []
  | _ =>
    .error (.invalidOption "destinations.sns" "expected a map of destination name to options")

/-- The destination of a kind and its options. -/
def read (kind : String) (options : Json) : Except Failure Destination :=
  match kind with
  | "sns" => (readTopics options).map topics
  | kind => .error (.unknownDestination kind)

end Destination

/-- The destinations of a spec, in order. -/
def FunctionSpec.readDestinations (spec : FunctionSpec) : Except Failure (List Destination) :=
  match spec.destinations with
  | none => .ok []
  | some destinations =>
    destinations.entries.mapM fun destination => Destination.read destination.1 destination.2

end LambdaStack

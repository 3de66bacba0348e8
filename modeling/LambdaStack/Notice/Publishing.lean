import LambdaStack.Notice.Routing

/-!
# Publishing

Sending a message: it is routed, and unless it is handed back, one request is published. The
publisher is any action on requests; an outbox is one that keeps them.
-/

namespace LambdaStack

/-- A request to publish a text. -/
structure PublishRequest where
  /-- Topic to publish to. -/
  topic : String
  /-- Subject line, of a text for human readers. -/
  subject : Option String := none
  /-- The text. -/
  body : String
  deriving DecidableEq

/-- What became of a message. -/
inductive Delivery where
  /-- The message was handed back. -/
  | echoed (message : Message)
  /-- The message was published and got an identity. -/
  | published (id : String)
  deriving DecidableEq

/-- The request of a route, or the message that is handed back. -/
def Route.request : Route → Message ⊕ PublishRequest
  | echo message => .inl message
  | dispatch topic body => .inr { topic, body }
  | alert topic subject body => .inr { topic, subject := some subject, body }

/-- Route a message, and publish its request if it has one. -/
def Message.send {m : Type → Type} [Monad m]
    (publish : PublishRequest → m (Except Failure String)) (message : Message)
    (environment : RoutingEnvironment) : m (Except Failure Delivery) :=
  match message.route environment with
  | .error failure => pure (.error failure)
  | .ok route =>
    match route.request with
    | .inl message => pure (.ok (.echoed message))
    | .inr request => do
      let id ← publish request
      return id.map .published

/-- A publisher that keeps its requests. -/
structure Outbox where
  /-- The requests that were published, in order. -/
  sent : List PublishRequest := []
  /-- Why publishing fails, while it does. -/
  fault : Option String := none
  deriving DecidableEq

namespace Outbox

/-- Publish a request to an outbox. Identities count the requests that were published. -/
def publish (request : PublishRequest) : StateM Outbox (Except Failure String) := do
  let outbox ← get
  match outbox.fault with
  | some reason => return .error (.publishFailed request.topic reason)
  | none =>
    set { outbox with sent := outbox.sent ++ [request] }
    return .ok ("msg-" ++ toString (outbox.sent.length + 1))

end Outbox
end LambdaStack

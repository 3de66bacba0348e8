import LambdaStack.Failure
import LambdaStack.FunctionSpec.Basic
import LambdaStack.Json.Printer
import LambdaStack.Text.Case

/-!
# Triggers

What invokes a function: a topic, an event rule, or an HTTP endpoint. Each entry of the event
sources of a spec is read as one trigger, and a spec without any has a topic.
-/

namespace LambdaStack

/-- An HTTP method that a webhook may answer. -/
inductive HttpMethod where
  | get
  | head
  | put
  | patch
  | options
  | post
  | delete
  deriving DecidableEq

namespace HttpMethod

/-- All methods. -/
def all : List HttpMethod :=
  [get, head, put, patch, options, post, delete]

/-- Name of a method. -/
def text : HttpMethod → String
  | get => "GET"
  | head => "HEAD"
  | put => "PUT"
  | patch => "PATCH"
  | options => "OPTIONS"
  | post => "POST"
  | delete => "DELETE"

/-- The method of a name in any case. -/
def ofText? (name : String) : Option HttpMethod :=
  all.find? (·.text = Text.toUpper name)

end HttpMethod

/-- What fires an event rule. -/
inductive RuleSource where
  /-- Events that match a pattern. -/
  | pattern (value : Json)
  /-- A schedule expression. -/
  | schedule (expression : String)
  deriving DecidableEq

/-- Options of an HTTP endpoint. -/
structure WebhookOptions where
  /-- Method that is answered. -/
  method : HttpMethod
  /-- Responses that the method declares. -/
  methodResponses : List Json
  /-- Fields of the gateway integration that the caller sets. -/
  integration : OrderedMap Json
  /-- Requests need a key. -/
  apiKey : Bool
  deriving DecidableEq

/-- What invokes a function. -/
inductive Trigger where
  /-- A topic to which the function is subscribed. -/
  | topic
  /-- An event rule. -/
  | rule (source : RuleSource)
  /-- An HTTP endpoint behind a gateway. -/
  | webhook (options : WebhookOptions)
  deriving DecidableEq

/-- Key under which rules of a source are declared. -/
def RuleSource.kind : RuleSource → String
  | pattern _ => "cloudwatchEvent"
  | schedule _ => "schedule"

namespace WebhookOptions

/-- A response with a status code and an empty model. -/
def emptyResponse (status : String) : Json :=
  .object [
    ("StatusCode", status),
    ("ResponseModels", .object [("application/json", "Empty")])
  ]

/-- Responses of a method that declares none. -/
def defaultMethodResponses : List Json :=
  [emptyResponse "200", emptyResponse "500"]

/-- The method of a method option. -/
def readMethod : Json → Except Failure HttpMethod
  | .string name =>
    match HttpMethod.ofText? name with
    | some method => .ok method
    | none => .error (.unsupportedMethod name)
  | value => .error (.unsupportedMethod value.compact)

/-- The responses of an options object. -/
def readMethodResponses (options : Json) : Except Failure (List Json) :=
  match options.truthyMember? "methodResponses" with
  | none => .ok defaultMethodResponses
  | some (.array responses) => .ok responses
  | some _ => .error .methodResponsesNotList

/-- The integration fields of an options object. -/
def readIntegration (options : Json) : Except Failure (OrderedMap Json) :=
  match options.truthyMember? "integration" with
  | none => .ok ∅
  | some (.object members) => .ok (.ofList members)
  | some _ => .error (.invalidOption "integration" "webhook integration must be an object")

/-- A key is asked for. -/
def readApiKey (options : Json) : Bool :=
  (options.truthyMember? "apiKey").isSome

/-- Webhook options: the method is checked first, then the responses, then the integration. -/
def read (options : Json) : Except Failure WebhookOptions := do
  let method ←
    match options.truthyMember? "method" with
    | none => .error (.missingField "method" "Webhook function method not found")
    | some value => readMethod value
  let methodResponses ← readMethodResponses options
  let integration ← readIntegration options
  return { method, methodResponses, integration, apiKey := readApiKey options }

end WebhookOptions

namespace Trigger

/-- Key under which a trigger is declared. -/
def kind : Trigger → String
  | topic => "sns"
  | rule source => source.kind
  | webhook _ => "webhook"

/-- The trigger is an HTTP endpoint. -/
def isWebhook : Trigger → Bool
  | webhook _ => true
  | _ => false

/-- The pattern of an options object. -/
def readPattern (options : Json) : Except Failure RuleSource :=
  match options.truthyMember? "eventPattern" with
  | none => .error (.missingField "eventPattern" "eventPattern required for cloudwatch event")
  | some value => .ok (.pattern value)

/-- The schedule of an options object. -/
def readSchedule (options : Json) : Except Failure RuleSource :=
  match options.truthyMember? "expression" with
  | none =>
    .error (.missingField "expression" "scheduled function expression cannot be undefined")
  | some (.string expression) => .ok (.schedule expression)
  | some _ => .error (.invalidOption "expression" "schedule expression must be a string")

/-- The trigger of a kind and its options. -/
def read (kind : String) (options : Json) : Except Failure Trigger :=
  match kind with
  | "sns" => .ok topic
  | "cloudwatchEvent" => (readPattern options).map rule
  | "schedule" => (readSchedule options).map rule
  | "webhook" => (WebhookOptions.read options).map webhook
  | kind => .error (.unknownTrigger kind)

end Trigger

/-- The triggers of a spec, in order; a spec that declares none has a topic. -/
def FunctionSpec.triggers (spec : FunctionSpec) : Except Failure (List Trigger) :=
  match spec.eventSources with
  | none => .ok [.topic]
  | some sources =>
    if sources.isEmpty then .ok [.topic]
    else sources.entries.mapM fun source => Trigger.read source.1 source.2

end LambdaStack

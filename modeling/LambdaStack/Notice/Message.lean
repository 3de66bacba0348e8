import LambdaStack.Json.Mismatch

/-!
# Messages

A notice that a running function raises, and its JSON form: an object whose members are visited in
their order, or a list of the field values in order of declaration.
-/

namespace LambdaStack

/-- A notice raised by a running function. -/
structure Message where
  /-- What the notice is about. -/
  subject : String
  /-- A short account for human readers. -/
  summary : String
  /-- What happened, as data. -/
  event : Json
  /-- Topic to which the notice is addressed. -/
  topic : Option String := none
  deriving DecidableEq

namespace Message

/-- Keys of the fields, in order of declaration. -/
def fieldKeys : List String :=
  ["subject", "summary", "event", "topic"]

/-- The object of a message, without a topic that is not set. -/
def toJson (message : Message) : Json :=
  .object <|
    [("subject", .string message.subject), ("summary", .string message.summary),
      ("event", message.event)] ++
    message.topic.toList.map fun topic => ("topic", Json.string topic)

/-- The fields of a message that have been read. -/
structure Draft where
  /-- The subject, once read. -/
  subject : Option String := none
  /-- The summary, once read. -/
  summary : Option String := none
  /-- The event, once read. -/
  event : Option Json := none
  /-- The topic, once read. -/
  topic : Option String := none

namespace Draft

/-- Set the field of a key; other keys are ignored. -/
def decodeField (draft : Draft) (field : String × Json) : Except Mismatch Draft :=
  match field.1 with
  | "subject" => field.2.decodeText.map fun subject => { draft with subject := some subject }
  | "summary" => field.2.decodeText.map fun summary => { draft with summary := some summary }
  | "event" => .ok { draft with event := some field.2 }
  | "topic" => (field.2.decodeOptional Json.decodeText).map fun topic => { draft with topic }
  | _ => .ok draft

/-- The message of a draft, or what is said of the first required field that was not read. -/
def finish (missing : String → Mismatch) (draft : Draft) : Except Mismatch Message :=
  match draft.subject, draft.summary, draft.event with
  | none, _, _ => .error (missing "subject")
  | _, none, _ => .error (missing "summary")
  | _, _, none => .error (missing "event")
  | some subject, some summary, some event =>
    .ok { subject, summary, event, topic := draft.topic }

end Draft

/-- The message that an object or a list of field values stands for. -/
def decode : Json → Except Mismatch Message
  | .object members => do
    let draft ← members.foldlM Draft.decodeField {}
    draft.finish .missing
  | .array items => do
    let draft ← (fieldKeys.zip items).foldlM Draft.decodeField {}
    let message ← draft.finish fun _ =>
      .length items.length "struct Message with 4 elements"
    if fieldKeys.length < items.length then
      .error (.length items.length "fewer elements in array")
    else return message
  | value => .error (.type value "struct Message")

end Message
end LambdaStack

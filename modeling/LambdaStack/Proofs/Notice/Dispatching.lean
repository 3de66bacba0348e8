import LambdaStack.Proofs.Json.RoundTrip
import LambdaStack.Proofs.Notice.Environment

/-!
# Dispatched messages

Out of test mode a message goes to the dispatch topic as JSON text, from which it is read back
whole: nothing of it changes but its topic, which is now the one that it was dispatched to. The
object of a message adds one level to the nesting of its event.
-/

namespace LambdaStack
namespace Message

/-- A message is decoded from its object. -/
theorem decode_toJson (message : Message) : decode message.toJson = .ok message := by
  obtain ⟨subject, summary, event, topic⟩ := message
  cases topic <;> rfl

theorem wellFormed_toJson {message : Message} (well_formed : message.event.WellFormed) :
    message.toJson.WellFormed := by
  obtain ⟨subject, summary, event, topic⟩ := message
  have distinct : fieldKeys.Nodup := by decide
  cases topic with
  | none =>
      exact ⟨distinct.sublist (List.dropLast_sublist fieldKeys), trivial, trivial, well_formed,
        trivial⟩
  | some => exact ⟨distinct, trivial, trivial, well_formed, trivial, trivial⟩

theorem integral_toJson {message : Message} (integral : message.event.Integral) :
    message.toJson.Integral := by
  obtain ⟨subject, summary, event, topic⟩ := message
  cases topic with
  | none => exact ⟨trivial, trivial, integral, trivial⟩
  | some => exact ⟨trivial, trivial, integral, trivial, trivial⟩

theorem depth_toJson (message : Message) : message.toJson.depth = message.event.depth + 1 := by
  obtain ⟨subject, summary, event, topic⟩ := message
  cases topic <;> simp [toJson, Json.depth, Json.depthOfMembers]

/-- A message is read back from its text. -/
theorem read_toJson {message : Message} (well_formed : message.event.WellFormed)
    (integral : message.event.Integral) (depth_le : message.event.depth < Json.nestingLimit) :
    Json.read message.toJson.compact = .ok message.toJson := by
  have object_depth_le : message.toJson.depth ≤ Json.nestingLimit := by
    rw [depth_toJson]
    exact depth_le
  exact Json.read_compact (wellFormed_toJson well_formed) (integral_toJson integral)
    object_depth_le

/-- A dispatched message is read back with the topic that it was dispatched to, whatever topic it
was addressed to before. -/
theorem decode_dispatched {message : Message} {environment : RoutingEnvironment} {topic : String}
    (published : environment.testMode = false)
    (topic_eq : environment.dispatchTopic = some topic)
    (well_formed : message.event.WellFormed) (integral : message.event.Integral)
    (depth_le : message.event.depth ≤ 126) :
    ∃ body value, message.route environment = .ok (.dispatch topic body) ∧
      Json.read body = .ok value ∧ decode value = .ok { message with topic := some topic } := by
  have routed := message.route_of_dispatchTopic published topic_eq
  have read : Json.read { message with topic := some topic }.toJson.compact =
      .ok { message with topic := some topic }.toJson :=
    read_toJson well_formed integral (Nat.lt_succ_of_le depth_le)
  exact ⟨_, _, routed, read, decode_toJson _⟩

/-- A message with every kind of escape, a character of two UTF-16 units and a topic of its own. -/
def outcry : Message where
  subject := "\"quoted\"\\\x08\x0c\n\r\t\x01\x1f\x7f"
  summary := "snow ☃, clef 𝄞"
  event := .object
    [("zeta\u0000", .array [.number (.integer (-0x8000000000000000) (by decide)), .null,
      .object [("", .bool false)], .array []]),
     ("alpha", .number (.integer 0xffffffffffffffff (by decide)))]
  topic := some "elsewhere"

theorem outcry_decode_dispatched :
    outcry.event.WellFormed ∧ outcry.event.Integral ∧ outcry.event.depth = 3 ∧
    ∃ body value,
      outcry.route { dispatchTopic := some "arn:aws:sns:us-east-1:123456789012:dispatch" } =
        .ok (.dispatch "arn:aws:sns:us-east-1:123456789012:dispatch" body) ∧
      Json.read body = .ok value ∧
      decode value =
        .ok { outcry with topic := some "arn:aws:sns:us-east-1:123456789012:dispatch" } :=
  have well_formed : outcry.event.WellFormed := by
    simp [outcry, Json.WellFormed, Json.WellFormedMembers, Json.WellFormedItems]
  have integral : outcry.event.Integral := by
    simp [outcry, Json.Integral, Json.IntegralMembers, Json.IntegralItems]
  ⟨well_formed, integral, rfl,
    decode_dispatched rfl rfl well_formed integral (by decide)⟩

end Message
end LambdaStack

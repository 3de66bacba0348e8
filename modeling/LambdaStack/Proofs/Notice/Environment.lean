import LambdaStack.Proofs.Notice.Sending
import LambdaStack.Proofs.Notice.Variables

/-!
# The environment of routing

What routing reads off a list of variables in which no name occurs twice: each topic is the value
under its name, unless empty, and test mode needs its variable. Out of test mode the dispatch topic
decides alone, and a message that names no topic goes to that of alarms.
-/

namespace LambdaStack
namespace RoutingEnvironment

variable {bindings : List (String × String)}

theorem valuesOf_of_not_mem {name : String} (absent : name ∉ Entries.keys bindings) :
    valuesOf name bindings = [] := by
  rw [← List.length_eq_zero_iff, length_valuesOf]
  exact List.count_eq_zero_of_not_mem absent

theorem valuesOf_of_nodup (nodup : (Entries.keys bindings).Nodup) (name : String) :
    valuesOf name bindings = (bindings.lookup name).toList := by
  induction bindings with
  | nil => rfl
  | cons binding rest ih =>
      obtain ⟨key, value⟩ := binding
      simp only [Entries.keys_cons, List.nodup_cons] at nodup
      by_cases same : key = name
      · subst same
        have rest_eq := valuesOf_of_not_mem nodup.1
        rw [valuesOf] at rest_eq ⊢
        simp [rest_eq]
      · have differ : (name == key) = false := by simpa using Ne.symm same
        have rest_eq := ih nodup.2
        rw [valuesOf] at rest_eq ⊢
        simp [same, List.lookup_cons, differ, rest_eq]

theorem lastTopic?_of_nodup (nodup : (Entries.keys bindings).Nodup) (name : String) :
    lastTopic? name bindings = (bindings.lookup name).filter (· ≠ "") := by
  rw [lastTopic?, valuesOf_of_nodup nodup]
  cases bindings.lookup name with
  | none => rfl
  | some value => by_cases empty : value = "" <;> simp [Option.filter, empty]

theorem dispatchTopic_ofVariables (nodup : (Entries.keys bindings).Nodup) :
    (ofVariables bindings).dispatchTopic =
      (bindings.lookup "DispatchSnsArn").filter (· ≠ "") := by
  rw [dispatchTopic_eq_lastTopic?, lastTopic?_of_nodup nodup]

theorem alarmTopic_ofVariables (nodup : (Entries.keys bindings).Nodup) :
    (ofVariables bindings).alarmTopic =
      (bindings.lookup "ServiceAlarmSNSTopic").filter (· ≠ "") := by
  rw [alarmTopic_eq_lastTopic?, lastTopic?_of_nodup nodup]

theorem testMode_ofVariables (absent : "STACKFN_ENV" ∉ Entries.keys bindings) :
    (ofVariables bindings).testMode = false := by
  rw [testMode_eq_lastValue?, lastValue?, valuesOf_of_not_mem absent]
  rfl

end RoutingEnvironment

namespace Message

theorem route_of_dispatchTopic (message : Message) {environment : RoutingEnvironment}
    {topic : String} (published : environment.testMode = false)
    (topic_eq : environment.dispatchTopic = some topic) :
    message.route environment =
      .ok (.dispatch topic { message with topic := some topic }.toJson.compact) :=
  route_of_routed (.dispatch published topic_eq)

theorem dispatchTopic_of_route {message : Message} {environment : RoutingEnvironment}
    {topic body : String} (route_ok : message.route environment = .ok (.dispatch topic body)) :
    environment.dispatchTopic = some topic := by
  cases route_eq_iff.mp route_ok with
  | dispatch _ dispatched => exact dispatched

theorem route_of_alarmTopic {message : Message} {environment : RoutingEnvironment}
    {topic : String} (published : environment.testMode = false)
    (undispatched : environment.dispatchTopic = none) (unnamed : message.topic.getD "" = "")
    (topic_eq : environment.alarmTopic = some topic) :
    message.route environment = .ok (.alert topic message.subject message.alertBody) := by
  have unnamed_cases : message.topic = none ∨ message.topic = some "" := by
    cases topic_given : message.topic with
    | none => exact .inl rfl
    | some given => exact .inr (by simpa [topic_given] using unnamed)
  exact route_of_routed (.alarm published undispatched unnamed_cases topic_eq)

end Message
end LambdaStack

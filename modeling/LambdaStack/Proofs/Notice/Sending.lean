import LambdaStack.Notice.Publishing
import Mathlib.Tactic.SplitIfs

/-!
# Sending messages

One decision settles where a message goes, and sending follows it: a message that is dispatched or
alerted costs one request with the topic and the text of its route, any other message costs none,
and the answer to the request is passed on. A run of sends therefore asks for the requests of its
routes, in their order, however the publisher answers.
-/

namespace LambdaStack
namespace Message

/-- What is decided about a message in an environment. -/
inductive Routed (message : Message) (environment : RoutingEnvironment) :
    Except Failure Route → Prop
  /-- In test mode it is handed back as it is. -/
  | echo (testing : environment.testMode = true) :
    Routed message environment (.ok (.echo message))
  /-- Else it goes to the dispatch topic if there is one, which it then names as its own. -/
  | dispatch (live : environment.testMode = false) {topic : String}
    (dispatched : environment.dispatchTopic = some topic) :
    Routed message environment
      (.ok (.dispatch topic { message with topic := some topic }.toJson.compact))
  /-- Else it goes to the topic that it names. -/
  | named (live : environment.testMode = false) (undispatched : environment.dispatchTopic = none)
    {topic : String} (given : message.topic = some topic) (nonempty : topic ≠ "") :
    Routed message environment
      (.ok (.alert topic message.subject (message.summary ++ "\n\n" ++ message.event.pretty)))
  /-- Else it goes to the topic of alarms. -/
  | alarm (live : environment.testMode = false) (undispatched : environment.dispatchTopic = none)
    (unnamed : message.topic = none ∨ message.topic = some "") {topic : String}
    (alarmed : environment.alarmTopic = some topic) :
    Routed message environment
      (.ok (.alert topic message.subject (message.summary ++ "\n\n" ++ message.event.pretty)))
  /-- Else there is nowhere to go. -/
  | nowhere (live : environment.testMode = false) (undispatched : environment.dispatchTopic = none)
    (unnamed : message.topic = none ∨ message.topic = some "")
    (unalarmed : environment.alarmTopic = none) :
    Routed message environment
      (.error (.missingField "topic" "no topic given and ServiceAlarmSNSTopic is not set"))

variable {message : Message} {environment : RoutingEnvironment}

theorem alertTopic?_of_named {topic : String} (given : message.topic = some topic)
    (nonempty : topic ≠ "") : message.alertTopic? environment = some topic := by
  simp [alertTopic?, given, nonempty]

theorem alertTopic?_of_unnamed (unnamed : message.topic = none ∨ message.topic = some "") :
    message.alertTopic? environment = environment.alarmTopic := by
  rcases unnamed with absent | empty
  · simp [alertTopic?, absent]
  · simp [alertTopic?, empty, Option.filter]

theorem named_or_unnamed (message : Message) :
    (∃ topic, message.topic = some topic ∧ topic ≠ "") ∨
      message.topic = none ∨ message.topic = some "" := by
  cases topic_eq : message.topic with
  | none => exact .inr (.inl rfl)
  | some topic =>
      by_cases empty : topic = ""
      · exact .inr (.inr (empty ▸ rfl))
      · exact .inl ⟨topic, rfl, empty⟩

/-- The route is what is decided. -/
theorem route_of_routed {outcome : Except Failure Route}
    (routed : Routed message environment outcome) : message.route environment = outcome := by
  cases routed with
  | echo testing => rw [route, if_pos testing]
  | dispatch live dispatched => simp [route, live, dispatched]
  | named live undispatched given nonempty =>
      simp [route, live, undispatched, alertTopic?_of_named given nonempty, alertBody]
  | alarm live undispatched unnamed alarmed =>
      simp [route, live, undispatched, alertTopic?_of_unnamed unnamed, alarmed, alertBody]
  | nowhere live undispatched unnamed unalarmed =>
      simp [route, live, undispatched, alertTopic?_of_unnamed unnamed, unalarmed]

/-- Something is decided about every message. -/
theorem exists_routed (message : Message) (environment : RoutingEnvironment) :
    ∃ outcome, Routed message environment outcome := by
  cases testing : environment.testMode with
  | true => exact ⟨_, .echo testing⟩
  | false =>
      cases dispatched : environment.dispatchTopic with
      | some topic => exact ⟨_, .dispatch testing dispatched⟩
      | none =>
          rcases message.named_or_unnamed with ⟨topic, given, nonempty⟩ | unnamed
          · exact ⟨_, .named testing dispatched given nonempty⟩
          · cases alarmed : environment.alarmTopic with
            | some topic => exact ⟨_, .alarm testing dispatched unnamed alarmed⟩
            | none => exact ⟨_, .nowhere testing dispatched unnamed alarmed⟩

theorem route_eq_iff {outcome : Except Failure Route} :
    message.route environment = outcome ↔ Routed message environment outcome := by
  refine ⟨?_, route_of_routed⟩
  rintro rfl
  obtain ⟨outcome, routed⟩ := message.exists_routed environment
  exact (route_of_routed routed).symm ▸ routed

end Message

/-- The request that follows from a route. -/
def Route.request? : Route → Option PublishRequest
  | echo _ => none
  | dispatch topic body => some { topic, subject := none, body }
  | alert topic subject body => some { topic, subject := some subject, body }

/-- The request that is made when a message is sent. -/
def Message.request? (message : Message) (environment : RoutingEnvironment) :
    Option PublishRequest :=
  match message.route environment with
  | .ok route => route.request?
  | .error _ => none

section Sending

variable {m : Type → Type} [Monad m]

/-- A publisher that keeps the requests it gets, and answers them like another one. -/
def recorded (publish : PublishRequest → m (Except Failure String)) (request : PublishRequest) :
    StateT (List PublishRequest) m (Except Failure String) := do
  modify (· ++ [request])
  publish request

/-- Send messages one after the other, each in an environment of its own. -/
def sendAll (publish : PublishRequest → m (Except Failure String))
    (sends : List (Message × RoutingEnvironment)) : m (List (Except Failure Delivery)) :=
  sends.mapM fun (message, environment) => message.send publish environment

/-- The requests of a run of sends. -/
def requestsOf (sends : List (Message × RoutingEnvironment)) : List PublishRequest :=
  sends.filterMap fun (message, environment) => message.request? environment

/-- What sending a message comes to, once some requests have been sent: at most one call of the
publisher, the outcome, and the requests that have been sent then. -/
inductive Sent (publish : PublishRequest → m (Except Failure String))
    (sent : List PublishRequest) (message : Message) (environment : RoutingEnvironment) :
    m (Except Failure Delivery × List PublishRequest) → Prop
  /-- A message that is handed back is not published. -/
  | echoed {returned : Message} (route_eq : message.route environment = .ok (.echo returned)) :
    Sent publish sent message environment (pure (.ok (.echoed returned), sent))
  /-- A dispatched text has no subject. -/
  | dispatched {topic body : String}
    (route_eq : message.route environment = .ok (.dispatch topic body)) :
    Sent publish sent message environment
      ((fun answer => (answer.map .published, sent ++ [⟨topic, none, body⟩])) <$>
        publish ⟨topic, none, body⟩)
  /-- An alert has a subject. -/
  | alerted {topic subject body : String}
    (route_eq : message.route environment = .ok (.alert topic subject body)) :
    Sent publish sent message environment
      ((fun answer => (answer.map .published, sent ++ [⟨topic, some subject, body⟩])) <$>
        publish ⟨topic, some subject, body⟩)
  /-- A message that goes nowhere is not published. -/
  | refused {failure : Failure} (route_eq : message.route environment = .error failure) :
    Sent publish sent message environment (pure (.error failure, sent))

variable [LawfulMonad m] (publish : PublishRequest → m (Except Failure String))

theorem run_recorded (request : PublishRequest) (sent : List PublishRequest) :
    (recorded publish request).run sent =
      (fun answer => (answer, sent ++ [request])) <$> publish request := by
  simp [recorded]

theorem sent_run_send (sent : List PublishRequest) (message : Message)
    (environment : RoutingEnvironment) :
    Sent publish sent message environment
      ((message.send (recorded publish) environment).run sent) := by
  cases route_eq : message.route environment with
  | error failure =>
      rw [Message.send, route_eq]
      exact .refused route_eq
  | ok route =>
      cases route with
      | echo returned =>
          rw [Message.send, route_eq]
          exact .echoed route_eq
      | dispatch topic body =>
          have run_eq : (message.send (recorded publish) environment).run sent =
              (fun answer => (answer.map .published, sent ++ [⟨topic, none, body⟩])) <$>
                publish ⟨topic, none, body⟩ := by
            simp [Message.send, route_eq, Route.request, run_recorded]
          exact run_eq ▸ .dispatched route_eq
      | alert topic subject body =>
          have run_eq : (message.send (recorded publish) environment).run sent =
              (fun answer => (answer.map .published, sent ++ [⟨topic, some subject, body⟩])) <$>
                publish ⟨topic, some subject, body⟩ := by
            simp [Message.send, route_eq, Route.request, run_recorded]
          exact run_eq ▸ .alerted route_eq

/-- Keeping the requests changes no answer, and what is kept is the request of the message. -/
theorem run_send_recorded (sent : List PublishRequest) (message : Message)
    (environment : RoutingEnvironment) :
    (message.send (recorded publish) environment).run sent =
      (fun outcome => (outcome, sent ++ (message.request? environment).toList)) <$>
        message.send publish environment := by
  cases route_eq : message.route environment with
  | error failure => simp [Message.send, Message.request?, route_eq]
  | ok route =>
      cases route <;>
        simp [Message.send, Message.request?, route_eq, Route.request, Route.request?, run_recorded]

theorem requestsOf_cons (message : Message) (environment : RoutingEnvironment)
    (rest : List (Message × RoutingEnvironment)) :
    requestsOf ((message, environment) :: rest) =
      (message.request? environment).toList ++ requestsOf rest := by
  cases found : message.request? environment <;> simp [requestsOf, found]

theorem sendAll_cons (message : Message) (environment : RoutingEnvironment)
    (rest : List (Message × RoutingEnvironment)) :
    sendAll publish ((message, environment) :: rest) =
      message.send publish environment >>= fun outcome =>
        (outcome :: ·) <$> sendAll publish rest := by
  simp [sendAll]

/-- A run asks for the requests of its routes, in their order, and for nothing else. -/
theorem run_sendAll_recorded (sends : List (Message × RoutingEnvironment))
    (sent : List PublishRequest) :
    (sendAll (recorded publish) sends).run sent =
      (fun outcomes => (outcomes, sent ++ requestsOf sends)) <$> sendAll publish sends := by
  induction sends generalizing sent with
  | nil => simp [sendAll, requestsOf]
  | cons send rest ih =>
      obtain ⟨message, environment⟩ := send
      simp [sendAll_cons, run_send_recorded, ih, requestsOf_cons]

/-- In test mode every message of a run is handed back. -/
theorem sendAll_of_testMode {sends : List (Message × RoutingEnvironment)}
    (testing : ∀ send ∈ sends, send.2.testMode = true) :
    sendAll publish sends = pure (sends.map fun send => .ok (.echoed send.1)) ∧
      requestsOf sends = [] := by
  induction sends with
  | nil => exact ⟨by simp [sendAll], rfl⟩
  | cons send rest ih =>
      obtain ⟨message, environment⟩ := send
      obtain ⟨first_testing, rest_testing⟩ := List.forall_mem_cons.mp testing
      obtain ⟨rest_eq, none_requested⟩ := ih rest_testing
      have routed : message.route environment = .ok (.echo message) :=
        Message.route_of_routed (.echo first_testing)
      constructor
      · simp [sendAll_cons, Message.send, routed, Route.request, rest_eq]
      · simp [requestsOf_cons, none_requested, Message.request?, routed, Route.request?]

/-- Messages are sent as they are routed. Where a message goes is settled by one decision; sending
it costs at most the one request of its route, whose answer is passed on; and a run of sends makes
the requests of its routes in their order, none at all in test mode. -/
theorem sent_as_routed (sends : List (Message × RoutingEnvironment)) (sent : List PublishRequest) :
    (∀ message environment outcome,
      Message.route message environment = outcome ↔
        Message.Routed message environment outcome) ∧
    (∀ message environment,
      Sent publish sent message environment
        ((message.send (recorded publish) environment).run sent)) ∧
    (sendAll (recorded publish) sends).run sent =
      (fun outcomes => (outcomes, sent ++ requestsOf sends)) <$> sendAll publish sends ∧
    ((∀ send ∈ sends, send.2.testMode = true) →
      (sendAll (recorded publish) sends).run sent =
        pure (sends.map fun send => .ok (.echoed send.1), sent)) := by
  refine ⟨fun _ _ _ => Message.route_eq_iff, sent_run_send publish sent,
    run_sendAll_recorded publish sends sent, ?_⟩
  intro testing
  obtain ⟨handed_back, none_requested⟩ := sendAll_of_testMode publish testing
  rw [run_sendAll_recorded, handed_back, none_requested]
  simp

end Sending

/-- A message without a topic of its own. -/
def diskFull : Message where
  subject := "Disk full"
  summary := "Volume at 99%"
  event := .string "vol-1"

/-- The message in test mode, with a dispatch topic, with a topic of alarms, and with none. -/
def diskSends : List (Message × RoutingEnvironment) :=
  [(diskFull, { testMode := true, dispatchTopic := some "arn:dispatch" }),
    (diskFull, { dispatchTopic := some "arn:dispatch", alarmTopic := some "arn:alarm" }),
    (diskFull, { alarmTopic := some "arn:alarm" }),
    (diskFull, {})]

theorem diskSends_sent_as_routed :
    requestsOf diskSends =
      [⟨"arn:dispatch", none,
        { diskFull with topic := some "arn:dispatch" }.toJson.compact⟩,
        ⟨"arn:alarm", some "Disk full", "Volume at 99%\n\n\"vol-1\""⟩] ∧
    (sendAll (recorded Outbox.publish) diskSends).run [] =
      (fun outcomes => (outcomes, requestsOf diskSends)) <$> sendAll Outbox.publish diskSends ∧
    (sendAll Outbox.publish diskSends).run {} =
      ([.ok (.echoed diskFull), .ok (.published "msg-1"), .ok (.published "msg-2"),
        .error (.missingField "topic" "no topic given and ServiceAlarmSNSTopic is not set")],
        { sent := requestsOf diskSends }) ∧
    (∀ send ∈ diskSends.take 1, send.2.testMode = true) ∧
    (sendAll (recorded Outbox.publish) (diskSends.take 1)).run [] =
      pure ([.ok (.echoed diskFull)], []) :=
  have testing : ∀ send ∈ diskSends.take 1, send.2.testMode = true := by decide
  ⟨by decide +kernel, (sent_as_routed Outbox.publish diskSends []).2.2.1, rfl, testing,
    (sent_as_routed Outbox.publish (diskSends.take 1) []).2.2.2 testing⟩

end LambdaStack

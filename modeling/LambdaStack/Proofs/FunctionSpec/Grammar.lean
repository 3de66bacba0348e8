import LambdaStack.Proofs.FunctionSpec.Reading

/-!
# The grammar of triggers and destinations

What an event source or a destination says, as a relation between its options and what they denote,
and what its options are refused for. Options are JSON of any type: those that are not objects give
nothing, and a member that is unset counts as left out. Reading a spec accepts just what denotes
something, item by item and in order, and else reports the first item that denotes nothing.
-/

namespace LambdaStack

variable {α β : Type}

/-- A list is read item by item. It is accepted when each item denotes something, as what the items
denote in their order, and else it is refused for the first item that denotes nothing. -/
structure ReadInOrder (denotes : α → β → Prop) (refuses : α → Failure → Prop) (items : List α)
    (outcome : Except Failure (List β)) : Prop where
  /-- Every list is accepted whose items denote something. -/
  accepted : (∃ results, outcome = .ok results) ↔ ∀ item ∈ items, ∃ result, denotes item result
  /-- The result has what each item denotes, and nothing else. -/
  denoted : ∀ results, outcome = .ok results ↔ List.Forall₂ denotes items results
  /-- The first item counts that denotes nothing. -/
  refused : ∀ failure, outcome = .error failure ↔
    ∃ front item back, items = front ++ item :: back ∧
      (∀ earlier ∈ front, ∃ result, denotes earlier result) ∧ refuses item failure

theorem readInOrder_mapM {denotes : α → β → Prop} {refuses : α → Failure → Prop}
    {step : α → Except Failure β}
    (ok_iff : ∀ item result, step item = .ok result ↔ denotes item result)
    (error_iff : ∀ item failure, step item = .error failure ↔ refuses item failure)
    (items : List α) : ReadInOrder denotes refuses items (items.mapM step) where
  accepted := by simp only [mapM_isOk_iff, ok_iff]
  denoted := fun results => by simp only [mapM_eq_ok_iff, ok_iff]
  refused := fun failure => by simp only [mapM_eq_error_iff, ok_iff, error_iff]

namespace Json

variable {options value : Json} {key : String}

/-- Options are an object with a member that is set. -/
def Gives (options : Json) (key : String) (value : Json) : Prop :=
  ∃ members, options = .object members ∧ members.lookup key = some value ∧ value.isTruthy

/-- Options have no such member, or one that is unset, or are no object at all. -/
def LeavesOut (options : Json) (key : String) : Prop :=
  ∀ value, ¬options.Gives key value

theorem truthyMember?_eq_some_iff : options.truthyMember? key = some value ↔
    options.Gives key value := by
  cases options <;> simp [truthyMember?, member?, Gives, Option.filter_eq_some_iff]

theorem truthyMember?_eq_none_iff : options.truthyMember? key = none ↔ options.LeavesOut key := by
  simp only [Option.eq_none_iff_forall_ne_some, LeavesOut, ne_eq, truthyMember?_eq_some_iff]

end Json

namespace WebhookOptions

/-- Options name a method, in any case. -/
inductive DenotesMethod (options : Json) (method : HttpMethod) : Prop
  | named {name : String} (given : options.Gives "method" (.string name))
      (upper_eq : Text.toUpper name = method.text)

/-- The responses of a webhook that declares none. -/
def usualResponses : List Json :=
  [
    .object [
      ("StatusCode", "200"),
      ("ResponseModels", .object [("application/json", "Empty")])
    ],
    .object [
      ("StatusCode", "500"),
      ("ResponseModels", .object [("application/json", "Empty")])
    ]
  ]

/-- Options declare a list of responses, or none. -/
inductive DenotesResponses (options : Json) : List Json → Prop
  /-- They are declared. -/
  | declared {responses : List Json} (given : options.Gives "methodResponses" (.array responses)) :
      DenotesResponses options responses
  /-- There are the usual ones otherwise. -/
  | usual (absent : options.LeavesOut "methodResponses") :
      DenotesResponses options usualResponses

/-- Options declare fields of the integration, or none. -/
inductive DenotesIntegration (options : Json) : OrderedMap Json → Prop
  /-- They are declared. -/
  | declared {members : List (String × Json)}
      (given : options.Gives "integration" (.object members)) :
      DenotesIntegration options (.ofList members)
  /-- There are none otherwise. -/
  | none (absent : options.LeavesOut "integration") : DenotesIntegration options ∅

/-- Options denote a webhook. -/
structure Denotes (options : Json) (webhook : WebhookOptions) : Prop where
  /-- There is a method. -/
  method : DenotesMethod options webhook.method
  /-- The responses are a list if there are any. -/
  responses : DenotesResponses options webhook.methodResponses
  /-- The integration is an object if there is any. -/
  integration : DenotesIntegration options webhook.integration
  /-- A key is asked for by anything that is set. -/
  apiKey : webhook.apiKey ↔ ∃ value, options.Gives "apiKey" value

/-- What the method of a webhook is refused for. -/
inductive MethodRefused (options : Json) : Failure → Prop
  /-- There is none. -/
  | absent (absent : options.LeavesOut "method") :
      MethodRefused options (.missingField "method" "Webhook function method not found")
  /-- It is none of the seven. -/
  | unknown {name : String} (given : options.Gives "method" (.string name))
      (unknown : Text.toUpper name ∉
        ["GET", "HEAD", "PUT", "PATCH", "OPTIONS", "POST", "DELETE"]) :
      MethodRefused options (.unsupportedMethod name)
  /-- It is no text. -/
  | noText {value : Json} (given : options.Gives "method" value)
      (other : ∀ name, value ≠ .string name) :
      MethodRefused options (.unsupportedMethod value.compact)

/-- What the responses of a webhook are refused for. -/
inductive ResponsesRefused (options : Json) : Failure → Prop
  /-- They are no list. -/
  | noList {value : Json} (given : options.Gives "methodResponses" value)
      (other : ∀ responses, value ≠ .array responses) :
      ResponsesRefused options .methodResponsesNotList

/-- What the integration of a webhook is refused for. -/
inductive IntegrationRefused (options : Json) : Failure → Prop
  /-- It is no object. -/
  | noObject {value : Json} (given : options.Gives "integration" value)
      (other : ∀ members, value ≠ .object members) :
      IntegrationRefused options
        (.invalidOption "integration" "webhook integration must be an object")

/-- What the options of a webhook are refused for: the method before the responses, and these before
the integration. -/
inductive Refused (options : Json) (failure : Failure) : Prop
  | method (refused : MethodRefused options failure)
  | responses {method : HttpMethod} (method_denoted : DenotesMethod options method)
      (refused : ResponsesRefused options failure)
  | integration {method : HttpMethod} {responses : List Json}
      (method_denoted : DenotesMethod options method)
      (responses_denoted : DenotesResponses options responses)
      (refused : IntegrationRefused options failure)

variable {options : Json} {failure : Failure}

theorem readGivenMethod_eq_ok_iff {method : HttpMethod} :
    readGivenMethod options = .ok method ↔ DenotesMethod options method := by
  constructor
  · intro read_ok
    unfold readGivenMethod at read_ok
    split at read_ok
    · cases read_ok
    next value given =>
      unfold readMethod at read_ok
      split at read_ok
      · split at read_ok <;> cases read_ok
        next known =>
          exact ⟨Json.truthyMember?_eq_some_iff.mp given, HttpMethod.ofText?_eq_some_iff.mp known⟩
      · cases read_ok
  · rintro ⟨given, upper_eq⟩
    rw [readGivenMethod, Json.truthyMember?_eq_some_iff.mpr given]
    simp only [readMethod, HttpMethod.ofText?_eq_some_iff.mpr upper_eq]

theorem readGivenMethod_eq_error_iff :
    readGivenMethod options = .error failure ↔ MethodRefused options failure := by
  constructor
  · intro read_error
    unfold readGivenMethod at read_error
    split at read_error
    next absent =>
      cases read_error
      exact .absent (Json.truthyMember?_eq_none_iff.mp absent)
    next value given =>
      have given := Json.truthyMember?_eq_some_iff.mp given
      unfold readMethod at read_error
      split at read_error
      · split at read_error <;> cases read_error
        next unknown => exact .unknown given (HttpMethod.ofText?_eq_none_iff.mp unknown)
      next other =>
        cases read_error
        exact .noText given other
  · rintro (absent | ⟨given, unknown⟩ | @⟨value, given, other⟩)
    · rw [readGivenMethod, Json.truthyMember?_eq_none_iff.mpr absent]
    · rw [readGivenMethod, Json.truthyMember?_eq_some_iff.mpr given]
      simp only [readMethod, HttpMethod.ofText?_eq_none_iff.mpr unknown]
    · rw [readGivenMethod, Json.truthyMember?_eq_some_iff.mpr given]
      -- A set member of any other type than text has no upper case to compare.
      cases value with
      | string name => exact absurd rfl (other name)
      | null | bool | number | array | object => rfl

theorem readMethodResponses_eq_ok_iff {responses : List Json} :
    readMethodResponses options = .ok responses ↔ DenotesResponses options responses := by
  constructor
  · intro read_ok
    unfold readMethodResponses at read_ok
    split at read_ok <;> cases read_ok
    next absent => exact .usual (Json.truthyMember?_eq_none_iff.mp absent)
    next given => exact .declared (Json.truthyMember?_eq_some_iff.mp given)
  · rintro (given | absent)
    · rw [readMethodResponses, Json.truthyMember?_eq_some_iff.mpr given]
    · rw [readMethodResponses, Json.truthyMember?_eq_none_iff.mpr absent]
      rfl

theorem readMethodResponses_eq_error_iff :
    readMethodResponses options = .error failure ↔ ResponsesRefused options failure := by
  constructor
  · intro read_error
    unfold readMethodResponses at read_error
    split at read_error <;> cases read_error
    next other given => exact .noList (Json.truthyMember?_eq_some_iff.mp given) other
  · rintro @⟨value, given, other⟩
    rw [readMethodResponses, Json.truthyMember?_eq_some_iff.mpr given]
    cases value with
    | array responses => exact absurd rfl (other responses)
    | null | bool | number | string | object => rfl

theorem readIntegration_eq_ok_iff {integration : OrderedMap Json} :
    readIntegration options = .ok integration ↔ DenotesIntegration options integration := by
  constructor
  · intro read_ok
    unfold readIntegration at read_ok
    split at read_ok <;> cases read_ok
    next absent => exact .none (Json.truthyMember?_eq_none_iff.mp absent)
    next given => exact .declared (Json.truthyMember?_eq_some_iff.mp given)
  · rintro (given | absent)
    · rw [readIntegration, Json.truthyMember?_eq_some_iff.mpr given]
    · rw [readIntegration, Json.truthyMember?_eq_none_iff.mpr absent]

theorem readIntegration_eq_error_iff :
    readIntegration options = .error failure ↔ IntegrationRefused options failure := by
  constructor
  · intro read_error
    unfold readIntegration at read_error
    split at read_error <;> cases read_error
    next other given => exact .noObject (Json.truthyMember?_eq_some_iff.mp given) other
  · rintro @⟨value, given, other⟩
    rw [readIntegration, Json.truthyMember?_eq_some_iff.mpr given]
    cases value with
    | object members => exact absurd rfl (other members)
    | null | bool | number | string | array => rfl

theorem readApiKey_iff : readApiKey options ↔ ∃ value, options.Gives "apiKey" value := by
  simp only [readApiKey, Option.isSome_iff_exists, Json.truthyMember?_eq_some_iff]

theorem read_eq_ok_iff {webhook : WebhookOptions} :
    read options = .ok webhook ↔ Denotes options webhook := by
  simp only [read_eq_bind, bind_eq_ok_iff, readGivenMethod_eq_ok_iff,
    readMethodResponses_eq_ok_iff, readIntegration_eq_ok_iff]
  constructor
  · rintro ⟨method, method_denoted, responses, responses_denoted, integration,
      integration_denoted, ⟨⟩⟩
    exact ⟨method_denoted, responses_denoted, integration_denoted, readApiKey_iff⟩
  · rintro ⟨method_denoted, responses_denoted, integration_denoted, apiKey_iff⟩
    refine ⟨_, method_denoted, _, responses_denoted, _, integration_denoted, ?_⟩
    rw [← readApiKey_iff, ← Bool.eq_iff_iff] at apiKey_iff
    rw [← apiKey_iff]
    rfl

theorem read_eq_error_iff : read options = .error failure ↔ Refused options failure := by
  simp only [read_eq_bind, bind_eq_error_iff, readGivenMethod_eq_ok_iff,
    readGivenMethod_eq_error_iff, readMethodResponses_eq_ok_iff, readMethodResponses_eq_error_iff,
    readIntegration_eq_error_iff]
  constructor
  · rintro (refused | ⟨method, method_denoted, refused | ⟨responses, responses_denoted,
      refused | ⟨integration, -, returned⟩⟩⟩)
    · exact .method refused
    · exact .responses method_denoted refused
    · exact .integration method_denoted responses_denoted refused
    · cases returned
  · rintro (refused | ⟨method_denoted, refused⟩ | ⟨method_denoted, responses_denoted, refused⟩)
    · exact .inl refused
    · exact .inr ⟨_, method_denoted, .inl refused⟩
    · exact .inr ⟨_, method_denoted, .inr ⟨_, responses_denoted, .inl refused⟩⟩

end WebhookOptions

namespace Trigger

/-- An event source of a kind denotes a trigger. -/
inductive Denotes : String → Json → Trigger → Prop
  /-- A topic takes any options. -/
  | topic {options : Json} : Denotes "sns" options .topic
  /-- A rule has a pattern. -/
  | pattern {options value : Json} (given : options.Gives "eventPattern" value) :
      Denotes "cloudwatchEvent" options (.rule (.pattern value))
  /-- A schedule has an expression that is a text. -/
  | schedule {options : Json} {expression : String}
      (given : options.Gives "expression" (.string expression)) :
      Denotes "schedule" options (.rule (.schedule expression))
  /-- A webhook has the options of one. -/
  | webhook {options : Json} {webhook : WebhookOptions}
      (denoted : WebhookOptions.Denotes options webhook) :
      Denotes "webhook" options (.webhook webhook)

/-- What an event source of a kind is refused for. -/
inductive Refused : String → Json → Failure → Prop
  /-- A rule has no pattern. -/
  | noPattern {options : Json} (absent : options.LeavesOut "eventPattern") :
      Refused "cloudwatchEvent" options
        (.missingField "eventPattern" "eventPattern required for cloudwatch event")
  /-- A schedule has no expression. -/
  | noExpression {options : Json} (absent : options.LeavesOut "expression") :
      Refused "schedule" options
        (.missingField "expression" "scheduled function expression cannot be undefined")
  /-- The expression of a schedule is no text. -/
  | expressionNotText {options value : Json} (given : options.Gives "expression" value)
      (other : ∀ expression, value ≠ .string expression) :
      Refused "schedule" options
        (.invalidOption "expression" "schedule expression must be a string")
  /-- A webhook is refused for its options. -/
  | webhook {options : Json} {failure : Failure}
      (refused : WebhookOptions.Refused options failure) : Refused "webhook" options failure
  /-- There is no such kind. -/
  | unknown {kind : String} {options : Json}
      (unknown : kind ∉ ["sns", "cloudwatchEvent", "schedule", "webhook"]) :
      Refused kind options (.unknownTrigger kind)

variable {kind : String} {options : Json}

theorem read_eq_ok_iff {trigger : Trigger} :
    read kind options = .ok trigger ↔ Denotes kind options trigger := by
  constructor
  · intro read_ok
    unfold read at read_ok
    split at read_ok
    · cases read_ok
      exact .topic
    · obtain ⟨source, source_ok, rfl⟩ := map_eq_ok_iff.mp read_ok
      unfold readPattern at source_ok
      split at source_ok <;> cases source_ok
      next given => exact .pattern (Json.truthyMember?_eq_some_iff.mp given)
    · obtain ⟨source, source_ok, rfl⟩ := map_eq_ok_iff.mp read_ok
      unfold readSchedule at source_ok
      split at source_ok <;> cases source_ok
      next given => exact .schedule (Json.truthyMember?_eq_some_iff.mp given)
    · obtain ⟨webhook, webhook_ok, rfl⟩ := map_eq_ok_iff.mp read_ok
      exact .webhook (WebhookOptions.read_eq_ok_iff.mp webhook_ok)
    · cases read_ok
  · rintro (_ | given | given | denoted)
    · rfl
    · simp only [read, readPattern, Json.truthyMember?_eq_some_iff.mpr given]
      rfl
    · simp only [read, readSchedule, Json.truthyMember?_eq_some_iff.mpr given]
      rfl
    · simp only [read, WebhookOptions.read_eq_ok_iff.mpr denoted]
      rfl

theorem read_eq_error_iff {failure : Failure} :
    read kind options = .error failure ↔ Refused kind options failure := by
  constructor
  · intro read_error
    unfold read at read_error
    split at read_error
    · cases read_error
    · rw [map_eq_error_iff, readPattern] at read_error
      split at read_error <;> cases read_error
      next absent => exact .noPattern (Json.truthyMember?_eq_none_iff.mp absent)
    · rw [map_eq_error_iff, readSchedule] at read_error
      split at read_error <;> cases read_error
      next absent => exact .noExpression (Json.truthyMember?_eq_none_iff.mp absent)
      next other given =>
        exact .expressionNotText (Json.truthyMember?_eq_some_iff.mp given) other
    · rw [map_eq_error_iff] at read_error
      exact .webhook (WebhookOptions.read_eq_error_iff.mp read_error)
    next not_topic not_pattern not_schedule not_webhook =>
      cases read_error
      exact .unknown (by simpa using ⟨not_topic, not_pattern, not_schedule, not_webhook⟩)
  · rintro (absent | absent | @⟨_, value, given, other⟩ | refused | unknown)
    · simp only [read, readPattern, Json.truthyMember?_eq_none_iff.mpr absent]
      rfl
    · simp only [read, readSchedule, Json.truthyMember?_eq_none_iff.mpr absent]
      rfl
    · simp only [read, readSchedule, Json.truthyMember?_eq_some_iff.mpr given]
      cases value with
      | string expression => exact absurd rfl (other expression)
      | null | bool | number | array | object => rfl
    · simp only [read, WebhookOptions.read_eq_error_iff.mpr refused]
      rfl
    · unfold read
      split
      iterate 4 exact absurd (by decide) unknown
      rfl

end Trigger

/-- A named entry of a group denotes a topic. -/
structure Destination.DenotesTopic (name : String) (options : Json) (topic : TopicDestination) :
    Prop where
  /-- The topic has the name of the entry. -/
  name_eq : topic.name = name
  /-- The name is a word of letters and digits. -/
  alphanumeric : isAlphanumeric name
  /-- A description is kept where the options are an object with a text for it. -/
  description : ∀ text, topic.description = some text ↔
    ∃ members, options = .object members ∧ members.lookup "Description" = some (.string text)

namespace Destination

/-- A destination of a kind denotes a group of topics. -/
inductive Denotes : String → Json → Destination → Prop
  /-- The members of an object denote one topic each, in their order. -/
  | topics {members : List (String × Json)} {topics : List TopicDestination}
      (denoted : List.Forall₂ (fun member topic => DenotesTopic member.1 member.2 topic)
        (OrderedMap.ofList members).entries topics) :
      Denotes "sns" (.object members) (.topics topics)
  /-- Null is a group without topics. -/
  | none : Denotes "sns" .null (.topics [])

/-- What a destination of a kind is refused for. -/
inductive Refused : String → Json → Failure → Prop
  /-- A name is no word of letters and digits, but all before it are. -/
  | name {members front back : List (String × Json)} {name : String} {options : Json}
      (entries_eq : (OrderedMap.ofList members).entries = front ++ (name, options) :: back)
      (alphanumeric : ∀ earlier ∈ front, isAlphanumeric earlier.1)
      (not_alphanumeric : ¬isAlphanumeric name) :
      Refused "sns" (.object members)
        (.invalidOption "destinations.sns" ("destination names must be alphanumeric: " ++ name))
  /-- The options are neither an object nor null. -/
  | noGroup {options : Json} (not_object : ∀ members, options ≠ .object members)
      (not_null : options ≠ .null) :
      Refused "sns" options
        (.invalidOption "destinations.sns" "expected a map of destination name to options")
  /-- There is no such kind. -/
  | unknown {kind : String} {options : Json} (unknown : kind ≠ "sns") :
      Refused kind options (.unknownDestination kind)

variable {kind name : String} {options : Json}

theorem bind_asString?_eq_some_iff {text : String} :
    (options.member? "Description").bind Json.asString? = some text ↔
      ∃ members, options = .object members ∧
        members.lookup "Description" = some (.string text) := by
  have asString?_iff (value : Json) : value.asString? = some text ↔ value = .string text := by
    cases value <;> simp [Json.asString?]
  cases options <;> simp [Json.member?, Option.bind_eq_some_iff, asString?_iff]

theorem readTopic_eq_ok_iff {topic : TopicDestination} :
    readTopic name options = .ok topic ↔ DenotesTopic name options topic := by
  constructor
  · intro read_ok
    unfold readTopic at read_ok
    split at read_ok <;> cases read_ok
    next alphanumeric => exact ⟨rfl, alphanumeric, fun _ => bind_asString?_eq_some_iff⟩
  · rintro ⟨rfl, alphanumeric, description⟩
    have description_eq : (options.member? "Description").bind Json.asString? =
        topic.description :=
      Option.ext fun text => bind_asString?_eq_some_iff.trans (description text).symm
    rw [readTopic, if_pos alphanumeric, description_eq]

theorem readTopic_isOk_iff :
    (∃ topic, readTopic name options = .ok topic) ↔ isAlphanumeric name := by
  unfold readTopic
  split
  next alphanumeric => simp [alphanumeric]
  next not_alphanumeric => simp [not_alphanumeric]

theorem readTopic_eq_error_iff {failure : Failure} :
    readTopic name options = .error failure ↔ ¬isAlphanumeric name ∧ failure =
      .invalidOption "destinations.sns" ("destination names must be alphanumeric: " ++ name) := by
  unfold readTopic
  split
  next alphanumeric => simp [alphanumeric]
  next not_alphanumeric => simp [not_alphanumeric, eq_comm]

theorem read_eq_ok_iff_denotes {destination : Destination} :
    read kind options = .ok destination ↔ Denotes kind options destination := by
  rw [read_eq_ok_iff]
  constructor
  · -- There is one kind of destination only, so it is its list of topics.
    obtain ⟨topics⟩ := destination
    rintro ⟨rfl, topics_ok⟩
    unfold readTopics at topics_ok
    split at topics_ok
    · simp only [mapM_eq_ok_iff, readTopic_eq_ok_iff] at topics_ok
      exact .topics topics_ok
    · cases topics_ok
      exact .none
    · cases topics_ok
  · rintro (denoted | _)
    · refine ⟨rfl, ?_⟩
      simpa only [entries, readTopics, mapM_eq_ok_iff, readTopic_eq_ok_iff] using denoted
    · exact ⟨rfl, rfl⟩

theorem readTopics_object_eq_error_iff {members : List (String × Json)} {failure : Failure} :
    readTopics (.object members) = .error failure ↔
      ∃ front name options back,
        (OrderedMap.ofList members).entries = front ++ (name, options) :: back ∧
        (∀ earlier ∈ front, isAlphanumeric earlier.1) ∧ ¬isAlphanumeric name ∧
        failure = .invalidOption "destinations.sns"
          ("destination names must be alphanumeric: " ++ name) := by
  simp only [readTopics, mapM_eq_error_iff, readTopic_isOk_iff, readTopic_eq_error_iff,
    Prod.exists]

theorem read_eq_error_iff {failure : Failure} :
    read kind options = .error failure ↔ Refused kind options failure := by
  constructor
  · intro read_error
    unfold read at read_error
    split at read_error
    · rw [map_eq_error_iff] at read_error
      cases options with
      | object members =>
          obtain ⟨front, name, options, back, entries_eq, alphanumeric, not_alphanumeric, rfl⟩ :=
            readTopics_object_eq_error_iff.mp read_error
          exact .name entries_eq alphanumeric not_alphanumeric
      | null => cases read_error
      | bool | number | string | array =>
          cases read_error
          exact .noGroup (by simp) (by simp)
    next unknown =>
      cases read_error
      exact .unknown unknown
  · rintro (⟨entries_eq, alphanumeric, not_alphanumeric⟩ | ⟨not_object, not_null⟩ | unknown)
    · rw [read, map_eq_error_iff]
      exact readTopics_object_eq_error_iff.mpr
        ⟨_, _, _, _, entries_eq, alphanumeric, not_alphanumeric, rfl⟩
    · rw [read, map_eq_error_iff]
      cases options with
      | object members => exact absurd rfl (not_object members)
      | null => exact absurd rfl not_null
      | bool | number | string | array => rfl
    · unfold read
      split
      · exact absurd rfl unknown
      · rfl

end Destination

namespace FunctionSpec

/-- The event sources that a spec declares. -/
def declaredSources (spec : FunctionSpec) : List (String × Json) :=
  (spec.eventSources.getD ∅).entries

/-- The destinations that a spec declares. -/
def declaredDestinations (spec : FunctionSpec) : List (String × Json) :=
  (spec.destinations.getD ∅).entries

theorem sources_eq (spec : FunctionSpec) : spec.sources =
    if spec.declaredSources = [] then [("sns", .null)] else spec.declaredSources := by
  unfold sources declaredSources
  cases spec.eventSources with
  | none => rfl
  | some declared => simp [OrderedMap.isEmpty]

/-- The triggers of a spec are what its event sources denote, in their order and each of the kind
under which it is declared, and a topic if it declares none. Its destinations are what the declared
ones denote. Either list is accepted just when every item denotes something, and otherwise refused
for the first item that does not. -/
theorem read_by_grammar (spec : FunctionSpec) :
    (spec.declaredSources = [] → spec.triggers = .ok [.topic]) ∧
    (spec.declaredSources ≠ [] →
      ReadInOrder (fun source => Trigger.Denotes source.1 source.2)
        (fun source => Trigger.Refused source.1 source.2) spec.declaredSources spec.triggers ∧
      ∀ triggers, spec.triggers = .ok triggers →
        triggers.map Trigger.kind = Entries.keys spec.declaredSources) ∧
    ReadInOrder (fun destination => Destination.Denotes destination.1 destination.2)
      (fun destination => Destination.Refused destination.1 destination.2)
      spec.declaredDestinations spec.readDestinations := by
  refine ⟨fun none_declared => ?_, fun declared => ⟨?_, fun triggers triggers_ok => ?_⟩, ?_⟩
  · rw [triggers_eq_mapM, sources_eq, if_pos none_declared]
    rfl
  · rw [triggers_eq_mapM, sources_eq, if_neg declared]
    exact readInOrder_mapM (fun _ _ => Trigger.read_eq_ok_iff)
      (fun _ _ => Trigger.read_eq_error_iff) _
  · rw [kinds_of_triggers triggers_ok, sources_eq, if_neg declared]
  · rw [readDestinations_eq_mapM]
    exact readInOrder_mapM (fun _ _ => Destination.read_eq_ok_iff_denotes)
      (fun _ _ => Destination.read_eq_error_iff) _

/-- A spec with several event sources and a group of two topics. -/
def manifold : FunctionSpec where
  name := "report"
  eventSources := some (.ofList [
    ("sns", "whatever"),
    ("webhook", .object [("method", "get"), ("methodResponses", ""), ("apiKey", "yes")]),
    ("schedule", .object [("expression", "rate(1 hour)")])
  ])
  destinations := some (.ofList [
    ("sns", .object [("operators", .object [("Description", "On call")]), ("archive", .null)])
  ])

/-- A spec with a webhook that has two faults, after a topic and before a rule with another one. -/
def misspelt : FunctionSpec where
  name := "report"
  eventSources := some (.ofList [
    ("sns", .null),
    ("webhook", .object [("methodResponses", "none"), ("method", "fetch")]),
    ("cloudwatchEvent", "daily")
  ])
  destinations := some (.ofList [
    ("sns", .object [("operators", .null), ("on-call", .null), ("", .null)])
  ])

theorem manifold_read_misspelt_refused :
    (manifold.triggers = .ok [
        .topic,
        .webhook ⟨.get, WebhookOptions.usualResponses, ∅, true⟩,
        .rule (.schedule "rate(1 hour)")
      ] ∧
      manifold.readDestinations = .ok [
        .topics [⟨"operators", some "On call"⟩, ⟨"archive", none⟩]
      ]) ∧
    misspelt.triggers = .error (.unsupportedMethod "fetch") ∧
    misspelt.readDestinations = .error (.invalidOption "destinations.sns"
      "destination names must be alphanumeric: on-call") := by
  obtain ⟨-, declared_sources, destinations⟩ := manifold.read_by_grammar
  obtain ⟨-, misspelt_sources, misspelt_destinations⟩ := misspelt.read_by_grammar
  refine ⟨⟨?_, ?_⟩, ?_, ?_⟩
  · refine ((declared_sources (by decide)).1.denoted _).mpr
      (.cons .topic (.cons (.webhook ?_) (.cons (.schedule ⟨_, rfl, rfl, rfl⟩) .nil)))
    exact {
      method := .named ⟨_, rfl, rfl, rfl⟩ (by decide)
      responses := .usual (Json.truthyMember?_eq_none_iff.mp rfl)
      integration := .none (Json.truthyMember?_eq_none_iff.mp rfl)
      apiKey := ⟨fun _ => ⟨"yes", _, rfl, rfl, rfl⟩, fun _ => rfl⟩
    }
  · refine (destinations.denoted _).mpr (.cons (.topics (.cons ?_ (.cons ?_ .nil))) .nil)
    · exact ⟨rfl, by decide, fun text => by simp [eq_comm]⟩
    · exact ⟨rfl, by decide, fun text => by simp⟩
  · refine ((misspelt_sources (by decide)).1.refused _).mpr
      ⟨[("sns", .null)], _, _, rfl, ?_, .webhook (.method (.unknown ⟨_, rfl, rfl, rfl⟩ ?_))⟩
    · rintro source (_ | ⟨_, ⟨⟩⟩)
      exact ⟨.topic, .topic⟩
    · decide
  · refine (misspelt_destinations.refused _).mpr ⟨[], _, _, rfl, nofun, ?_⟩
    have entries_eq : (OrderedMap.ofList
        [("operators", Json.null), ("on-call", .null), ("", .null)]).entries =
          [("operators", .null)] ++ ("on-call", .null) :: [("", .null)] := rfl
    exact .name entries_eq (by decide) (by decide)

end FunctionSpec
end LambdaStack

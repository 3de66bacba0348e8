import LambdaStack.FunctionSpec.Destination
import LambdaStack.FunctionSpec.Trigger
import LambdaStack.Proofs.Entries
import LambdaStack.Proofs.Steps

/-!
# Reading triggers and destinations

A trigger keeps the kind under which it is declared, so that the triggers of a spec are of distinct
kinds. The topics of a spec have distinct alphanumeric names, those under which they are declared.
-/

namespace LambdaStack

namespace HttpMethod

theorem ofText?_eq_some_iff {name : String} {method : HttpMethod} :
    ofText? name = some method ↔ Text.toUpper name = method.text := by
  constructor
  · intro found
    simpa [eq_comm] using List.find?_some found
  · intro upper_eq
    rw [ofText?, upper_eq]
    cases method <;> decide

theorem ofText?_eq_none_iff {name : String} : ofText? name = none ↔
    Text.toUpper name ∉ ["GET", "HEAD", "PUT", "PATCH", "OPTIONS", "POST", "DELETE"] := by
  have texts_eq : ["GET", "HEAD", "PUT", "PATCH", "OPTIONS", "POST", "DELETE"] =
      all.map text := rfl
  rw [texts_eq, ofText?, List.find?_eq_none]
  simp only [List.mem_map, decide_eq_true_eq, not_exists, not_and]

end HttpMethod

namespace WebhookOptions

/-- The method of an options object. -/
def readGivenMethod (options : Json) : Except Failure HttpMethod :=
  match options.truthyMember? "method" with
  | none => .error (.missingField "method" "Webhook function method not found")
  | some value => readMethod value

theorem read_eq_bind (options : Json) : read options = (do
    let method ← readGivenMethod options
    let methodResponses ← readMethodResponses options
    let integration ← readIntegration options
    return { method, methodResponses, integration, apiKey := readApiKey options }) := by
  unfold read readGivenMethod
  cases options.truthyMember? "method" <;> rfl

end WebhookOptions

namespace Trigger

theorem kind_of_read {kind : String} {options : Json} {trigger : Trigger}
    (read_ok : read kind options = .ok trigger) : trigger.kind = kind := by
  unfold read at read_ok
  split at read_ok
  · cases read_ok
    rfl
  · obtain ⟨source, source_ok, rfl⟩ := map_eq_ok_iff.mp read_ok
    unfold readPattern at source_ok
    split at source_ok <;> cases source_ok
    rfl
  · obtain ⟨source, source_ok, rfl⟩ := map_eq_ok_iff.mp read_ok
    unfold readSchedule at source_ok
    split at source_ok <;> cases source_ok
    rfl
  · obtain ⟨webhook, -, rfl⟩ := map_eq_ok_iff.mp read_ok
    rfl
  · cases read_ok

theorem isWebhook_iff_kind (trigger : Trigger) :
    trigger.isWebhook ↔ trigger.kind = "webhook" := by
  rcases trigger with _ | (_ | _) | _ <;> simp [isWebhook, kind, RuleSource.kind]

end Trigger

namespace FunctionSpec

/-- The event sources of a spec with their options. A spec that declares none has a topic. -/
def sources (spec : FunctionSpec) : List (String × Json) :=
  match spec.eventSources with
  | none => [("sns", .null)]
  | some declared => if declared.isEmpty then [("sns", .null)] else declared.entries

theorem triggers_eq_mapM (spec : FunctionSpec) :
    spec.triggers = spec.sources.mapM fun source => Trigger.read source.1 source.2 := by
  unfold triggers sources
  cases spec.eventSources with
  | none => rfl
  | some declared =>
      by_cases empty : declared.isEmpty
      · simp only [if_pos empty]
        rfl
      · simp only [if_neg empty]

theorem sources_ne_nil (spec : FunctionSpec) : spec.sources ≠ [] := by
  unfold sources
  split
  · simp
  next declared _ =>
    split
    · simp
    next nonempty => simpa [OrderedMap.isEmpty] using nonempty

theorem nodup_keys_sources (spec : FunctionSpec) : (Entries.keys spec.sources).Nodup := by
  unfold sources
  split
  · simp
  next declared _ =>
    split
    · simp
    · exact declared.nodup

/-- The triggers of a spec are of the kinds of its event sources. -/
theorem kinds_of_triggers {spec : FunctionSpec} {triggers : List Trigger}
    (triggers_eq : spec.triggers = .ok triggers) :
    triggers.map Trigger.kind = Entries.keys spec.sources := by
  rw [triggers_eq_mapM] at triggers_eq
  exact map_eq_of_mapM (fun _ _ => Trigger.kind_of_read) triggers_eq

/-- The triggers of a spec are of distinct kinds. -/
theorem nodup_kinds {spec : FunctionSpec} {triggers : List Trigger}
    (triggers_eq : spec.triggers = .ok triggers) : (triggers.map Trigger.kind).Nodup :=
  kinds_of_triggers triggers_eq ▸ spec.nodup_keys_sources

end FunctionSpec

namespace Destination

theorem name_of_readTopic {name : String} {options : Json} {topic : TopicDestination}
    (read_ok : readTopic name options = .ok topic) : topic.name = name := by
  unfold readTopic at read_ok
  split at read_ok <;> cases read_ok
  rfl

theorem isAlphanumeric_of_readTopic {name : String} {options : Json} {topic : TopicDestination}
    (read_ok : readTopic name options = .ok topic) : isAlphanumeric topic.name := by
  unfold readTopic at read_ok
  split at read_ok <;> cases read_ok
  assumption

/-- The names of the topics of an options object. -/
def topicNames : Json → List String
  | .object members => (OrderedMap.ofList members).keys
  | _ => []

theorem names_of_readTopics {options : Json} {topics : List TopicDestination}
    (read_ok : readTopics options = .ok topics) :
    topics.map TopicDestination.name = topicNames options := by
  unfold readTopics at read_ok
  split at read_ok
  · exact map_eq_of_mapM (fun _ _ => name_of_readTopic) read_ok
  · cases read_ok
    rfl
  · cases read_ok

theorem nodup_topicNames (options : Json) : (topicNames options).Nodup := by
  unfold topicNames
  split
  next members => exact (OrderedMap.ofList members).nodup
  · exact List.nodup_nil

theorem isAlphanumeric_of_readTopics {options : Json} {topics : List TopicDestination}
    (read_ok : readTopics options = .ok topics) : ∀ topic ∈ topics, isAlphanumeric topic.name := by
  unfold readTopics at read_ok
  split at read_ok
  next members =>
    intro topic mem
    obtain ⟨member, -, topic_ok⟩ := exists_of_mem_mapM read_ok mem
    exact isAlphanumeric_of_readTopic topic_ok
  · cases read_ok
    simp
  · cases read_ok

theorem read_eq_ok_iff {kind : String} {options : Json} {destination : Destination} :
    read kind options = .ok destination ↔
      kind = "sns" ∧ readTopics options = .ok destination.entries := by
  unfold read
  split
  · rw [map_eq_ok_iff]
    cases destination
    simp [entries]
  next other => exact ⟨nofun, fun accepted => absurd accepted.1 other⟩

end Destination

namespace FunctionSpec

theorem readDestinations_eq_mapM (spec : FunctionSpec) :
    spec.readDestinations = (spec.destinations.getD ∅).entries.mapM fun destination =>
      Destination.read destination.1 destination.2 := by
  unfold readDestinations
  split
  next absent =>
    rw [absent]
    rfl
  next declared =>
    rw [declared]
    rfl

/-- Only one kind of destination is known, so a spec has at most one group of topics. -/
private theorem destinations_cases {spec : FunctionSpec} {destinations : List Destination}
    (read_ok : spec.readDestinations = .ok destinations) :
    ((spec.destinations.getD ∅).entries = [] ∧ destinations = []) ∨
      ∃ group options, (spec.destinations.getD ∅).entries = [("sns", options)] ∧
        destinations = [group] ∧ Destination.readTopics options = .ok group.entries := by
  rw [readDestinations_eq_mapM] at read_ok
  have pairs := mapM_eq_ok_iff.mp read_ok
  have nodup := (spec.destinations.getD ∅).nodup
  generalize (spec.destinations.getD ∅).entries = entries at pairs nodup
  cases pairs with
  | nil => exact .inl ⟨rfl, rfl⟩
  | @cons first group _ _ head pairs =>
      obtain ⟨kind, options⟩ := first
      obtain ⟨rfl, topics_ok⟩ := Destination.read_eq_ok_iff.mp head
      cases pairs with
      | nil => exact .inr ⟨group, options, rfl, rfl, topics_ok⟩
      | cons second _ =>
          have second_kind := (Destination.read_eq_ok_iff.mp second).1
          simp [second_kind] at nodup

/-- The names of the topics that a spec publishes to, in order. -/
def destinationNames (spec : FunctionSpec) : List String :=
  match (spec.destinations.getD ∅).find? "sns" with
  | some options => Destination.topicNames options
  | none => []

/-- The topics of a spec have the names under which they are declared. -/
theorem names_of_topics {spec : FunctionSpec} {destinations : List Destination}
    (read_ok : spec.readDestinations = .ok destinations) :
    (destinations.flatMap Destination.entries).map TopicDestination.name =
      spec.destinationNames := by
  unfold destinationNames OrderedMap.find?
  rcases destinations_cases read_ok with
    ⟨entries_eq, rfl⟩ | ⟨group, options, entries_eq, rfl, topics_ok⟩
  · rw [entries_eq]
    rfl
  · simp [entries_eq, Destination.names_of_readTopics topics_ok]

theorem nodup_destinationNames (spec : FunctionSpec) : spec.destinationNames.Nodup := by
  unfold destinationNames
  split
  · exact Destination.nodup_topicNames _
  · exact List.nodup_nil

/-- The topics of a spec have alphanumeric names. -/
theorem isAlphanumeric_of_mem_topics {spec : FunctionSpec} {destinations : List Destination}
    (read_ok : spec.readDestinations = .ok destinations) :
    ∀ topic ∈ destinations.flatMap Destination.entries, isAlphanumeric topic.name := by
  rcases destinations_cases read_ok with ⟨-, rfl⟩ | ⟨group, options, -, rfl, topics_ok⟩
  · simp
  · simpa using Destination.isAlphanumeric_of_readTopics topics_ok

end FunctionSpec

end LambdaStack

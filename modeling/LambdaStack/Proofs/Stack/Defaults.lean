import LambdaStack.Proofs.Document.Evaluation
import LambdaStack.Proofs.FunctionSpec.Grammar
import LambdaStack.Proofs.Stack.Acceptance
import LambdaStack.Proofs.Stack.Mentions

/-!
# Defaults

What a spec leaves unset may as well be written out. The options of a webhook are read back from
their written form, completing an integration a second time changes nothing, and the values that
were resolved resolve to themselves; hence the spec with all its defaults written out is compiled to
the same document.
-/

namespace LambdaStack

theorem HttpMethod.ofText?_text (method : HttpMethod) : ofText? method.text = some method := by
  cases method <;> decide +kernel

namespace WebhookOptions

/-- The options of a webhook with nothing left unset. -/
def toJson (options : WebhookOptions) : Json :=
  .object [
    ("method", options.method.text),
    ("methodResponses", .array options.methodResponses),
    ("integration", .ofMap options.integration),
    ("apiKey", .bool options.apiKey)
  ]

/-- The written options of a webhook are read back. -/
theorem read_toJson (options : WebhookOptions) : read options.toJson = .ok options := by
  obtain ⟨method, methodResponses, integration, apiKey⟩ := options
  have method_eq : Json.truthyMember? "method"
      (toJson ⟨method, methodResponses, integration, apiKey⟩) = some (.string method.text) := by
    cases method <;> rfl
  have apiKey_eq : readApiKey (toJson ⟨method, methodResponses, integration, apiKey⟩) = apiKey := by
    cases apiKey <;> rfl
  have integration_eq : readIntegration (toJson ⟨method, methodResponses, integration, apiKey⟩) =
      .ok integration :=
    congrArg Except.ok integration.ofList_entries
  have responses_eq : readMethodResponses
      (toJson ⟨method, methodResponses, integration, apiKey⟩) = .ok methodResponses := rfl
  simp only [read, method_eq, readMethod, HttpMethod.ofText?_text, responses_eq, integration_eq,
    apiKey_eq]
  rfl

theorem method_of_read {options : Json} {webhook : WebhookOptions}
    (read_ok : read options = .ok webhook) :
    ∃ name, options.member? "method" = some (.string name) ∧
      webhook.method.text = Text.toUpper name := by
  obtain @⟨name, ⟨members, rfl, found, -⟩, upper_eq⟩ := (read_eq_ok_iff.mp read_ok).method
  exact ⟨name, found, upper_eq.symm⟩

end WebhookOptions

namespace WebhookTrigger

theorem foldl_completeField_of_isSet {fields : List (String × Json)} {integration : OrderedMap Json}
    (set : ∀ field ∈ fields, isSet integration field.1) :
    fields.foldl completeField integration = integration := by
  induction fields with
  | nil => rfl
  | cons field rest ih =>
      obtain ⟨first_set, rest_set⟩ := List.forall_mem_cons.mp set
      have kept : completeField integration field = integration := if_pos first_set
      rw [List.foldl_cons, kept]
      exact ih rest_set

theorem isSet_foldl_completeField {integration : OrderedMap Json} {key : String}
    (set : isSet integration key) (fields : List (String × Json)) :
    isSet (fields.foldl completeField integration) key := by
  rwa [isSet, find?_foldl_completeField_of_isSet set fields]

/-- Fields that count as set are set once the integration is completed by them. -/
theorem isSet_of_mem_fields {fields : List (String × Json)}
    (truthy : ∀ field ∈ fields, field.2.isTruthy) (integration : OrderedMap Json) :
    ∀ field ∈ fields, isSet (fields.foldl completeField integration) field.1 := by
  induction fields generalizing integration with
  | nil => simp
  | cons field rest ih =>
      obtain ⟨first_truthy, rest_truthy⟩ := List.forall_mem_cons.mp truthy
      refine List.forall_mem_cons.mpr ⟨isSet_foldl_completeField ?_ rest, ih rest_truthy _⟩
      unfold completeField
      split
      next set => exact set
      · rw [isSet, OrderedMap.find?_insert, if_pos rfl]
        exact first_truthy

theorem isTruthy_integrationDefaults (function : String) :
    ∀ field ∈ integrationDefaults function, field.2.isTruthy := by
  simp only [integrationDefaults, List.forall_mem_cons]
  exact ⟨rfl, rfl, rfl, rfl, by simp⟩

/-- Completing an integration again changes nothing. -/
theorem integration_integration (function : String) (options : WebhookOptions) :
    integration function { options with integration := integration function options } =
      integration function options :=
  foldl_completeField_of_isSet
    (isSet_of_mem_fields (isTruthy_integrationDefaults function) options.integration)

end WebhookTrigger

namespace Trigger

/-- The trigger with a complete integration. -/
def completed (function : String) : Trigger → Trigger
  | webhook options =>
    webhook { options with integration := WebhookTrigger.integration function options }
  | trigger => trigger

variable (function : String) (trigger : Trigger)

theorem isWebhook_completed : (trigger.completed function).isWebhook = trigger.isWebhook := by
  cases trigger <;> rfl

theorem outputs_completed :
    (trigger.completed function).outputs function = trigger.outputs function := by
  cases trigger <;> rfl

theorem resources_completed (settings : Settings) :
    (trigger.completed function).resources function settings =
      trigger.resources function settings := by
  cases trigger with
  | topic | rule => rfl
  | webhook options =>
      simp only [completed, resources, WebhookTrigger.resources, WebhookTrigger.method,
        WebhookTrigger.integration_integration]

end Trigger

theorem Runtime.resolve_text (runtime : Runtime) : resolve (some runtime.text) = .ok runtime := by
  cases runtime <;> rfl

/-- A resolved handler is resolved to itself, wherever the spec is. -/
theorem Function.handler_handler {given sourcePath : Option String} {name : String}
    (handler_ok : handler given sourcePath = .ok name) (other : Option String) :
    handler (some name) other = .ok name := by
  have named : name ≠ "" := by
    simp only [handler] at handler_ok
    split at handler_ok
    next present =>
      cases handler_ok
      exact present
    next =>
      split at handler_ok <;> cases handler_ok
      simp
  rw [handler, Option.getD_some, if_pos named]

/-- A property of a resource of a template. -/
def Template.property? (template : Template) (resource property : String) : Option Json :=
  (template.resources.find? resource).bind (Json.at? ["Properties", property])

namespace FunctionSpec

/-- The options of a webhook with nothing left unset: its method in capitals, the responses and the
integration that the method has in a template, and whether a key is asked for. -/
def writtenWebhook (template : Template) (function : String) (options : Json) : Json :=
  let property (key : String) :=
    (template.property? (WebhookTrigger.methodName function) key).getD .null
  .object [
    ("method", Text.toUpper (((options.member? "method").bind Json.asString?).getD "")),
    ("methodResponses", property "MethodResponses"),
    ("integration", property "Integration"),
    ("apiKey", .bool (options.truthyMember? "apiKey").isSome)
  ]

/-- The options of an event source with nothing left unset. Those of a topic can be anything. -/
def writtenOptions (template : Template) (function : String) (topicOptions : Json)
    (source : String × Json) : Json :=
  match source.1 with
  | "sns" => topicOptions
  | "webhook" => writtenWebhook template function source.2
  | _ => source.2

/-- The destinations, with an empty group of topics in place of none. -/
def writtenDestinations (spec : FunctionSpec) : Option (OrderedMap Json) :=
  if spec.destinations = none ∨ spec.destinations = some (.ofList [("sns", .null)]) then
    some (.ofList [("sns", .object [])])
  else spec.destinations

/-- A spec with its defaults written out, where a template tells what they are. -/
def writtenOut (spec : FunctionSpec) (template : Template) (topicOptions : Json) : FunctionSpec :=
  { spec with
    runtime := (template.property? spec.name "Runtime").bind Json.asString?
    handler := (template.property? spec.name "Handler").bind Json.asString?
    eventSources := some (.ofList (spec.sources.map fun source =>
      (source.1, writtenOptions template spec.name topicOptions source)))
    destinations := spec.writtenDestinations }

variable {spec : FunctionSpec} {settings : Settings} {reading : Reading}

theorem property?_function (unambiguous : spec.Unambiguous settings reading) :
    (spec.layout settings reading).property? spec.name "Runtime" =
        some (.string reading.runtime.text) ∧
      (spec.layout settings reading).property? spec.name "Handler" =
        some (.string reading.handler) := by
  have found := (find?_resources unambiguous).mpr .function
  rw [Template.property?, Template.property?, found]
  exact ⟨rfl, rfl⟩

theorem property?_method (unambiguous : spec.Unambiguous settings reading)
    {options : WebhookOptions} (uses : .webhook options ∈ reading.triggers) :
    let name := WebhookTrigger.methodName spec.name
    (spec.layout settings reading).property? name "MethodResponses" =
        some (.array options.methodResponses) ∧
      (spec.layout settings reading).property? name "Integration" =
        some (.ofMap (WebhookTrigger.integration spec.name options)) := by
  have found := (find?_resources unambiguous).mpr (.method options uses)
  simp only [Template.property?, found]
  exact ⟨rfl, rfl⟩

/-- The written options of a webhook are those that were read, with the integration completed. -/
theorem writtenWebhook_layout (unambiguous : spec.Unambiguous settings reading) {options : Json}
    {webhook : WebhookOptions} (uses : .webhook webhook ∈ reading.triggers)
    (read_ok : WebhookOptions.read options = .ok webhook) :
    writtenWebhook (spec.layout settings reading) spec.name options =
      WebhookOptions.toJson
        { webhook with integration := WebhookTrigger.integration spec.name webhook } := by
  obtain ⟨name, method_eq, text_eq⟩ := WebhookOptions.method_of_read read_ok
  obtain ⟨-, -, apiKey_eq⟩ := Trigger.parts_of_readWebhook read_ok
  obtain ⟨responses_eq, integration_eq⟩ := property?_method unambiguous uses
  simp only [writtenWebhook, WebhookOptions.toJson, method_eq, responses_eq, integration_eq,
    text_eq, apiKey_eq]
  rfl

theorem read_writtenOptions (unambiguous : spec.Unambiguous settings reading)
    (topicOptions : Json) {source : String × Json} {trigger : Trigger}
    (uses : trigger ∈ reading.triggers) (read_ok : Trigger.read source.1 source.2 = .ok trigger) :
    Trigger.read source.1
        (writtenOptions (spec.layout settings reading) spec.name topicOptions source) =
      .ok (trigger.completed spec.name) := by
  obtain ⟨kind, options⟩ := source
  have kind_eq := Trigger.kind_of_read read_ok
  cases trigger with
  | topic =>
      subst kind_eq
      rfl
  | rule rule =>
      subst kind_eq
      cases rule <;> exact read_ok
  | webhook webhook =>
      subst kind_eq
      obtain ⟨given, given_ok, given_eq⟩ := map_eq_ok_iff.mp read_ok
      cases given_eq
      change (WebhookOptions.read (writtenWebhook _ _ options)).map _ = _
      rw [writtenWebhook_layout unambiguous uses given_ok, WebhookOptions.read_toJson]
      rfl

theorem sources_writtenOut (spec : FunctionSpec) (template : Template) (topicOptions : Json) :
    (spec.writtenOut template topicOptions).sources = spec.sources.map fun source =>
      (source.1, writtenOptions template spec.name topicOptions source) := by
  have keys_eq : Entries.keys (spec.sources.map fun source =>
      (source.1, writtenOptions template spec.name topicOptions source)) =
        Entries.keys spec.sources := by
    simp [Entries.keys]
  have entries_eq := OrderedMap.entries_ofList (keys_eq ▸ spec.nodup_keys_sources)
  have nonempty : ¬(OrderedMap.ofList (spec.sources.map fun source =>
      (source.1, writtenOptions template spec.name topicOptions source))).isEmpty := by
    simp [OrderedMap.isEmpty, entries_eq, spec.sources_ne_nil]
  exact (if_neg nonempty).trans entries_eq

theorem triggers_writtenOut (reads : spec.Reads settings reading)
    (unambiguous : spec.Unambiguous settings reading) (topicOptions : Json) :
    (spec.writtenOut (spec.layout settings reading) topicOptions).triggers =
      .ok (reading.triggers.map (Trigger.completed spec.name)) := by
  have triggers_ok := reads.triggers
  rw [triggers_eq_mapM] at triggers_ok
  rw [triggers_eq_mapM, sources_writtenOut]
  exact mapM_map_of_mapM triggers_ok fun _ _ _ uses read_ok =>
    read_writtenOptions unambiguous topicOptions uses read_ok

theorem topics_writtenOut (spec : FunctionSpec) (template : Template) (topicOptions : Json) :
    ((spec.writtenOut template topicOptions).readDestinations.map fun groups =>
        groups.flatMap Destination.entries) =
      spec.readDestinations.map fun groups => groups.flatMap Destination.entries := by
  unfold readDestinations writtenOut writtenDestinations
  by_cases unset :
      spec.destinations = none ∨ spec.destinations = some (.ofList [("sns", .null)])
  · simp only [if_pos unset]
    rcases unset with destinations_eq | destinations_eq <;> rw [destinations_eq] <;> rfl
  · simp only [if_neg unset]

/-- What the written spec says: the same, with complete integrations. -/
def writtenReading (spec : FunctionSpec) (reading : Reading) : Reading :=
  { reading with triggers := reading.triggers.map (Trigger.completed spec.name) }

theorem Reads.writtenOut (reads : spec.Reads settings reading)
    (unambiguous : spec.Unambiguous settings reading) (topicOptions : Json) :
    (spec.writtenOut (spec.layout settings reading) topicOptions).Reads settings
      (spec.writtenReading reading) := by
  obtain ⟨runtime_eq, handler_eq⟩ := property?_function unambiguous
  exact {
    name := reads.name
    triggers := triggers_writtenOut reads unambiguous topicOptions
    topics := (topics_writtenOut spec _ topicOptions).trans reads.topics
    parameters := reads.parameters
    runtime := by
      simp only [FunctionSpec.writtenOut, runtime_eq]
      exact reading.runtime.resolve_text
    handler := by
      simp only [FunctionSpec.writtenOut, handler_eq]
      exact Function.handler_handler reads.handler _
    statements := reads.statements
  }

theorem trusted_completed (function : String) (triggers : List Trigger) :
    Role.trusted (triggers.map (Trigger.completed function)) = Role.trusted triggers := by
  simp only [Role.trusted, List.any_map, Function.comp_def, Trigger.isWebhook_completed]

/-- A document does not tell whether an integration was complete from the start. -/
theorem resourceEntries_writtenReading (spec : FunctionSpec) (settings : Settings)
    (reading : Reading) :
    spec.resourceEntries settings (spec.writtenReading reading) =
      spec.resourceEntries settings reading := by
  have default_eq : spec.defaultRole (spec.writtenReading reading) = spec.defaultRole reading := by
    simp only [defaultRole, writtenReading, Role.members, trusted_completed]
    rfl
  have dispatch_eq :
      spec.dispatchRole (spec.writtenReading reading) = spec.dispatchRole reading := by
    simp only [dispatchRole, writtenReading, Role.members, trusted_completed]
    rfl
  have triggers_eq : (spec.writtenReading reading).triggers.flatMap
      (Trigger.resources spec.name settings) =
        reading.triggers.flatMap (Trigger.resources spec.name settings) := by
    simp only [writtenReading, List.flatMap_map, Trigger.resources_completed]
  rw [resourceEntries, resourceEntries, default_eq, dispatch_eq, triggers_eq]
  rfl

theorem outputEntries_writtenReading (spec : FunctionSpec) (reading : Reading) :
    spec.outputEntries (spec.writtenReading reading) = spec.outputEntries reading := by
  simp only [outputEntries, writtenReading, List.flatMap_map, Trigger.outputs_completed]

theorem layout_writtenOut (spec : FunctionSpec) (settings : Settings) (reading : Reading)
    (template : Template) (topicOptions : Json) :
    (spec.writtenOut template topicOptions).layout settings (spec.writtenReading reading) =
      spec.layout settings reading := by
  have resources_eq := spec.resourceEntries_writtenReading settings reading
  have outputs_eq := spec.outputEntries_writtenReading reading
  rw [layout, layout, ← resources_eq, ← outputs_eq]
  rfl

theorem Unambiguous.writtenOut (unambiguous : spec.Unambiguous settings reading)
    (template : Template) (topicOptions : Json) :
    (spec.writtenOut template topicOptions).Unambiguous settings (spec.writtenReading reading) where
  parameters := unambiguous.parameters
  resources := (spec.resourceEntries_writtenReading settings reading).symm ▸ unambiguous.resources
  outputs := (spec.outputEntries_writtenReading reading).symm ▸ unambiguous.outputs
  environment := unambiguous.environment

/-- The written options of a webhook are those that were read, and nothing is left unset there. -/
theorem webhook_mem_sources_writtenOut (reads : spec.Reads settings reading)
    (unambiguous : spec.Unambiguous settings reading) (topicOptions : Json) {options : Json}
    (mem : ("webhook", options) ∈ spec.sources) :
    ∃ webhook, WebhookOptions.read options = .ok webhook ∧
      ("webhook", WebhookOptions.toJson
        { webhook with integration := WebhookTrigger.integration spec.name webhook }) ∈
          (spec.writtenOut (spec.layout settings reading) topicOptions).sources := by
  have triggers_ok := reads.triggers
  rw [triggers_eq_mapM] at triggers_ok
  obtain ⟨trigger, uses, read_ok⟩ := exists_result_of_mem_mapM triggers_ok mem
  obtain ⟨webhook, webhook_ok, rfl⟩ := map_eq_ok_iff.mp read_ok
  refine ⟨webhook, webhook_ok, ?_⟩
  rw [sources_writtenOut, ← writtenWebhook_layout unambiguous uses webhook_ok]
  exact List.mem_map.mpr ⟨("webhook", options), mem, rfl⟩

/-- A spec with its defaults written out is compiled to the same document. Its runtime, its handler
and the options of its webhook are then given, and they are what they were resolved to. -/
theorem embed_writtenOut {template : Template} (embed_ok : spec.embed settings = .ok template)
    (topicOptions : Json) :
    let written := spec.writtenOut template topicOptions
    written.embed settings = .ok template ∧
    (∃ runtime, Runtime.resolve spec.runtime = .ok runtime ∧
      written.runtime = some runtime.text) ∧
    (∃ handler, Function.handler spec.handler settings.sourcePath = .ok handler ∧
      written.handler = some handler) ∧
    ∀ options, ("webhook", options) ∈ spec.sources →
      ∃ webhook, WebhookOptions.read options = .ok webhook ∧
        ("webhook", WebhookOptions.toJson
          { webhook with integration := WebhookTrigger.integration spec.name webhook }) ∈
            written.sources := by
  obtain ⟨reading, reads, unambiguous, rfl⟩ := layout_of_embed embed_ok
  obtain ⟨runtime_eq, handler_eq⟩ := property?_function unambiguous
  refine ⟨?_, ⟨reading.runtime, reads.runtime, ?_⟩, ⟨reading.handler, reads.handler, ?_⟩,
    fun options => webhook_mem_sources_writtenOut reads unambiguous topicOptions⟩
  · rw [embed_of_unambiguous reads unambiguous] at embed_ok
    rw [embed_of_unambiguous (reads.writtenOut unambiguous topicOptions)
      (unambiguous.writtenOut _ topicOptions), layout_writtenOut]
    exact embed_ok
  · rw [writtenOut, runtime_eq]
    rfl
  · rw [writtenOut, handler_eq]
    rfl

/-- A spec that leaves most things unset. -/
def terse : FunctionSpec where
  name := "report"
  runtime := some ""
  eventSources := some (.ofList [
    ("sns", .null),
    ("webhook", .object [
      ("method", "get"),
      ("integration", .object [("Uri", ""), ("Type", "MOCK")]),
      ("apiKey", "yes")
    ])
  ])
  destinations := some (.ofList [("sns", .null)])

/-- Settings that tell where the terse spec is. -/
def terseSettings : Settings where
  sourcePath := some "functions/report/function.json"

/-- The same spec with nothing left unset. -/
def verbose : FunctionSpec where
  name := "report"
  runtime := some "nodejs10.x"
  handler := some "report/function.fn"
  eventSources := some (.ofList [
    ("sns", .object []),
    ("webhook", .object [
      ("method", "GET"),
      ("methodResponses", .array [
        .object [
          ("StatusCode", "200"),
          ("ResponseModels", .object [("application/json", "Empty")])
        ],
        .object [
          ("StatusCode", "500"),
          ("ResponseModels", .object [("application/json", "Empty")])
        ]
      ]),
      ("integration", .object [
        ("Uri", WebhookTrigger.defaultUri "report"),
        ("Type", "MOCK"),
        ("IntegrationHttpMethod", "POST"),
        ("IntegrationResponses", .array [
          .object [("StatusCode", "200")],
          .object [("StatusCode", "500"), ("SelectionPattern", "^(?i)(error|exception).*")]
        ])
      ]),
      ("apiKey", .bool true)
    ])
  ])
  destinations := some (.ofList [("sns", .object [])])

/-- What the fields of the terse spec say. -/
def terseReading : Reading where
  triggers := [
    .topic,
    .webhook ⟨.get, WebhookOptions.defaultMethodResponses,
      .ofList [("Uri", ""), ("Type", "MOCK")], true⟩
  ]
  topics := []
  runtime := .node10
  handler := "report/function.fn"

theorem reads_terse : terse.Reads terseSettings terseReading where
  name := by decide
  triggers := by decide +kernel
  topics := rfl
  parameters := by simp [terse, OrderedMap.entries_emptyCollection]
  runtime := rfl
  handler := by decide
  statements := by simp [terse]

theorem terse_embed_verbose : ∃ template,
    terse.embed terseSettings = .ok template ∧ verbose.embed terseSettings = .ok template := by
  have unambiguous := (unambiguous_iff_not_collides reads_terse).mpr (by decide)
  have embed_ok : terse.embed terseSettings = .ok (terse.layout terseSettings terseReading) := by
    rw [embed_of_unambiguous reads_terse unambiguous]
    exact if_neg (by decide)
  have written_eq : terse.writtenOut (terse.layout terseSettings terseReading) (.object []) =
      verbose := by
    decide +kernel
  obtain ⟨written_ok, -⟩ := embed_writtenOut embed_ok (.object [])
  rw [written_eq] at written_ok
  exact ⟨_, embed_ok, written_ok⟩

end FunctionSpec
end LambdaStack

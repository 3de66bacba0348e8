import LambdaStack.Proofs.Stack.Defaults

/-!
# The integration of a webhook

The integration of the method is that of the caller, completed in four fields. A field of the caller
stays in its place and keeps its value, unless it is one of the four and unset, when it gets its
default there; the defaults that the caller has no field for follow in their order. Completed fields
given back as those of the caller are left as they are.
-/

namespace LambdaStack

namespace Json

/-- An object with a member set; other values are left as they are. -/
def setMember (options : Json) (key : String) (value : Json) : Json :=
  match options with
  | .object members => .object (Entries.insert key value members)
  | other => other

theorem truthyMember?_setMember {key other : String} (differ : other ≠ key) (options value : Json) :
    (options.setMember key value).truthyMember? other = options.truthyMember? other := by
  cases options with
  | object members =>
      simp [setMember, truthyMember?, member?, Entries.lookup_insert, differ]
  | null | bool | number | string | array => rfl

theorem gives_of_member? {options value : Json} {key : String}
    (found : options.member? key = some value) (truthy : value.isTruthy = true) :
    options.Gives key value := by
  rw [← truthyMember?_eq_some_iff, truthyMember?, found, Option.filter_some, if_pos truthy]

theorem gives_setMember {key : String} {value : Json} (truthy : value.isTruthy = true)
    (members : List (String × Json)) :
    ((object members).setMember key value).Gives key value :=
  ⟨Entries.insert key value members, rfl, by simp [Entries.lookup_insert], truthy⟩

end Json

namespace WebhookTrigger

/-- A field of the caller, with its default if it has one and is unset. -/
def settle (defaults : List (String × Json)) (field : String × Json) : String × Json :=
  (field.1, if field.2.isTruthy then field.2 else (defaults.lookup field.1).getD field.2)

theorem settle_of_not_mem {defaults : List (String × Json)} {field : String × Json}
    (absent : field.1 ∉ Entries.keys defaults) : settle defaults field = field := by
  have no_default : defaults.lookup field.1 = none := by
    rw [List.lookup_eq_none_iff]
    intro default mem
    have differ : field.1 ≠ default.1 := fun equal =>
      absent (equal ▸ Entries.mem_keys_of_mem mem)
    simpa using differ
  simp [settle, no_default]

theorem map_settle_of_not_mem {defaults fields : List (String × Json)}
    (absent : ∀ field ∈ fields, field.1 ∉ Entries.keys defaults) :
    fields.map (settle defaults) = fields := by
  conv_rhs => rw [← List.map_id fields]
  exact List.map_congr_left fun field mem => settle_of_not_mem (absent field mem)

theorem settle_settle {default : String × Json} {defaults : List (String × Json)}
    (absent : default.1 ∉ Entries.keys defaults) (field : String × Json) :
    settle defaults (settle [default] field) = settle (default :: defaults) field := by
  obtain ⟨name, standard⟩ := default
  obtain ⟨key, value⟩ := field
  by_cases same : key = name
  · subst same
    by_cases set : value.isTruthy
    · simp [settle, set]
    · have replaced : settle [(key, standard)] (key, value) = (key, standard) := by
        simp [settle, set]
      rw [replaced, settle_of_not_mem absent]
      simp [settle, set]
  · have differ : (key == name) = false := by simpa using same
    have unchanged : settle [(name, standard)] (key, value) = (key, value) :=
      settle_of_not_mem (by simpa using same)
    rw [unchanged]
    simp [settle, List.lookup_cons, differ]

/-- A default replaces an unset field in its place, and is appended when there is no such field. -/
theorem entries_completeField (given : OrderedMap Json) (default : String × Json) :
    (completeField given default).entries =
      if default.1 ∈ given.keys then given.entries.map (settle [default])
      else given.entries ++ [default] := by
  obtain ⟨name, standard⟩ := default
  split_ifs with present
  · obtain ⟨old, mem⟩ := Entries.mem_keys.mp present
    have found : given.find? name = some old := OrderedMap.find?_eq_some_iff.mpr mem
    obtain ⟨front, back, entries_eq⟩ := List.append_of_mem mem
    have nodup := given.nodup
    rw [entries_eq] at nodup
    have front_absent : name ∉ Entries.keys front := Entries.not_mem_keys_of_nodup nodup
    have back_absent : name ∉ Entries.keys back := by
      simp only [Entries.keys_append, Entries.keys_cons, List.nodup_append, List.nodup_cons]
        at nodup
      exact nodup.2.1.1
    have unchanged {fields : List (String × Json)} (absent : name ∉ Entries.keys fields) :
        fields.map (settle [(name, standard)]) = fields := by
      refine map_settle_of_not_mem fun field field_mem => ?_
      simp only [Entries.keys_cons, Entries.keys_nil, List.mem_singleton]
      rintro rfl
      exact absent (Entries.mem_keys_of_mem field_mem)
    rw [entries_eq, List.map_append, List.map_cons, unchanged front_absent, unchanged back_absent]
    by_cases set : old.isTruthy
    · simp [completeField, found, set, settle, entries_eq]
    · simp [completeField, found, set, settle, OrderedMap.insert, entries_eq,
        Entries.insert_append_cons, front_absent]
  · have unset : given.find? name = none := by
      rw [Option.eq_none_iff_forall_ne_some]
      intro value found
      exact present (Entries.mem_keys_of_mem (OrderedMap.find?_eq_some_iff.mp found))
    simp only [completeField, unset]
    exact Entries.insert_of_not_mem standard present

theorem keys_map_settle (defaults fields : List (String × Json)) :
    Entries.keys (fields.map (settle defaults)) = Entries.keys fields := by
  simp [Entries.keys, settle]

/-- Completing an integration settles the fields of the caller and appends the other defaults. -/
theorem entries_foldl_completeField {defaults : List (String × Json)}
    (nodup : (Entries.keys defaults).Nodup) (given : OrderedMap Json) :
    (defaults.foldl completeField given).entries =
      given.entries.map (settle defaults) ++
        defaults.filter fun default => default.1 ∉ given.keys := by
  induction defaults generalizing given with
  | nil => simp [map_settle_of_not_mem]
  | cons default rest ih =>
      simp only [Entries.keys_cons, List.nodup_cons] at nodup
      rw [List.foldl_cons, ih nodup.2, OrderedMap.keys, entries_completeField]
      split_ifs with present
      · rw [List.map_map, keys_map_settle, List.filter_cons_of_neg (by simpa using present)]
        congr 1
        exact List.map_congr_left fun field _ => settle_settle nodup.1 field
      · have settled_eq : given.entries.map (settle (default :: rest)) =
            given.entries.map (settle rest) := by
          refine List.map_congr_left fun field mem => ?_
          have other : field.1 ∉ Entries.keys [default] := by
            simp only [Entries.keys_cons, Entries.keys_nil, List.mem_singleton]
            exact fun same => present (same ▸ Entries.mem_keys_of_mem mem)
          rw [← settle_settle nodup.1, settle_of_not_mem other]
        have kept_eq : (rest.filter fun later =>
              later.1 ∉ Entries.keys (given.entries ++ [default])) =
            rest.filter fun later => later.1 ∉ given.keys := by
          refine List.filter_congr fun later mem => ?_
          have other : later.1 ≠ default.1 := fun same =>
            nodup.1 (same ▸ Entries.mem_keys_of_mem mem)
          have mem_iff : later.1 ∈ Entries.keys (given.entries ++ [default]) ↔
              later.1 ∈ given.keys := by
            simp [other, OrderedMap.keys]
          simp only [mem_iff]
        rw [settled_eq, kept_eq, List.map_append, List.map_singleton, settle_of_not_mem nodup.1,
          List.filter_cons_of_pos (by simpa using present), List.append_assoc,
          List.singleton_append]

/-- The names of the fields that have a default. -/
def defaultNames : List String := ["Type", "IntegrationHttpMethod", "Uri", "IntegrationResponses"]

theorem keys_integrationDefaults (function : String) :
    Entries.keys (integrationDefaults function) = defaultNames := rfl

theorem nodup_keys_integrationDefaults (function : String) :
    (Entries.keys (integrationDefaults function)).Nodup := by
  rw [keys_integrationDefaults]
  decide

/-- What becomes of a field of the caller. -/
inductive Settled (function : String) : String × Json → String × Json → Prop
  /-- A field that has no default is kept, even when it is unset. -/
  | free {key : String} {value : Json} (free : key ∉ defaultNames) :
    Settled function (key, value) (key, value)
  /-- A field that is set is kept. -/
  | chosen {key : String} {value : Json} (named : key ∈ defaultNames)
    (set : value.isTruthy = true) : Settled function (key, value) (key, value)
  /-- An unset field gets its default. -/
  | replaced {key : String} {value standard : Json}
    (mem : (key, standard) ∈ integrationDefaults function) (unset : value.isTruthy = false) :
    Settled function (key, value) (key, standard)

/-- Fields are those of the caller, each settled in its place, and then the defaults for which the
caller has no field. -/
def Overrides (function : String) (given fields : List (String × Json)) : Prop :=
  ∃ settled, List.Forall₂ (Settled function) given settled ∧
    fields = settled ++
      (integrationDefaults function).filter fun default => default.1 ∉ Entries.keys given

theorem settled_settle (function : String) (field : String × Json) :
    Settled function field (settle (integrationDefaults function) field) := by
  obtain ⟨key, value⟩ := field
  by_cases named : key ∈ defaultNames
  · by_cases set : value.isTruthy
    · have kept : settle (integrationDefaults function) (key, value) = (key, value) := by
        simp [settle, set]
      rw [kept]
      exact .chosen named set
    · obtain ⟨standard, mem⟩ := Entries.mem_keys.mp (keys_integrationDefaults function ▸ named)
      have replaced : settle (integrationDefaults function) (key, value) = (key, standard) := by
        have found := Entries.lookup_of_mem (nodup_keys_integrationDefaults function) mem
        simp [settle, set, found]
      rw [replaced]
      exact .replaced mem (by simpa using set)
  · rw [settle_of_not_mem named]
    exact .free named

theorem overrides_integration (function : String) (options : WebhookOptions) :
    Overrides function options.integration.entries (integration function options).entries := by
  refine ⟨options.integration.entries.map (settle (integrationDefaults function)), ?_, ?_⟩
  · rw [List.forall₂_map_right_iff, List.forall₂_same]
    exact fun field _ => settled_settle function field
  · exact entries_foldl_completeField (nodup_keys_integrationDefaults function) options.integration

/-- The integration of the method among the resources of a webhook. -/
def methodIntegration? (spec : FunctionSpec) (options : WebhookOptions) (settings : Settings) :
    Option Json :=
  ((fragment spec options settings).resources.find? (methodName spec.name)).bind
    (Json.at? ["Properties", "Integration"])

theorem methodIntegration?_eq (spec : FunctionSpec) (options : WebhookOptions)
    (settings : Settings) :
    methodIntegration? spec options settings =
      some (.object (integration spec.name options).entries) := by
  have nodup := Trigger.nodup_keys_resources spec.name settings (.webhook options)
  have found : (fragment spec options settings).resources.find? (methodName spec.name) =
      some (method spec.name options) := by
    refine OrderedMap.find?_ofList_of_mem nodup ?_
    simp [Trigger.resources, resources]
  rw [methodIntegration?, found]
  rfl

end WebhookTrigger

namespace WebhookOptions

/-- The fields that options give an integration. -/
def givenFields (options : Json) : List (String × Json) :=
  match options.member? "integration" with
  | some (.object fields) => fields
  | _ => []

theorem entries_integration_of_read {options : Json} {webhook : WebhookOptions}
    (accepted : read options = .ok webhook)
    (distinct : (Entries.keys (givenFields options)).Nodup) :
    webhook.integration.entries = givenFields options := by
  have denoted := (read_eq_ok_iff.mp accepted).integration
  generalize webhook.integration = integration at denoted
  cases denoted with
  | @declared fields given =>
      obtain ⟨members, rfl, found, -⟩ := given
      have fields_eq : givenFields (.object members) = fields := by
        rw [givenFields, Json.member?, found]
      rw [fields_eq] at distinct ⊢
      exact OrderedMap.entries_ofList distinct
  | none absent =>
      unfold givenFields
      split
      next fields found => exact absurd (Json.gives_of_member? found rfl) (absent _)
      · rfl

/-- Fields of an integration that are given in place of others are read, and nothing else
changes. -/
theorem read_setMember_integration {options : Json} {webhook : WebhookOptions}
    (accepted : read options = .ok webhook) (fields : OrderedMap Json) :
    read (options.setMember "integration" (.ofMap fields)) =
      .ok { webhook with integration := fields } := by
  have denoted := read_eq_ok_iff.mp accepted
  obtain @⟨_, ⟨members, rfl, -, -⟩, -⟩ := denoted.method
  have given : ((Json.object members).setMember "integration" (.ofMap fields)).Gives
      "integration" (.ofMap fields) :=
    Json.gives_setMember rfl members
  have others_eq {key : String} (differ : key ≠ "integration") :=
    Json.truthyMember?_setMember differ (.object members) (.ofMap fields)
  generalize (Json.object members).setMember "integration" (.ofMap fields) = again
    at given others_eq ⊢
  have method_eq : readGivenMethod again = readGivenMethod (.object members) := by
    rw [readGivenMethod, others_eq (by decide), readGivenMethod]
  have responses_eq : readMethodResponses again = readMethodResponses (.object members) := by
    rw [readMethodResponses, others_eq (by decide), readMethodResponses]
  have apiKey_eq : readApiKey again = readApiKey (.object members) := by
    rw [readApiKey, others_eq (by decide), readApiKey]
  have integration_ok : readIntegration again = .ok fields := by
    rw [readIntegration, Json.truthyMember?_eq_some_iff.mpr given]
    exact congrArg Except.ok fields.ofList_entries
  rw [read_eq_bind] at accepted ⊢
  obtain ⟨method, method_ok, accepted⟩ := bind_eq_ok_iff.mp accepted
  obtain ⟨responses, responses_ok, accepted⟩ := bind_eq_ok_iff.mp accepted
  obtain ⟨integration, -, accepted⟩ := bind_eq_ok_iff.mp accepted
  cases accepted
  rw [method_eq, responses_eq, integration_ok, apiKey_eq, method_ok, responses_ok]
  rfl

end WebhookOptions

namespace WebhookTrigger

/-- The integration of the method overrides the defaults by the fields of the caller, and is left as
it is when it is given back in place of these. -/
theorem integration_overrides {options : Json} {webhook : WebhookOptions}
    (accepted : WebhookOptions.read options = .ok webhook)
    (distinct : (Entries.keys (WebhookOptions.givenFields options)).Nodup)
    (spec : FunctionSpec) (settings : Settings) :
    ∃ fields, methodIntegration? spec webhook settings = some (.object fields) ∧
      Overrides spec.name (WebhookOptions.givenFields options) fields ∧
      ∃ again,
        WebhookOptions.read (options.setMember "integration" (.object fields)) = .ok again ∧
        methodIntegration? spec again settings = some (.object fields) := by
  refine ⟨_, methodIntegration?_eq spec webhook settings, ?_, _,
    WebhookOptions.read_setMember_integration accepted _, ?_⟩
  · rw [← WebhookOptions.entries_integration_of_read accepted distinct]
    exact overrides_integration spec.name webhook
  · rw [methodIntegration?_eq, integration_integration]

/-- Fields of which one has no default, one is set and two are unset. -/
def hookFields : List (String × Json) :=
  [("CacheNamespace", .null), ("Uri", ""), ("Type", "HOOK"),
    ("IntegrationHttpMethod", .bool false)]

/-- These fields with the defaults: unset ones are replaced in place, what is missing comes last. -/
def hookIntegration : List (String × Json) :=
  [
    ("CacheNamespace", .null),
    ("Uri", .object [("Fn::Join", .array ["", .array [
      "arn:aws:apigateway:",
      .object [("Ref", "AWS::Region")],
      ":lambda:path/2015-03-31/functions/",
      .object [("Fn::GetAtt", .array ["report", "Arn"])],
      "/invocations"
    ]])]),
    ("Type", "HOOK"),
    ("IntegrationHttpMethod", "POST"),
    ("IntegrationResponses", .array [
      .object [("StatusCode", "200")],
      .object [("StatusCode", "500"), ("SelectionPattern", "^(?i)(error|exception).*")]
    ])
  ]

/-- Options of a webhook with these fields. -/
def hookOptions : Json :=
  .object [("integration", .object hookFields), ("method", "post")]

theorem hook_integration_overrides :
    let hook : WebhookOptions :=
      ⟨.post, WebhookOptions.defaultMethodResponses, .ofList hookFields, false⟩
    WebhookOptions.read hookOptions = .ok hook ∧
    (Entries.keys (WebhookOptions.givenFields hookOptions)).Nodup ∧
    methodIntegration? { name := "report" } hook {} = some (.object hookIntegration) ∧
    Overrides "report" (WebhookOptions.givenFields hookOptions) hookIntegration ∧
    ∃ again,
      WebhookOptions.read (hookOptions.setMember "integration" (.object hookIntegration)) =
        .ok again ∧
      methodIntegration? { name := "report" } again {} = some (.object hookIntegration) := by
  intro hook
  have accepted : WebhookOptions.read hookOptions = .ok hook := by decide +kernel
  have distinct : (Entries.keys (WebhookOptions.givenFields hookOptions)).Nodup := by decide
  obtain ⟨fields, found, overrides, fed_back⟩ :=
    integration_overrides accepted distinct { name := "report" } {}
  have fields_eq : fields = hookIntegration := by
    rw [methodIntegration?_eq] at found
    rw [← Json.object.inj (Option.some.inj found)]
    decide +kernel
  subst fields_eq
  exact ⟨accepted, distinct, found, overrides, fed_back⟩

end WebhookTrigger
end LambdaStack

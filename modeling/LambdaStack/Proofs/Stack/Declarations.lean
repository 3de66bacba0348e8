import LambdaStack.Proofs.FunctionSpec.Codec
import LambdaStack.Proofs.Stack.Inventory

/-!
# Declared parameters of a document

The definition of a parameter is taken apart when a spec is read: its type and its description go to
fields of their own, and the other properties are kept as they are. For the document it is put
together again. Nothing is lost, changed or overridden on this way, and the parameters that are made
for the document never take the place of a declared one.
-/

namespace LambdaStack

variable {ε σ γ : Type}

/-- A field that a step sets at one key only has what is read there, once all entries are visited,
or what it had before if there is no such entry. -/
theorem field_of_foldlM {step : σ → String × Json → Except ε σ} {field : σ → γ} {key : String}
    {read : Json → Except ε γ}
    (kept : ∀ state entry next, step state entry = .ok next → entry.1 ≠ key →
      field next = field state)
    (set : ∀ state value next, step state (key, value) = .ok next →
      read value = .ok (field next))
    {entries : List (String × Json)} (nodup : (Entries.keys entries).Nodup) {start final : σ}
    (folded : entries.foldlM step start = .ok final) :
    (key ∉ Entries.keys entries → field final = field start) ∧
      ∀ value, (key, value) ∈ entries → read value = .ok (field final) := by
  -- The key does not come back, so what is read at it stays until the end.
  induction entries generalizing start with
  | nil =>
      cases folded
      exact ⟨fun _ => rfl, nofun⟩
  | cons entry rest ih =>
      rw [Entries.keys_cons, List.nodup_cons] at nodup
      rw [List.foldlM_cons] at folded
      obtain ⟨next, step_ok, rest_ok⟩ := bind_eq_ok_iff.mp folded
      obtain ⟨rest_kept, rest_set⟩ := ih nodup.2 rest_ok
      constructor
      · intro absent
        rw [Entries.keys_cons, List.mem_cons, not_or] at absent
        exact (rest_kept absent.2).trans (kept _ _ _ step_ok (Ne.symm absent.1))
      · rintro value (_ | ⟨_, mem⟩)
        · rw [rest_kept nodup.1]
          exact set _ _ _ step_ok
        · exact rest_set value mem

theorem Json.wellFormed_of_mem {members : List (String × Json)}
    (well_formed : WellFormedMembers members) {member : String × Json} (mem : member ∈ members) :
    member.2.WellFormed := by
  induction members with
  | nil => cases mem
  | cons first rest ih =>
      rcases mem with _ | ⟨_, mem⟩
      · exact well_formed.1
      · exact ih well_formed.2 mem

namespace ParameterDefinition

variable {properties : List (String × Json)} {definition : ParameterDefinition}

theorem type_of_decode (nodup : (Entries.keys properties).Nodup)
    (decode_ok : decode (.object properties) = .ok definition) :
    ("Type" ∉ Entries.keys properties → definition.type = none) ∧
      ∀ value, ("Type", value) ∈ properties →
        value.decodeOptional Json.decodeText = .ok definition.type := by
  refine field_of_foldlM (fun state entry next step_ok other => ?_)
    (fun state value next step_ok => ?_) nodup decode_ok
  · rcases decodeProperty_cases step_ok with ⟨is_type, -⟩ | ⟨-, _, -, rfl⟩ | ⟨-, -, rfl⟩
    · exact absurd is_type other
    · rfl
    · rfl
  · obtain ⟨type, type_ok, rfl⟩ := map_eq_ok_iff.mp step_ok
    exact type_ok

theorem description_of_decode (nodup : (Entries.keys properties).Nodup)
    (decode_ok : decode (.object properties) = .ok definition) :
    ("Description" ∉ Entries.keys properties → definition.description = none) ∧
      ∀ value, ("Description", value) ∈ properties →
        value.decodeOptional Json.decodeText = .ok definition.description := by
  refine field_of_foldlM (fun state entry next step_ok other => ?_)
    (fun state value next step_ok => ?_) nodup decode_ok
  · rcases decodeProperty_cases step_ok with ⟨-, _, -, rfl⟩ | ⟨is_description, -⟩ | ⟨-, -, rfl⟩
    · rfl
    · exact absurd is_description other
    · rfl
  · obtain ⟨description, description_ok, rfl⟩ := map_eq_ok_iff.mp step_ok
    exact description_ok

/-- The properties without a field of their own. -/
def otherProperties (properties : List (String × Json)) : List (String × Json) :=
  properties.filter fun property => property.1 ∉ ["Type", "Description"]

theorem extra_of_foldlM {start final : ParameterDefinition}
    (folded : properties.foldlM decodeProperty start = .ok final) :
    final.extra = start.extra.insertAll (otherProperties properties) := by
  induction properties generalizing start with
  | nil =>
      cases folded
      rfl
  | cons property rest ih =>
      rw [List.foldlM_cons] at folded
      obtain ⟨next, step_ok, rest_ok⟩ := bind_eq_ok_iff.mp folded
      rw [ih rest_ok]
      rcases decodeProperty_cases step_ok with ⟨is_type, _, -, rfl⟩ |
        ⟨is_description, _, -, rfl⟩ | ⟨not_type, not_description, rfl⟩
      · simp [otherProperties, is_type]
      · simp [otherProperties, is_description]
      · simp [otherProperties, not_type, not_description, OrderedMap.insertAll]

theorem nodup_otherProperties (nodup : (Entries.keys properties).Nodup) :
    (Entries.keys (otherProperties properties)).Nodup :=
  nodup.sublist (List.filter_sublist.map Prod.fst)

theorem entries_extra_of_decode (nodup : (Entries.keys properties).Nodup)
    (decode_ok : decode (.object properties) = .ok definition) :
    definition.extra.entries = otherProperties properties := by
  rw [extra_of_foldlM decode_ok]
  exact OrderedMap.entries_ofList (nodup_otherProperties nodup)

/-- A field that has a text has that of its property. -/
theorem text_of_isGiven {key : String} {text? : Option String}
    (absent : key ∉ Entries.keys properties → text? = none)
    (present : ∀ value, (key, value) ∈ properties →
      value.decodeOptional Json.decodeText = .ok text?)
    (given : Parameters.isGiven text?) :
    ∃ text, (key, .string text) ∈ properties ∧ text ≠ "" ∧ text? = some text := by
  by_cases bound : key ∈ Entries.keys properties
  · obtain ⟨value, mem⟩ := Entries.mem_keys.mp bound
    have read_ok := present value mem
    cases value with
    | string text =>
        cases read_ok
        exact ⟨text, mem, by simpa [Parameters.isGiven] using given, rfl⟩
    | null =>
        cases read_ok
        cases given
    | bool | number | array | object => cases read_ok
  · rw [absent bound] at given
    cases given

/-- A definition stands in a document: its type and its description first, which are texts that are
not empty, and then all its other properties in their order. -/
structure Stands (properties : List (String × Json)) (written : Json) (type description : String) :
    Prop where
  /-- The type is that of the definition. -/
  type_mem : ("Type", .string type) ∈ properties
  /-- There is a type. -/
  type_ne : type ≠ ""
  /-- The description is that of the definition. -/
  description_mem : ("Description", .string description) ∈ properties
  /-- There is a description. -/
  description_ne : description ≠ ""
  /-- All that is written are these two and the other properties. -/
  written_eq : written = .object (("Type", .string type) ::
    ("Description", .string description) :: otherProperties properties)
  /-- It is the same object, except for the order of its members. -/
  same : ∃ members, written = .object members ∧ members.Perm properties

theorem perm_properties (nodup : (Entries.keys properties).Nodup) {type description : Json}
    (type_mem : ("Type", type) ∈ properties)
    (description_mem : ("Description", description) ∈ properties) :
    (("Type", type) :: ("Description", description) :: otherProperties properties).Perm
      properties := by
  have others_nodup := nodup_otherProperties nodup
  have apart {key : String} (named : key ∈ ["Type", "Description"]) :
      key ∉ Entries.keys (otherProperties properties) := by
    intro mem
    obtain ⟨value, mem⟩ := Entries.mem_keys.mp mem
    exact of_decide_eq_true (List.mem_filter.mp mem).2 named
  have written_nodup : (Entries.keys
      (("Type", type) :: ("Description", description) :: otherProperties properties)).Nodup := by
    simp [apart, others_nodup]
  -- Both lists name each property once, so it is enough that they have the same members.
  refine (List.perm_ext_iff_of_nodup (.of_map _ written_nodup) (.of_map _ nodup)).mpr ?_
  rintro ⟨key, value⟩
  simp only [List.mem_cons, otherProperties, List.mem_filter, decide_eq_true_eq,
    List.not_mem_nil, or_false, not_or]
  constructor
  · rintro (⟨rfl, rfl⟩ | ⟨rfl, rfl⟩ | ⟨mem, -⟩)
    exacts [type_mem, description_mem, mem]
  · intro mem
    by_cases is_type : key = "Type"
    · subst is_type
      rw [Entries.eq_of_mem_of_mem nodup mem type_mem]
      exact .inl rfl
    · by_cases is_description : key = "Description"
      · subst is_description
        rw [Entries.eq_of_mem_of_mem nodup mem description_mem]
        exact .inr (.inl rfl)
      · exact .inr (.inr ⟨mem, is_type, is_description⟩)

theorem stands_of_decode (nodup : (Entries.keys properties).Nodup)
    (decode_ok : decode (.object properties) = .ok definition)
    (type_given : Parameters.isGiven definition.type)
    (description_given : Parameters.isGiven definition.description) :
    ∃ type description, Stands properties definition.toJson type description := by
  obtain ⟨no_type, type_read⟩ := type_of_decode nodup decode_ok
  obtain ⟨no_description, description_read⟩ := description_of_decode nodup decode_ok
  obtain ⟨type, type_mem, type_ne, type_eq⟩ := text_of_isGiven no_type type_read type_given
  obtain ⟨description, description_mem, description_ne, description_eq⟩ :=
    text_of_isGiven no_description description_read description_given
  have written_eq : definition.toJson = .object
      (("Type", .string type) :: ("Description", .string description) ::
        otherProperties properties) := by
    rw [toJson_eq (separated_of_decode decode_ok), namedProperties, type_eq, description_eq,
      entries_extra_of_decode nodup decode_ok]
    rfl
  exact ⟨type, description, {
    type_mem, type_ne, description_mem, description_ne, written_eq
    same := ⟨_, written_eq, perm_properties nodup type_mem description_mem⟩
  }⟩

end ParameterDefinition

namespace FunctionSpec

/-- The parameters that the value of a spec declares. -/
def declarations (value : Json) : List (String × Json) :=
  match value.member? "parameters" with
  | some (.object members) => members
  | _ => []

theorem wellFormed_declarations {members : List (String × Json)}
    (well_formed : (Json.object members).WellFormed) :
    Json.WellFormedMembers (declarations (.object members)) := by
  unfold declarations
  split
  next declared found =>
    exact (Json.wellFormed_of_mem well_formed.2 (Entries.mem_of_lookup found)).2
  · trivial

/-- A declared parameter is decoded. -/
def Decodes (declared : String × Json) (parameter : String × ParameterDefinition) : Prop :=
  parameter.1 = declared.1 ∧ ParameterDefinition.decode declared.2 = .ok parameter.2

theorem entries_of_foldlM {members : List (String × Json)}
    {start final : OrderedMap ParameterDefinition}
    (nodup : (start.keys ++ Entries.keys members).Nodup)
    (folded : members.foldlM (fun parameters member =>
      (ParameterDefinition.decode member.2).map (parameters.insert member.1)) start = .ok final) :
    ∃ added, final.entries = start.entries ++ added ∧ List.Forall₂ Decodes members added := by
  induction members generalizing start with
  | nil =>
      cases folded
      exact ⟨[], (List.append_nil _).symm, .nil⟩
  | cons member rest ih =>
      rw [List.foldlM_cons] at folded
      obtain ⟨next, step_ok, rest_ok⟩ := bind_eq_ok_iff.mp folded
      obtain ⟨definition, definition_ok, rfl⟩ := map_eq_ok_iff.mp step_ok
      have absent : member.1 ∉ start.keys := fun mem =>
        (List.nodup_append'.mp nodup).2.2 mem List.mem_cons_self
      have next_nodup : ((start.insert member.1 definition).keys ++ Entries.keys rest).Nodup := by
        rw [OrderedMap.keys_insert, if_neg absent, List.append_assoc]
        exact nodup
      obtain ⟨added, entries_eq, decoded⟩ := ih next_nodup rest_ok
      refine ⟨(member.1, definition) :: added, ?_, .cons ⟨rfl, definition_ok⟩ decoded⟩
      have inserted_eq : (start.insert member.1 definition).entries =
          start.entries ++ [(member.1, definition)] := Entries.insert_of_not_mem _ absent
      rw [entries_eq, inserted_eq, List.append_assoc, List.singleton_append]

theorem parameters_of_decode {members : List (String × Json)} {spec : FunctionSpec}
    (nodup : (Entries.keys members).Nodup) (decode_ok : decode (.object members) = .ok spec) :
    ("parameters" ∉ Entries.keys members → spec.parameters = ∅) ∧
      ∀ value, ("parameters", value) ∈ members → decodeParameters value = .ok spec.parameters := by
  refine field_of_foldlM (fun state entry next step_ok other => ?_)
    (fun state value next step_ok => ?_) nodup decode_ok
  · unfold decodeField at step_ok
    split at step_ok
    case h_9 same => exact absurd same other
    case h_13 =>
      cases step_ok
      rfl
    all_goals
      obtain ⟨_, -, rfl⟩ := map_eq_ok_iff.mp step_ok
      rfl
  · obtain ⟨parameters, parameters_ok, rfl⟩ := map_eq_ok_iff.mp step_ok
    exact parameters_ok

/-- A spec that is read from an object has just the parameters that the object declares. -/
theorem declarations_of_ofJson {members : List (String × Json)} {spec : FunctionSpec}
    (well_formed : (Json.object members).WellFormed)
    (read_ok : ofJson (.object members) = .ok spec) :
    List.Forall₂ Decodes (declarations (.object members)) spec.parameters.entries := by
  obtain ⟨no_parameters, parameters_read⟩ :=
    parameters_of_decode well_formed.1 (decode_of_ofJson read_ok)
  cases found : members.lookup "parameters" with
  | none =>
      have absent : "parameters" ∉ Entries.keys members := by
        intro mem
        obtain ⟨value, mem⟩ := Entries.mem_keys.mp mem
        cases found.symm.trans (Entries.lookup_of_mem well_formed.1 mem)
      simp only [declarations, Json.member?, found, no_parameters absent]
      exact .nil
  | some value =>
      have mem := Entries.mem_of_lookup found
      have parameters_ok := parameters_read value mem
      cases value with
      | object declared =>
          have nodup : ((∅ : OrderedMap ParameterDefinition).keys ++ Entries.keys declared).Nodup :=
            (Json.wellFormed_of_mem well_formed.2 mem).1
          obtain ⟨added, entries_eq, decoded⟩ := entries_of_foldlM nodup parameters_ok
          simp only [declarations, Json.member?, found, entries_eq]
          exact decoded
      | null | bool | number | string | array => cases parameters_ok

/-- The parameters that are made for a document, besides those that are declared. -/
def madeParameters (spec : FunctionSpec) : List String :=
  ["CodeS3Bucket", "CodeS3Prefix", "GitSha", "ServiceAlarmEmail"] ++
    spec.destinationNames.map (· ++ "Email") ++ ["DispatchSnsArn"]

theorem names_of_decoded {declared : List (String × Json)}
    {parameters : List (String × ParameterDefinition)}
    (decoded : List.Forall₂ Decodes declared parameters) :
    Entries.keys parameters = Entries.keys declared := by
  induction decoded with
  | nil => rfl
  | cons head _ ih => rw [Entries.keys_cons, Entries.keys_cons, head.1, ih]

theorem given_of_validate {name : String} {definition : ParameterDefinition}
    (valid : Parameters.validate name definition = .ok ()) :
    Parameters.isGiven definition.type ∧ Parameters.isGiven definition.description := by
  unfold Parameters.validate at valid
  split_ifs at valid with _ no_type no_description
  exact ⟨by simpa using no_type, by simpa using no_description⟩

/-- A declared parameter stands in the document, and its definition with it. -/
theorem find?_of_mem_declarations {members : List (String × Json)} {spec : FunctionSpec}
    {settings : Settings} {reading : Reading} (well_formed : (Json.object members).WellFormed)
    (read_ok : ofJson (.object members) = .ok spec) (reads : spec.Reads settings reading)
    (unambiguous : spec.Unambiguous settings reading) {key : String} {definition : Json}
    (mem : (key, definition) ∈ declarations (.object members)) :
    ∃ properties written type description, definition = .object properties ∧
      (spec.layout settings reading).parameters.find? key = some written ∧
      ParameterDefinition.Stands properties written type description := by
  obtain ⟨⟨name, parameter⟩, parameter_mem, rfl, decode_ok⟩ :=
    exists_of_mem_forall₂ (declarations_of_ofJson well_formed read_ok) mem
  obtain ⟨type_given, description_given⟩ := given_of_validate (reads.parameters _ parameter_mem)
  have definition_well_formed := Json.wellFormed_of_mem (wellFormed_declarations well_formed) mem
  cases definition with
  | object properties =>
      obtain ⟨type, description, stands⟩ := ParameterDefinition.stands_of_decode
        definition_well_formed.1 decode_ok type_given description_given
      refine ⟨properties, _, type, description, rfl, ?_, stands⟩
      refine OrderedMap.find?_ofList_of_mem unambiguous.parameters ?_
      simp only [parameterEntries, List.append_assoc]
      exact List.mem_append_left _ (List.mem_map_of_mem parameter_mem)
  | null | bool | number | string | array => cases decode_ok

/-- What a spec declares reaches the document unchanged. Each declared parameter is there with just
its properties, its type and its description first and the others in their order, where these two
are texts that are not empty. All other parameters are made, and none of them is declared. -/
theorem declared_of_embed {value : Json} {spec : FunctionSpec} {settings : Settings}
    {template : Template} (object : ∃ members, value = .object members)
    (well_formed : value.WellFormed) (read_ok : ofJson value = .ok spec)
    (embed_ok : spec.embed settings = .ok template) :
    (∀ key definition, (key, definition) ∈ declarations value →
      ∃ properties written type description, definition = .object properties ∧
        template.parameters.find? key = some written ∧
        ParameterDefinition.Stands properties written type description) ∧
    template.parameters.keys = Entries.keys (declarations value) ++ spec.madeParameters ∧
    ∀ key ∈ spec.madeParameters, key ∉ Entries.keys (declarations value) := by
  obtain ⟨members, rfl⟩ := object
  obtain ⟨reading, reads, unambiguous, rfl⟩ := layout_of_embed embed_ok
  have decoded := declarations_of_ofJson well_formed read_ok
  have keys_eq : (spec.layout settings reading).parameters.keys =
      Entries.keys (declarations (.object members)) ++ spec.madeParameters := by
    rw [keys_parameters_layout reads unambiguous, parameterInventory, madeParameters,
      ← names_of_decoded decoded, List.append_assoc, List.append_assoc]
    rfl
  have keys_nodup := (spec.layout settings reading).parameters.nodup
  rw [← OrderedMap.keys, keys_eq, List.nodup_append'] at keys_nodup
  refine ⟨fun key definition => ?_, keys_eq, fun key made declared => ?_⟩
  · exact find?_of_mem_declarations well_formed read_ok reads unambiguous
  · exact keys_nodup.2.2 declared made

/-- A value with a parameter that has its description and other properties before its type. -/
def stagedValue : Json :=
  .object [
    ("parameters", .object [
      ("Stage", .object [
        ("Default", "test"),
        ("Description", "Where to deploy"),
        ("AllowedValues", .array ["test", .null]),
        ("Type", "String"),
        ("NoEcho", .bool false)
      ])
    ]),
    ("handler", "index.handler"),
    ("name", "report")
  ]

/-- The spec of that value. -/
def staged : FunctionSpec where
  name := "report"
  handler := some "index.handler"
  parameters := .ofList [
    ("Stage", {
      type := some "String"
      description := some "Where to deploy"
      extra := .ofList [
        ("Default", "test"),
        ("AllowedValues", .array ["test", .null]),
        ("NoEcho", .bool false)
      ]
    })
  ]

/-- What the fields of that spec say. -/
def stagedReading : Reading where
  triggers := [.topic]
  topics := []
  runtime := .node10
  handler := "index.handler"

theorem reads_staged : staged.Reads {} stagedReading where
  name := rfl
  triggers := rfl
  topics := rfl
  parameters := by
    intro parameter mem
    rw [List.mem_singleton.mp mem]
    rfl
  runtime := rfl
  handler := rfl
  statements := nofun

theorem staged_declared : ∃ template, ofJson stagedValue = .ok staged ∧
    staged.embed {} = .ok template ∧
    template.parameters.find? "Stage" = some (.object [
      ("Type", "String"),
      ("Description", "Where to deploy"),
      ("Default", "test"),
      ("AllowedValues", .array ["test", .null]),
      ("NoEcho", .bool false)
    ]) ∧
    template.parameters.keys = ["Stage", "CodeS3Bucket", "CodeS3Prefix", "GitSha",
      "ServiceAlarmEmail", "DispatchSnsArn"] := by
  have read_ok : ofJson stagedValue = .ok staged := by rfl
  have well_formed : stagedValue.WellFormed := by
    simp [stagedValue, Json.WellFormed, Json.WellFormedMembers, Json.WellFormedItems]
  have embed_ok := embed_of_not_collides reads_staged (by decide) (by decide)
  obtain ⟨stands, keys_eq, -⟩ := declared_of_embed ⟨_, rfl⟩ well_formed read_ok embed_ok
  obtain ⟨_, written, type, description, ⟨⟩, found, stage_stands⟩ :=
    stands "Stage" _ List.mem_cons_self
  have type_eq : type = "String" := by simpa using stage_stands.type_mem
  have description_eq : description = "Where to deploy" := by
    simpa using stage_stands.description_mem
  refine ⟨_, read_ok, embed_ok, ?_, keys_eq⟩
  rw [found, stage_stands.written_eq, type_eq, description_eq]
  rfl

end FunctionSpec
end LambdaStack

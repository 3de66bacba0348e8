import LambdaStack.FunctionSpec.Decoding
import LambdaStack.FunctionSpec.Encoding
import LambdaStack.Proofs.Binary64.Rounding
import LambdaStack.Proofs.Entries
import LambdaStack.Proofs.Steps

/-!
# Encoding and decoding of function specs

A spec is read back from its JSON object just when its numbers are finite and no parameter hides a
type or a description among its other properties. Whatever is decoded is such a spec, so decoding
undoes encoding, and a spec that has been written once is written alike ever after. Specs are equal
only when their parameters, the properties of these and all raw maps stand in the same order.
-/

namespace LambdaStack

namespace Entries

theorem foldl_insert {α : Type} {front back : List (String × α)}
    (nodup : (keys (front ++ back)).Nodup) :
    back.foldl (fun members entry => insert entry.1 entry.2 members) front = front ++ back := by
  induction back generalizing front with
  | nil => simp
  | cons entry rest ih =>
      have absent := not_mem_keys_of_nodup nodup
      have moved : front ++ entry :: rest = (front ++ [entry]) ++ rest := by simp
      rw [moved] at nodup ⊢
      rw [List.foldl_cons, insert_of_not_mem entry.2 absent, ih nodup]

end Entries

namespace Json

theorem decodeMap_ofMap (map : OrderedMap Json) : (ofMap map).decodeMap = .ok map :=
  congrArg Except.ok (OrderedMap.ofList_entries map)

theorem decodeList_decodeMap (maps : List (OrderedMap Json)) :
    decodeList decodeMap (.array (maps.map ofMap)) = .ok maps := by
  rw [decodeList, mapM_eq_ok_iff, List.forall₂_map_left_iff, List.forall₂_same]
  exact fun map _ => decodeMap_ofMap map

/-- A number that is decoded is finite. -/
theorem isFinite_of_decodeNumber {value : Json} {number : Option Binary64}
    (decode_ok : value.decodeOptional decodeNumber = .ok number) :
    ∀ decoded ∈ number, decoded.IsFinite := by
  intro decoded decoded_eq
  cases value with
  | null =>
      cases decode_ok
      cases decoded_eq
  | number raw =>
      cases decode_ok
      cases decoded_eq
      exact raw.isFinite_toBinary64
  | bool | string | array | object => cases decode_ok

end Json

namespace ParameterDefinition

/-- A property sets the type or the description, or it is kept with the others. -/
theorem decodeProperty_cases {definition next : ParameterDefinition} {property : String × Json}
    (decode_ok : definition.decodeProperty property = .ok next) :
    (property.1 = "Type" ∧ ∃ type, property.2.decodeOptional Json.decodeText = .ok type ∧
      next = { definition with type }) ∨
    (property.1 = "Description" ∧ ∃ description,
      property.2.decodeOptional Json.decodeText = .ok description ∧
      next = { definition with description }) ∨
    (property.1 ≠ "Type" ∧ property.1 ≠ "Description" ∧
      next = { definition with extra := definition.extra.insert property.1 property.2 }) := by
  unfold decodeProperty at decode_ok
  split at decode_ok
  next is_type =>
    obtain ⟨type, type_ok, rfl⟩ := map_eq_ok_iff.mp decode_ok
    exact .inl ⟨is_type, type, type_ok, rfl⟩
  next is_description =>
    obtain ⟨description, description_ok, rfl⟩ := map_eq_ok_iff.mp decode_ok
    exact .inr (.inl ⟨is_description, description, description_ok, rfl⟩)
  next not_type not_description =>
    cases decode_ok
    exact .inr (.inr ⟨not_type, not_description, rfl⟩)

/-- The other properties of a definition are not named like its type or its description. -/
structure Separated (definition : ParameterDefinition) : Prop where
  /-- None of them is a type. -/
  type : "Type" ∉ definition.extra.keys
  /-- None of them is a description. -/
  description : "Description" ∉ definition.extra.keys

theorem Separated.decodeProperty {definition next : ParameterDefinition} {property : String × Json}
    (separated : definition.Separated)
    (decode_ok : definition.decodeProperty property = .ok next) : next.Separated := by
  rcases decodeProperty_cases decode_ok with ⟨-, _, -, rfl⟩ | ⟨-, _, -, rfl⟩ |
    ⟨not_type, not_description, rfl⟩
  · exact ⟨separated.type, separated.description⟩
  · exact ⟨separated.type, separated.description⟩
  · constructor
    · rw [OrderedMap.mem_keys_insert, not_or]
      exact ⟨separated.type, Ne.symm not_type⟩
    · rw [OrderedMap.mem_keys_insert, not_or]
      exact ⟨separated.description, Ne.symm not_description⟩

theorem separated_of_decode {value : Json} {definition : ParameterDefinition}
    (decode_ok : decode value = .ok definition) : definition.Separated := by
  cases value with
  | object properties =>
      refine invariant_of_foldlM Separated ?_ (fun _ _ _ => Separated.decodeProperty) decode_ok
      exact ⟨List.not_mem_nil, List.not_mem_nil⟩
  | null | bool | number | string | array => cases decode_ok

theorem foldlM_decodeProperty {properties : List (String × Json)}
    (no_type : "Type" ∉ Entries.keys properties)
    (no_description : "Description" ∉ Entries.keys properties)
    (definition : ParameterDefinition) :
    properties.foldlM decodeProperty definition =
      .ok { definition with extra := definition.extra.insertAll properties } := by
  induction properties generalizing definition with
  | nil => rfl
  | cons property rest ih =>
      simp only [Entries.keys_cons, List.mem_cons, not_or] at no_type no_description
      have step_eq : definition.decodeProperty property =
          .ok { definition with extra := definition.extra.insert property.1 property.2 } := by
        unfold decodeProperty
        split
        next is_type => exact absurd is_type.symm no_type.1
        next is_description => exact absurd is_description.symm no_description.1
        · rfl
      rw [List.foldlM_cons, step_eq]
      exact ih no_type.2 no_description.2 _

/-- The properties that have a field of their own. -/
def namedProperties (definition : ParameterDefinition) : List (String × Json) :=
  definition.type.toList.map (fun text => ("Type", Json.string text)) ++
    definition.description.toList.map fun text => ("Description", Json.string text)

theorem nodup_properties {definition : ParameterDefinition} (separated : definition.Separated) :
    (Entries.keys (definition.namedProperties ++ definition.extra.entries)).Nodup := by
  have extra_nodup := definition.extra.nodup
  have no_type := separated.type
  have no_description := separated.description
  rw [OrderedMap.keys] at no_type no_description
  obtain ⟨type, description, extra⟩ := definition
  cases type <;> cases description <;>
    simp [namedProperties, extra_nodup, no_type, no_description]

theorem toJson_eq {definition : ParameterDefinition} (separated : definition.Separated) :
    definition.toJson = .object (definition.namedProperties ++ definition.extra.entries) :=
  congrArg Json.object (Entries.foldl_insert (nodup_properties separated))

/-- A definition is read back from its JSON object. -/
theorem decode_toJson {definition : ParameterDefinition} (separated : definition.Separated) :
    decode definition.toJson = .ok definition := by
  rw [toJson_eq separated, decode, List.foldlM_append]
  obtain ⟨type, description, extra⟩ := definition
  have named_ok : (namedProperties ⟨type, description, extra⟩).foldlM decodeProperty {} =
      .ok { type, description } := by
    cases type <;> cases description <;> rfl
  have extra_eq : (∅ : OrderedMap Json).insertAll extra.entries = extra := extra.ofList_entries
  rw [named_ok]
  refine (foldlM_decodeProperty separated.type separated.description _).trans ?_
  simp only [extra_eq]

end ParameterDefinition

namespace FunctionSpec

/-- A spec that can be read back: its numbers are finite, and no parameter hides a type or a
description among its other properties. -/
structure Representable (spec : FunctionSpec) : Prop where
  /-- The memory is finite. -/
  memorySize : ∀ value ∈ spec.memorySize, value.IsFinite
  /-- The time limit is finite. -/
  timeout : ∀ value ∈ spec.timeout, value.IsFinite
  /-- The threshold is finite. -/
  threshold : ∀ value ∈ spec.threshold, value.IsFinite
  /-- The number of periods is finite. -/
  evaluationPeriods : ∀ value ∈ spec.evaluationPeriods, value.IsFinite
  /-- The length of a period is finite. -/
  period : ∀ value ∈ spec.period, value.IsFinite
  /-- The properties of every parameter are kept apart. -/
  parameters : ∀ parameter ∈ spec.parameters.entries, parameter.2.Separated

theorem separated_of_decodeParameters {value : Json}
    {parameters : OrderedMap ParameterDefinition}
    (decode_ok : decodeParameters value = .ok parameters) :
    ∀ parameter ∈ parameters.entries, parameter.2.Separated := by
  cases value with
  | object members =>
      apply invariant_of_foldlM (fun known : OrderedMap ParameterDefinition =>
        ∀ parameter ∈ known.entries, parameter.2.Separated) ?_ ?_ decode_ok
      · exact fun parameter mem => absurd mem List.not_mem_nil
      · intro known member next separated step_ok
        obtain ⟨definition, definition_ok, rfl⟩ := map_eq_ok_iff.mp step_ok
        intro parameter mem
        rcases Entries.mem_insert mem with rfl | known_mem
        · exact ParameterDefinition.separated_of_decode definition_ok
        · exact separated parameter known_mem
  | null | bool | number | string | array => cases decode_ok

/-- Setting a field to what is decoded keeps a spec representable. -/
theorem Representable.decodeField {spec next : FunctionSpec} {field : String × Json}
    (representable : spec.Representable) (decode_ok : spec.decodeField field = .ok next) :
    next.Representable := by
  unfold FunctionSpec.decodeField at decode_ok
  -- Numbers and parameters are restricted, and an unknown key sets nothing; the rest is free.
  split at decode_ok
  case h_3 =>
    obtain ⟨_, number_ok, rfl⟩ := map_eq_ok_iff.mp decode_ok
    exact { representable with memorySize := Json.isFinite_of_decodeNumber number_ok }
  case h_4 =>
    obtain ⟨_, number_ok, rfl⟩ := map_eq_ok_iff.mp decode_ok
    exact { representable with timeout := Json.isFinite_of_decodeNumber number_ok }
  case h_6 =>
    obtain ⟨_, number_ok, rfl⟩ := map_eq_ok_iff.mp decode_ok
    exact { representable with threshold := Json.isFinite_of_decodeNumber number_ok }
  case h_7 =>
    obtain ⟨_, number_ok, rfl⟩ := map_eq_ok_iff.mp decode_ok
    exact { representable with evaluationPeriods := Json.isFinite_of_decodeNumber number_ok }
  case h_8 =>
    obtain ⟨_, number_ok, rfl⟩ := map_eq_ok_iff.mp decode_ok
    exact { representable with period := Json.isFinite_of_decodeNumber number_ok }
  case h_9 =>
    obtain ⟨_, parameters_ok, rfl⟩ := map_eq_ok_iff.mp decode_ok
    exact { representable with parameters := separated_of_decodeParameters parameters_ok }
  case h_13 =>
    cases decode_ok
    exact representable
  all_goals
    obtain ⟨_, -, rfl⟩ := map_eq_ok_iff.mp decode_ok
    exact { representable with }

theorem representable_of_foldlM {fields : List (String × Json)} {spec : FunctionSpec}
    (decode_ok : fields.foldlM FunctionSpec.decodeField {} = .ok spec) : spec.Representable := by
  refine invariant_of_foldlM Representable ?_ (fun _ _ _ => Representable.decodeField) decode_ok
  constructor <;> simp

/-- Whatever is decoded, from an object or from a list, is representable. -/
theorem representable_of_decode {value : Json} {spec : FunctionSpec}
    (decode_ok : decode value = .ok spec) : spec.Representable := by
  unfold decode at decode_ok
  split at decode_ok
  · exact representable_of_foldlM decode_ok
  · split at decode_ok
    · cases decode_ok
    next fields_ok =>
      split at decode_ok
      · cases decode_ok
      · cases decode_ok
        exact representable_of_foldlM fields_ok
  · cases decode_ok

/-- Some members set the fields of one spec to those of another. -/
def Sets (members : List (String × Json)) (start final : FunctionSpec) : Prop :=
  members.foldlM decodeField start = .ok final

theorem Sets.append {front back : List (String × Json)} {start middle final : FunctionSpec}
    (first : Sets front start middle) (second : Sets back middle final) :
    Sets (front ++ back) start final := by
  unfold Sets at *
  rw [List.foldlM_append, first]
  exact second

/-- The member of a field sets it, and nothing happens without one. -/
theorem sets_encodeField {α : Type} (key : String) {encode : α → Json} {value : Option α}
    (put : Option α → FunctionSpec) {read : Json → Except Mismatch α}
    (read_ok : ∀ given ∈ value, (encode given).decodeOptional read = .ok (some given))
    (field_eq : ∀ member, (put none).decodeField (key, member) =
      (member.decodeOptional read).map put) :
    Sets (encodeField key encode value) (put none) (put value) := by
  cases value with
  | none => rfl
  | some given =>
      unfold Sets
      rw [encodeField, Option.toList_some, List.map_singleton, List.foldlM_cons, field_eq,
        read_ok given rfl]
      rfl

theorem decodeOptional_string (text : String) :
    (Json.string text).decodeOptional Json.decodeText = .ok (some text) := rfl

theorem decodeOptional_encodeNumber {value : Binary64} (finite : value.IsFinite) :
    (encodeNumber value).decodeOptional Json.decodeNumber = .ok (some value) := by
  obtain ⟨_, rfl⟩ := finite
  rfl

theorem decodeOptional_ofMap (map : OrderedMap Json) :
    (Json.ofMap map).decodeOptional Json.decodeMap = .ok (some map) :=
  congrArg (Except.map some) (Json.decodeMap_ofMap map)

theorem decodeOptional_statements (statements : List (OrderedMap Json)) :
    (Json.array (statements.map Json.ofMap)).decodeOptional (Json.decodeList Json.decodeMap) =
      .ok (some statements) :=
  congrArg (Except.map some) (Json.decodeList_decodeMap statements)

theorem foldlM_parameters {parameters : List (String × ParameterDefinition)}
    (separated : ∀ parameter ∈ parameters, parameter.2.Separated)
    (known : OrderedMap ParameterDefinition) :
    (parameters.map fun parameter => (parameter.1, parameter.2.toJson)).foldlM
        (fun parameters member =>
          (ParameterDefinition.decode member.2).map (parameters.insert member.1)) known =
      .ok (known.insertAll parameters) := by
  induction parameters generalizing known with
  | nil => rfl
  | cons parameter rest ih =>
      obtain ⟨head, later⟩ := List.forall_mem_cons.mp separated
      rw [List.map_cons, List.foldlM_cons, ParameterDefinition.decode_toJson head]
      exact ih later _

theorem decodeParameters_ofMap {parameters : OrderedMap ParameterDefinition}
    (separated : ∀ parameter ∈ parameters.entries, parameter.2.Separated) :
    decodeParameters (.ofMap (parameters.map ParameterDefinition.toJson)) = .ok parameters := by
  refine (foldlM_parameters separated ∅).trans ?_
  exact congrArg Except.ok parameters.ofList_entries

theorem sets_encodeParameters {parameters : OrderedMap ParameterDefinition}
    (separated : ∀ parameter ∈ parameters.entries, parameter.2.Separated)
    (put : OrderedMap ParameterDefinition → FunctionSpec)
    (decode_ok : ∀ value, (put ∅).decodeField ("parameters", value) =
      (decodeParameters value).map put) :
    Sets (encodeParameters parameters) (put ∅) (put parameters) := by
  unfold Sets encodeParameters
  by_cases empty : parameters.isEmpty
  · have none_declared : parameters = ∅ := OrderedMap.ext (List.isEmpty_iff.mp empty)
    rw [if_pos empty, none_declared]
    rfl
  · rw [if_neg empty, List.foldlM_cons, decode_ok, decodeParameters_ofMap separated]
    rfl

/-- A representable spec is decoded from its object. -/
theorem decode_toJson {spec : FunctionSpec} (representable : spec.Representable) :
    decode spec.toJson = .ok spec := by
  obtain ⟨memory_finite, timeout_finite, threshold_finite, periods_finite, period_finite,
    separated⟩ := representable
  obtain ⟨name, runtime, memorySize, timeout, handler, threshold, evaluationPeriods, period,
    parameters, statements, eventSources, destinations⟩ := spec
  have text_ok {value : Option String} : ∀ text ∈ value,
      (Json.string text).decodeOptional Json.decodeText = .ok (some text) :=
    fun text _ => decodeOptional_string text
  have number_ok {value : Option Binary64} (finite : ∀ number ∈ value, number.IsFinite) :
      ∀ number ∈ value,
        (encodeNumber number).decodeOptional Json.decodeNumber = .ok (some number) :=
    fun number mem => decodeOptional_encodeNumber (finite number mem)
  have map_ok {value : Option (OrderedMap Json)} : ∀ map ∈ value,
      (Json.ofMap map).decodeOptional Json.decodeMap = .ok (some map) :=
    fun map _ => decodeOptional_ofMap map
  have sets_name : Sets [("name", .string name)] {} { name } := rfl
  -- One member after the other, each over the fields that those before it have set.
  exact sets_name
    |>.append (sets_encodeField "runtime" ({ name, runtime := · }) text_ok fun _ => rfl)
    |>.append (sets_encodeField "memorySize" ({ name, runtime, memorySize := · })
      (number_ok memory_finite) fun _ => rfl)
    |>.append (sets_encodeField "timeout" ({ name, runtime, memorySize, timeout := · })
      (number_ok timeout_finite) fun _ => rfl)
    |>.append (sets_encodeField "handler" ({ name, runtime, memorySize, timeout, handler := · })
      text_ok fun _ => rfl)
    |>.append (sets_encodeField "threshold"
      ({ name, runtime, memorySize, timeout, handler, threshold := · })
      (number_ok threshold_finite) fun _ => rfl)
    |>.append (sets_encodeField "evaluationPeriods"
      ({ name, runtime, memorySize, timeout, handler, threshold, evaluationPeriods := · })
      (number_ok periods_finite) fun _ => rfl)
    |>.append (sets_encodeField "period"
      ({ name, runtime, memorySize, timeout, handler, threshold, evaluationPeriods, period := · })
      (number_ok period_finite) fun _ => rfl)
    |>.append (sets_encodeParameters separated
      ({ name, runtime, memorySize, timeout, handler, threshold, evaluationPeriods, period,
         parameters := · })
      fun _ => rfl)
    |>.append (sets_encodeField "statements"
      ({ name, runtime, memorySize, timeout, handler, threshold, evaluationPeriods, period,
         parameters, statements := · })
      (fun given _ => decodeOptional_statements given) fun _ => rfl)
    |>.append (sets_encodeField "eventSources"
      ({ name, runtime, memorySize, timeout, handler, threshold, evaluationPeriods, period,
         parameters, statements, eventSources := · })
      map_ok fun _ => rfl)
    |>.append (sets_encodeField "destinations"
      ({ name, runtime, memorySize, timeout, handler, threshold, evaluationPeriods, period,
         parameters, statements, eventSources, destinations := · })
      map_ok fun _ => rfl)

theorem isNumeric_encodeNumber (value : Binary64) : isNumeric (encodeNumber value) = true := by
  cases value <;> rfl

theorem mem_encodeField {α : Type} {name key : String} {encode : α → Json} {value : Option α}
    {member : Json} (mem : (key, member) ∈ encodeField name encode value) :
    key = name ∧ ∃ given, member = encode given := by
  obtain ⟨given, -, same⟩ := List.mem_map.mp mem
  cases same
  exact ⟨rfl, given, rfl⟩

theorem mem_encodeParameters {parameters : OrderedMap ParameterDefinition} {key : String}
    {member : Json} (mem : (key, member) ∈ encodeParameters parameters) : key = "parameters" := by
  unfold encodeParameters at mem
  split at mem
  · cases mem
  · exact congrArg Prod.fst (List.mem_singleton.mp mem)

/-- What stands at a numeric key of an object of a spec is a number or null. -/
theorem isNumeric_of_member?_toJson {spec : FunctionSpec} {key : String}
    {member : Json} (numeric : key ∈ numericKeys)
    (found : spec.toJson.member? key = some member) : isNumeric member = true := by
  have mem := Entries.mem_of_lookup found
  have other {name : String} (key_eq : key = name) (not_numeric : name ∉ numericKeys) : False :=
    not_numeric (key_eq ▸ numeric)
  have number {name : String} {value : Option Binary64}
      (mem : (key, member) ∈ encodeField name encodeNumber value) : isNumeric member = true := by
    obtain ⟨-, _, rfl⟩ := mem_encodeField mem
    exact isNumeric_encodeNumber _
  simp only [List.mem_append, List.mem_singleton, Prod.mk.injEq] at mem
  rcases mem with (((((((((((⟨key_eq, -⟩ | runtime) | memory_size) | timeout) | handler) |
    threshold) | periods) | period) | parameters) | statements) | event_sources) | destinations)
  · exact (other key_eq (by decide)).elim
  · exact (other (mem_encodeField runtime).1 (by decide)).elim
  · exact number memory_size
  · exact number timeout
  · exact (other (mem_encodeField handler).1 (by decide)).elim
  · exact number threshold
  · exact number periods
  · exact number period
  · exact (other (mem_encodeParameters parameters) (by decide)).elim
  · exact (other (mem_encodeField statements).1 (by decide)).elim
  · exact (other (mem_encodeField event_sources).1 (by decide)).elim
  · exact (other (mem_encodeField destinations).1 (by decide)).elim

theorem nonNumericMember?_toJson (spec : FunctionSpec) : nonNumericMember? spec.toJson = none := by
  refine List.findSome?_eq_none_iff.mpr fun key numeric => ?_
  rw [Option.map_eq_none_iff, Option.filter_eq_none_iff]
  intro member found
  simp [isNumeric_of_member?_toJson numeric found]

theorem decode_of_ofJson {value : Json} {spec : FunctionSpec}
    (read_ok : ofJson value = .ok spec) : decode value = .ok spec := by
  unfold ofJson at read_ok
  split at read_ok
  · cases read_ok
  · split at read_ok
    · cases read_ok
    next decode_ok =>
      cases read_ok
      exact decode_ok

/-- The specs that are read back from the object that is written for them. -/
theorem ofJson_toJson_eq_ok_iff {spec : FunctionSpec} :
    ofJson spec.toJson = .ok spec ↔ spec.Representable := by
  constructor
  · intro read_ok
    exact representable_of_decode (decode_of_ofJson read_ok)
  · intro representable
    rw [ofJson, nonNumericMember?_toJson]
    simp only [decode_toJson representable]

/-- Reading undoes writing: a spec that was read from any value, an object or a list, is read back
unchanged, all orders included, from the object that is written for it, so that writing it once more
changes nothing. -/
theorem ofJson_toJson_of_ofJson {value : Json} {spec : FunctionSpec}
    (read_ok : ofJson value = .ok spec) :
    ofJson spec.toJson = .ok spec ∧ (ofJson spec.toJson).map toJson = .ok spec.toJson := by
  have read_back : ofJson spec.toJson = .ok spec :=
    ofJson_toJson_eq_ok_iff.mpr (representable_of_decode (decode_of_ofJson read_ok))
  exact ⟨read_back, congrArg (Except.map toJson) read_back⟩

/-- A value whose members are not in order of declaration, with a null, an integer for a number, a
parameter with properties of its own, and nested raw maps. -/
def shuffledValue : Json :=
  .object
    [("destinations", .object [("zeta", .object [("b", .null), ("a", .bool true)])]),
     ("timeout", .number (.integer 300 (by decide))),
     ("runtime", .null),
     ("unknown", .array []),
     ("parameters", .object
       [("Second", .object [("Default", .string "x"), ("Type", .string "String"),
          ("AllowedValues", .array [.string "x", .null])]),
        ("First", .object [("Description", .null)])]),
     ("name", .string "shuffled"),
     ("statements", .array [.object [("Effect", .string "Allow"), ("Action", .string "*")]])]

/-- The spec of that value. -/
def shuffled : FunctionSpec where
  name := "shuffled"
  timeout := some (.ofInt 300)
  parameters := .ofList
    [("Second",
      { type := some "String"
        extra := .ofList
          [("Default", .string "x"), ("AllowedValues", .array [.string "x", .null])] }),
     ("First", {})]
  statements := some [.ofList [("Effect", .string "Allow"), ("Action", .string "*")]]
  destinations := some (.ofList [("zeta", .object [("b", .null), ("a", .bool true)])])

theorem ofJson_toJson_shuffled :
    ofJson shuffledValue = .ok shuffled ∧
    ofJson shuffled.toJson = .ok shuffled ∧
    (ofJson shuffled.toJson).map toJson = .ok shuffled.toJson :=
  have read_ok : ofJson shuffledValue = .ok shuffled := by rfl
  ⟨read_ok, ofJson_toJson_of_ofJson read_ok⟩

end FunctionSpec
end LambdaStack

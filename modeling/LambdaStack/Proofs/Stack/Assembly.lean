import LambdaStack.Proofs.Document.Merging
import LambdaStack.Proofs.Stack.Resources

/-!
# Assembly

The steps of compilation, followed one by one. When the fields of a spec are in order, the fragments
are those of the layout; they merge and complete exactly when no identifier is used twice, and the
only other thing that can go wrong is the number of parameters.
-/

namespace LambdaStack

namespace Parameters

/-- A fragment that holds nothing but parameters. -/
def holding (entries : List (String × Json)) : Fragment where
  parameters := .ofList entries

theorem insert_holding (entries : List (String × Json)) (key : String) (value : Json) :
    (holding entries).insert .parameters key value = holding (entries ++ [(key, value)]) := by
  rw [holding, holding, OrderedMap.ofList_concat]
  rfl

theorem foldlM_declare {declared : List (String × ParameterDefinition)}
    (valid : ∀ parameter ∈ declared, validate parameter.1 parameter.2 = .ok ())
    (front : List (String × Json)) :
    declared.foldlM declare (holding front) =
      .ok (holding (front ++ declared.map fun parameter =>
        (parameter.1, parameter.2.toJson))) := by
  induction declared generalizing front with
  | nil => simp [pure, Except.pure]
  | cons parameter rest ih =>
      have declare_eq : declare (holding front) parameter =
          .ok (holding (front ++ [(parameter.1, parameter.2.toJson)])) := by
        rw [declare, valid parameter List.mem_cons_self, ← insert_holding]
        rfl
      rw [List.foldlM_cons, declare_eq]
      change rest.foldlM declare _ = _
      rw [ih fun later mem => valid later (List.mem_cons_of_mem _ mem)]
      simp

theorem validate_of_foldlM_declare {declared : List (String × ParameterDefinition)}
    {base result : Fragment} (declare_ok : declared.foldlM declare base = .ok result) :
    ∀ parameter ∈ declared, validate parameter.1 parameter.2 = .ok () := by
  induction declared generalizing base with
  | nil => simp
  | cons first rest ih =>
      rw [List.foldlM_cons, bind_eq_ok_iff] at declare_ok
      obtain ⟨next, first_ok, rest_ok⟩ := declare_ok
      obtain ⟨_, validate_ok, -⟩ := map_eq_ok_iff.mp first_ok
      exact List.forall_mem_cons.mpr ⟨validate_ok, ih rest_ok⟩

theorem foldlM_addProvenance {front added : List (String × Json)}
    (nodup : (Entries.keys (front ++ added)).Nodup) :
    added.foldlM addProvenance (holding front) = .ok (holding (front ++ added)) := by
  induction added generalizing front with
  | nil => simp [pure, Except.pure]
  | cons entry rest ih =>
      rw [List.append_cons] at nodup
      have absent : entry.1 ∉ (holding front).parameters.keys := fun mem => by
        rw [Entries.keys_append, Entries.keys_append, List.nodup_append, List.nodup_append] at nodup
        exact nodup.1.2.2 entry.1 (OrderedMap.mem_keys_ofList.mp mem) entry.1 (by simp) rfl
      rw [List.foldlM_cons, addProvenance, Fragment.insertNew_of_not_mem _ absent, insert_holding]
      change rest.foldlM addProvenance _ = _
      rw [ih nodup]
      simp

theorem foldlM_addProvenance_of_repeated {front added : List (String × Json)}
    (front_nodup : (Entries.keys front).Nodup)
    (repeated : ¬(Entries.keys (front ++ added)).Nodup) :
    ∃ part key, added.foldlM addProvenance (holding front) = .error (.duplicateKey part key) := by
  induction added generalizing front with
  | nil => exact absurd (by simpa using front_nodup) repeated
  | cons entry rest ih =>
      rw [List.foldlM_cons]
      by_cases bound : entry.1 ∈ (holding front).parameters.keys
      · refine ⟨Section.parameters.name, entry.1, ?_⟩
        rw [addProvenance, Fragment.insertNew_of_mem _ bound]
        rfl
      · have extended : (Entries.keys (front ++ [entry])).Nodup := by
          rw [Entries.keys_append]
          refine List.nodup_append.mpr ⟨front_nodup, by simp, ?_⟩
          rintro left left_mem right right_mem rfl
          rw [List.mem_singleton.mp right_mem] at left_mem
          exact bound (OrderedMap.mem_keys_ofList.mpr left_mem)
        rw [addProvenance, Fragment.insertNew_of_not_mem _ bound, insert_holding]
        rw [List.append_cons] at repeated
        exact ih extended repeated

end Parameters

namespace FunctionSpec

theorem keys_declaredEntries (spec : FunctionSpec) :
    Entries.keys spec.declaredEntries = spec.parameters.keys := by
  simp [declaredEntries, Entries.keys, OrderedMap.keys]

/-- The parameters up to those that tell where the code is. -/
def frontParameters (spec : FunctionSpec) : List (String × Json) :=
  spec.declaredEntries ++ Parameters.provenance

theorem parametersFragment_of_nodup {spec : FunctionSpec}
    (valid : ∀ parameter ∈ spec.parameters.entries,
      Parameters.validate parameter.1 parameter.2 = .ok ())
    (nodup : (Entries.keys spec.frontParameters).Nodup) :
    Parameters.fragment spec = .ok (Parameters.holding spec.frontParameters) := by
  have declare_eq := Parameters.foldlM_declare valid []
  change spec.parameters.entries.foldlM Parameters.declare Fragment.empty = _ at declare_eq
  rw [Parameters.fragment, declare_eq]
  exact Parameters.foldlM_addProvenance nodup

theorem parametersFragment_of_repeated {spec : FunctionSpec}
    (valid : ∀ parameter ∈ spec.parameters.entries,
      Parameters.validate parameter.1 parameter.2 = .ok ())
    (repeated : ¬(Entries.keys spec.frontParameters).Nodup) :
    ∃ part key, Parameters.fragment spec = .error (.duplicateKey part key) := by
  have declare_eq := Parameters.foldlM_declare valid []
  change spec.parameters.entries.foldlM Parameters.declare Fragment.empty = _ at declare_eq
  rw [Parameters.fragment, declare_eq]
  refine Parameters.foldlM_addProvenance_of_repeated ?_ repeated
  rw [List.nil_append]
  exact keys_declaredEntries spec ▸ spec.parameters.nodup

theorem specPolicies_eq_ok_iff {spec : FunctionSpec} {policies : List Json} :
    Role.specPolicies spec = .ok policies ↔
      (∀ statements ∈ spec.statements, Role.validateStatements statements = .ok ()) ∧
        policies = spec.statementPolicies := by
  unfold Role.specPolicies statementPolicies
  cases spec.statements with
  | none => simp [eq_comm]
  | some statements =>
      simp only [map_eq_ok_iff, exists_and_right, Option.mem_some_iff, forall_eq']
      exact and_congr ⟨fun ⟨_, valid⟩ => valid, fun valid => ⟨(), valid⟩⟩ eq_comm

end FunctionSpec

/-- A map with an entry for each topic, under its name and a suffix, has just these entries. -/
theorem TopicDestination.entries_ofList_map {topics : List TopicDestination}
    (nodup : (topics.map name).Nodup) (suffix : String) (value : TopicDestination → Json) :
    (OrderedMap.ofList (topics.map fun topic => (topic.name ++ suffix, value topic))).entries =
      topics.map fun topic => (topic.name ++ suffix, value topic) := by
  apply OrderedMap.entries_ofList
  have keys_eq : Entries.keys (topics.map fun topic => (topic.name ++ suffix, value topic)) =
      (topics.map name).map (· ++ suffix) := by
    simp [Entries.keys]
  rw [keys_eq]
  exact nodup.map (Identifier.injective_append suffix)

theorem TopicDestination.gather_entries {groups : List Destination}
    (nodup : ((groups.flatMap Destination.entries).map name).Nodup) (suffix : String)
    (value : TopicDestination → Json) :
    (groups.flatMap fun group => (OrderedMap.ofList (group.entries.map fun topic =>
        (topic.name ++ suffix, value topic))).entries) =
      (groups.flatMap Destination.entries).map fun topic =>
        (topic.name ++ suffix, value topic) := by
  rw [List.map_flatMap]
  refine List.flatMap_congr fun group mem => entries_ofList_map ?_ suffix value
  rw [List.map_flatMap, List.nodup_flatMap] at nodup
  exact nodup.1 group mem

namespace FunctionSpec

/-- The resources of all fragments, with the given function and execution role. -/
def mergedResources (spec : FunctionSpec) (settings : Settings) (reading : Reading)
    (function defaultRole : Json) : List (String × Json) :=
  Alarms.resources spec settings ++ [(spec.name, function), (Names.defaultRole, defaultRole)] ++
    reading.triggers.flatMap (Trigger.resources spec.name settings) ++
    reading.topics.map (fun topic => (topic.topicName, topic.topic))

/-- The parameters of all fragments. -/
def mergedParameters (spec : FunctionSpec) (reading : Reading) : List (String × Json) :=
  spec.frontParameters ++ [(Names.alarmEmail, Alarms.emailParameter)] ++
    reading.topics.map fun topic => (topic.emailName, topic.email)

/-- The resource of the function before it receives variables. -/
def bareFunction (spec : FunctionSpec) (reading : Reading) : Json :=
  Function.resource spec reading.runtime reading.handler ∅

/-- The execution role before it receives the policies of topics. -/
def bareRole (spec : FunctionSpec) (reading : Reading) : Json :=
  .object (Role.members reading.triggers [] spec.statementPolicies)

/-- The fragments of a spec as one. -/
def mergedFragment (spec : FunctionSpec) (settings : Settings) (reading : Reading) :
    Fragment where
  parameters := .ofList (spec.mergedParameters reading)
  resources := .ofList
    (spec.mergedResources settings reading (spec.bareFunction reading) (spec.bareRole reading))
  outputs := .ofList (spec.outputEntries reading)
  environment := .ofList (topicVariables reading)
  policies := reading.topics.map (TopicDestination.policy spec.name)

/-- Entries of a section of the merged fragment, a key that occurs twice included. -/
def mergedEntries (spec : FunctionSpec) (settings : Settings) (reading : Reading) :
    Section → List (String × Json)
  | .parameters => spec.mergedParameters reading
  | .resources =>
    spec.mergedResources settings reading (spec.bareFunction reading) (spec.bareRole reading)
  | .outputs => spec.outputEntries reading
  | .environment => topicVariables reading
  | .metadata | .mappings | .conditions => []

/-- The fragments of a spec whose fields are in order. -/
def builtFragments (spec : FunctionSpec) (settings : Settings) (reading : Reading)
    (groups : List Destination) : List Fragment :=
  [
    Parameters.holding spec.frontParameters,
    Alarms.fragment spec settings,
    { resources := .ofList [(spec.name, spec.bareFunction reading)] },
    { resources := .ofList [(Names.defaultRole, spec.bareRole reading)] }
  ] ++ reading.triggers.map (spec.triggerFragment settings) ++
    groups.map fun group => TopicDestination.fragment spec group.entries

theorem fragments_of_reads {spec : FunctionSpec} {settings : Settings} {reading : Reading}
    (reads : spec.Reads settings reading) (nodup : (Entries.keys spec.frontParameters).Nodup)
    (groups : List Destination) :
    spec.fragments settings reading.triggers groups =
      .ok (spec.builtFragments settings reading groups) := by
  have function_ok : Function.fragment spec settings =
      .ok { resources := .ofList [(spec.name, spec.bareFunction reading)] } := by
    rw [Function.fragment, reads.runtime, reads.handler]
    rfl
  have role_ok : Role.fragment spec reading.triggers =
      .ok { resources := .ofList [(Names.defaultRole, spec.bareRole reading)] } := by
    rw [Role.fragment, Role.namedFragment, Role.body,
      specPolicies_eq_ok_iff.mpr ⟨reads.statements, rfl⟩]
    rfl
  rw [fragments, parametersFragment_of_nodup reads.parameters nodup, function_ok, role_ok]
  rfl

theorem triggerFragment_entries (spec : FunctionSpec) (settings : Settings) (trigger : Trigger)
    (part : Section) :
    ((spec.triggerFragment settings trigger).entries part).entries =
      match part with
      | .resources => trigger.resources spec.name settings
      | .outputs => trigger.outputs spec.name
      | _ => [] := by
  have resources_eq := OrderedMap.entries_ofList (trigger.nodup_keys_resources spec.name settings)
  have outputs_eq := OrderedMap.entries_ofList (trigger.nodup_keys_outputs spec.name)
  cases part <;> cases trigger <;> first | rfl | exact resources_eq | exact outputs_eq

theorem nodup_keys_alarms (spec : FunctionSpec) (settings : Settings) :
    (Entries.keys (Alarms.resources spec settings)).Nodup := by
  have errors_distinctive : Identifier.Distinctive "AlarmErrors" := ⟨by decide, by decide⟩
  have missing_distinctive : Identifier.Distinctive "AlarmNoInvocations" := ⟨by decide, by decide⟩
  have shared : Identifier.ending Names.alarmTopic ∈ Identifier.sharedEndings := by decide
  rw [Alarms.keys_resources]
  simp [errors_distinctive.append_ne spec.name shared,
    missing_distinctive.append_ne spec.name shared]

/-- The fragments hold the merged entries, section by section. -/
theorem gather_builtFragments {spec : FunctionSpec} {settings : Settings} {reading : Reading}
    {groups : List Destination} (front_nodup : (Entries.keys spec.frontParameters).Nodup)
    (groups_eq : groups.flatMap Destination.entries = reading.topics)
    (topics_nodup : reading.topicNames.Nodup) (part : Section) :
    Fragment.gather (spec.builtFragments settings reading groups) part =
      spec.mergedEntries settings reading part := by
  have names_nodup : ((groups.flatMap Destination.entries).map TopicDestination.name).Nodup := by
    rw [groups_eq]
    exact topics_nodup
  have emails_eq := TopicDestination.gather_entries names_nodup "Email" TopicDestination.email
  have topics_eq := TopicDestination.gather_entries names_nodup "Topic" TopicDestination.topic
  have bound_eq := TopicDestination.gather_entries names_nodup "Topic" fun topic =>
    Expression.reference (topic.name ++ "Topic")
  rw [groups_eq] at emails_eq topics_eq bound_eq
  have front_eq := OrderedMap.entries_ofList front_nodup
  have alarms_eq := OrderedMap.entries_ofList (spec.nodup_keys_alarms settings)
  simp only [Fragment.gather, builtFragments, List.flatMap_append, List.flatMap_map,
    List.flatMap_cons, List.flatMap_nil, triggerFragment_entries]
  cases part with
  | parameters =>
      simp [Fragment.entries, Parameters.holding, Alarms.fragment, TopicDestination.fragment,
        mergedEntries, mergedParameters, front_eq, TopicDestination.emailName, emails_eq]
  | resources =>
      simp [Fragment.entries, Parameters.holding, Alarms.fragment, TopicDestination.fragment,
        mergedEntries, mergedResources, alarms_eq, TopicDestination.topicName, topics_eq]
  | environment =>
      simp [Fragment.entries, Parameters.holding, Alarms.fragment, TopicDestination.fragment,
        mergedEntries, topicVariables, TopicDestination.topicName, bound_eq]
  | outputs =>
      simp [Fragment.entries, Parameters.holding, Alarms.fragment, TopicDestination.fragment,
        mergedEntries, outputEntries]
  | metadata | mappings | conditions =>
      simp [Fragment.entries, Parameters.holding, Alarms.fragment, TopicDestination.fragment,
        mergedEntries]

theorem joined_builtFragments {spec : FunctionSpec} {settings : Settings} {reading : Reading}
    {groups : List Destination} (front_nodup : (Entries.keys spec.frontParameters).Nodup)
    (groups_eq : groups.flatMap Destination.entries = reading.topics)
    (topics_nodup : reading.topicNames.Nodup) :
    Fragment.joined (spec.builtFragments settings reading groups) =
      spec.mergedFragment settings reading := by
  refine Fragment.ext_entries (fun part => ?_) ?_
  · rw [Fragment.entries_joined, gather_builtFragments front_nodup groups_eq topics_nodup]
    cases part <;> rfl
  · have triggers_eq : ∀ trigger, (spec.triggerFragment settings trigger).policies = [] := by
      rintro (_ | _ | _) <;> rfl
    have topics_eq : (groups.flatMap fun group =>
        (TopicDestination.fragment spec group.entries).policies) =
          reading.topics.map (TopicDestination.policy spec.name) := by
      rw [← groups_eq, List.map_flatMap]
      rfl
    simp [builtFragments, List.flatMap_map, triggers_eq, topics_eq, mergedFragment,
      Parameters.holding, Alarms.fragment]

theorem compatible_builtFragments {spec : FunctionSpec} {settings : Settings} {reading : Reading}
    {groups : List Destination} (front_nodup : (Entries.keys spec.frontParameters).Nodup)
    (groups_eq : groups.flatMap Destination.entries = reading.topics)
    (topics_nodup : reading.topicNames.Nodup) :
    Fragment.Compatible (spec.builtFragments settings reading groups) ↔
      ∀ part, (Entries.keys (spec.mergedEntries settings reading part)).Nodup := by
  simp only [Fragment.Compatible, gather_builtFragments front_nodup groups_eq topics_nodup]

/-- The dispatch role before it receives the policies of topics. -/
def bareDispatchRole (spec : FunctionSpec) (reading : Reading) : Json :=
  .object (Role.members reading.triggers [Dispatch.publishStatement] spec.statementPolicies ++
    [("Condition", .string Names.hasDispatch)])

/-- The resources of the document, with the given function and execution roles. -/
def resourcesWith (spec : FunctionSpec) (settings : Settings) (reading : Reading)
    (function defaultRole dispatchRole : Json) : List (String × Json) :=
  spec.mergedResources settings reading function defaultRole ++
    [(Names.dispatchRole, dispatchRole)]

/-- The fragments of a spec as one, with dispatch support. -/
def supportedFragment (spec : FunctionSpec) (settings : Settings) (reading : Reading) :
    Fragment where
  parameters := .ofList (spec.parameterEntries reading)
  conditions := .ofList [(Names.hasDispatch, Dispatch.condition)]
  resources := .ofList (spec.resourcesWith settings reading (spec.bareFunction reading)
    (spec.bareRole reading) (spec.bareDispatchRole reading))
  outputs := .ofList (spec.outputEntries reading)
  environment := .ofList (topicVariables reading)
  policies := reading.topics.map (TopicDestination.policy spec.name)

theorem dispatchRole_of_valid {spec : FunctionSpec} {reading : Reading}
    (valid : ∀ statements ∈ spec.statements, Role.validateStatements statements = .ok ()) :
    Dispatch.role spec reading.triggers = .ok (spec.bareDispatchRole reading) := by
  rw [Dispatch.role, Role.body, specPolicies_eq_ok_iff.mpr ⟨valid, rfl⟩]
  rfl

/-- The merged fragment with the dispatch condition and its parameter, but without the role. -/
private def parametrized (spec : FunctionSpec) (settings : Settings) (reading : Reading) :
    Fragment :=
  { spec.mergedFragment settings reading with
    parameters := .ofList (spec.parameterEntries reading)
    conditions := .ofList [(Names.hasDispatch, Dispatch.condition)] }

private theorem insertNew_parameter {spec : FunctionSpec} {settings : Settings}
    {reading : Reading}
    (absent : Names.dispatchTopic ∉ Entries.keys (spec.mergedParameters reading)) :
    (Dispatch.withCondition (spec.mergedFragment settings reading)).insertNew .parameters
      Names.dispatchTopic Dispatch.parameter = .ok (spec.parametrized settings reading) := by
  have absent_keys : Names.dispatchTopic ∉
      ((Dispatch.withCondition (spec.mergedFragment settings reading)).entries .parameters).keys :=
    fun mem => absent (OrderedMap.mem_keys_ofList.mp mem)
  have entries_eq : spec.parameterEntries reading =
      spec.mergedParameters reading ++ [(Names.dispatchTopic, Dispatch.parameter)] := rfl
  rw [Fragment.insertNew_of_not_mem _ absent_keys, parametrized, entries_eq,
    OrderedMap.ofList_concat]
  rfl

/-- Dispatch support is added when neither its parameter nor its role is there before. -/
theorem support_of_absent {spec : FunctionSpec} {settings : Settings} {reading : Reading}
    (valid : ∀ statements ∈ spec.statements, Role.validateStatements statements = .ok ())
    (parameter_absent : Names.dispatchTopic ∉ Entries.keys (spec.mergedParameters reading))
    (role_absent : Names.dispatchRole ∉ Entries.keys (spec.mergedResources settings reading
      (spec.bareFunction reading) (spec.bareRole reading))) :
    Dispatch.support (spec.mergedFragment settings reading) spec reading.triggers =
      .ok (spec.supportedFragment settings reading) := by
  have absent_keys : Names.dispatchRole ∉
      ((spec.parametrized settings reading).entries .resources).keys :=
    fun mem => role_absent (OrderedMap.mem_keys_ofList.mp mem)
  rw [Dispatch.support, insertNew_parameter parameter_absent, dispatchRole_of_valid valid]
  change (spec.parametrized settings reading).insertNew _ _ _ = _
  rw [Fragment.insertNew_of_not_mem _ absent_keys, supportedFragment, resourcesWith,
    OrderedMap.ofList_concat]
  rfl

theorem support_of_present {spec : FunctionSpec} {settings : Settings} {reading : Reading}
    (valid : ∀ statements ∈ spec.statements, Role.validateStatements statements = .ok ())
    (present : Names.dispatchTopic ∈ Entries.keys (spec.mergedParameters reading) ∨
      Names.dispatchRole ∈ Entries.keys (spec.mergedResources settings reading
        (spec.bareFunction reading) (spec.bareRole reading))) :
    ∃ part key, Dispatch.support (spec.mergedFragment settings reading) spec reading.triggers =
      .error (.duplicateKey part key) := by
  by_cases parameter_mem : Names.dispatchTopic ∈ Entries.keys (spec.mergedParameters reading)
  · have mem_keys : Names.dispatchTopic ∈
        ((Dispatch.withCondition (spec.mergedFragment settings reading)).entries
          .parameters).keys :=
      OrderedMap.mem_keys_ofList.mpr parameter_mem
    rw [Dispatch.support, Fragment.insertNew_of_mem _ mem_keys]
    exact ⟨_, _, rfl⟩
  · have mem_keys : Names.dispatchRole ∈
        ((spec.parametrized settings reading).entries .resources).keys :=
      OrderedMap.mem_keys_ofList.mpr (present.resolve_left parameter_mem)
    rw [Dispatch.support, insertNew_parameter parameter_mem, dispatchRole_of_valid valid]
    exact ⟨_, _, Fragment.insertNew_of_mem _ mem_keys⟩

theorem checkParameters_supported {spec : FunctionSpec} {settings : Settings} {reading : Reading}
    (nodup : (Entries.keys (spec.parameterEntries reading)).Nodup) :
    Completion.checkParameters (spec.supportedFragment settings reading) =
      if Completion.parameterLimit < spec.parameterCount reading then
        .error (.tooManyParameters (spec.parameterCount reading) Completion.parameterLimit)
      else .ok () := by
  have size_eq : (spec.supportedFragment settings reading).parameters.size =
      spec.parameterCount reading := by
    rw [← length_parameterEntries, supportedFragment, OrderedMap.size,
      OrderedMap.entries_ofList nodup]
  rw [Completion.checkParameters, size_eq]

theorem environment_supported {spec : FunctionSpec} {settings : Settings} {reading : Reading}
    (nodup : (Entries.keys (spec.parameterEntries reading)).Nodup) :
    Completion.environment (spec.supportedFragment settings reading) =
      .ofList (spec.variableEntries reading) := by
  rw [Completion.environment, supportedFragment, OrderedMap.keys_ofList nodup,
    OrderedMap.insertAll_ofList, OrderedMap.insertAll_ofList, variableEntries]

theorem keys_resourcesWith (spec : FunctionSpec) (settings : Settings) (reading : Reading)
    (function defaultRole dispatchRole : Json) :
    Entries.keys (spec.resourcesWith settings reading function defaultRole dispatchRole) =
      Entries.keys (spec.resourceEntries settings reading) := by
  simp [resourcesWith, mergedResources, resourceEntries]

section Replacing

variable {spec : FunctionSpec} {settings : Settings} {reading : Reading}

theorem nodup_keys_resourcesWith (unambiguous : spec.Unambiguous settings reading)
    (function defaultRole dispatchRole : Json) :
    (Entries.keys (spec.resourcesWith settings reading function defaultRole
      dispatchRole)).Nodup := by
  rw [keys_resourcesWith]
  exact unambiguous.resources

theorem find?_defaultRole (unambiguous : spec.Unambiguous settings reading)
    (function defaultRole dispatchRole : Json) :
    (OrderedMap.ofList (spec.resourcesWith settings reading function defaultRole
      dispatchRole)).find? Names.defaultRole = some defaultRole :=
  OrderedMap.find?_ofList_of_mem (nodup_keys_resourcesWith unambiguous _ _ _)
    (by simp [resourcesWith, mergedResources])

theorem find?_dispatchRole (unambiguous : spec.Unambiguous settings reading)
    (function defaultRole dispatchRole : Json) :
    (OrderedMap.ofList (spec.resourcesWith settings reading function defaultRole
      dispatchRole)).find? Names.dispatchRole = some dispatchRole :=
  OrderedMap.find?_ofList_of_mem (nodup_keys_resourcesWith unambiguous _ _ _)
    (by simp [resourcesWith])

theorem insert_function (unambiguous : spec.Unambiguous settings reading)
    (old new defaultRole dispatchRole : Json) :
    (OrderedMap.ofList (spec.resourcesWith settings reading old defaultRole dispatchRole)).insert
        spec.name new =
      .ofList (spec.resourcesWith settings reading new defaultRole dispatchRole) := by
  have nodup := nodup_keys_resourcesWith unambiguous old defaultRole dispatchRole
  simp only [resourcesWith, mergedResources, List.append_assoc, List.cons_append] at nodup ⊢
  exact OrderedMap.insert_ofList new nodup

theorem insert_defaultRole (unambiguous : spec.Unambiguous settings reading)
    (function old new dispatchRole : Json) :
    (OrderedMap.ofList (spec.resourcesWith settings reading function old dispatchRole)).insert
        Names.defaultRole new =
      .ofList (spec.resourcesWith settings reading function new dispatchRole) := by
  have nodup := nodup_keys_resourcesWith unambiguous function old dispatchRole
  have front_eq (role : Json) : spec.resourcesWith settings reading function role dispatchRole =
      (Alarms.resources spec settings ++ [(spec.name, function)]) ++ (Names.defaultRole, role) ::
        (reading.triggers.flatMap (Trigger.resources spec.name settings) ++
          reading.topics.map (fun topic => (topic.topicName, topic.topic)) ++
          [(Names.dispatchRole, dispatchRole)]) := by
    simp [resourcesWith, mergedResources]
  rw [front_eq] at nodup
  rw [front_eq, front_eq]
  exact OrderedMap.insert_ofList new nodup

theorem insert_dispatchRole (unambiguous : spec.Unambiguous settings reading)
    (function defaultRole old new : Json) :
    (OrderedMap.ofList (spec.resourcesWith settings reading function defaultRole old)).insert
        Names.dispatchRole new =
      .ofList (spec.resourcesWith settings reading function defaultRole new) :=
  OrderedMap.insert_ofList new (nodup_keys_resourcesWith unambiguous function defaultRole old)

end Replacing

theorem setVariables_resource (spec : FunctionSpec) (runtime : Runtime) (handler : String)
    (bound : OrderedMap Json) :
    Json.modifyAt? (Completion.setVariables bound) ["Properties", "Environment"]
      (Function.resource spec runtime handler ∅) =
        some (Function.resource spec runtime handler bound) := by
  simp [Json.modifyAt?, Function.resource, List.lookup_cons, Completion.setVariables,
    Entries.insert]

theorem addPolicies_members (triggers : List Trigger) (extra front added : List Json)
    (back : List (String × Json)) :
    Json.modifyAt? (Completion.addPolicies added) ["Properties", "Policies"]
      (.object (Role.members triggers extra front ++ back)) =
        some (.object (Role.members triggers extra (front ++ added) ++ back)) := by
  simp [Json.modifyAt?, Role.members, List.lookup_cons, Completion.addPolicies, Entries.insert]

/-- The fragment whose function has its variables. -/
def injectedFragment (spec : FunctionSpec) (settings : Settings) (reading : Reading) : Fragment :=
  { spec.supportedFragment settings reading with
    resources := .ofList (spec.resourcesWith settings reading (spec.functionResource reading)
      (spec.bareRole reading) (spec.bareDispatchRole reading))
    environment := ∅ }

theorem injectEnvironment_supported {spec : FunctionSpec} {settings : Settings}
    {reading : Reading} (unambiguous : spec.Unambiguous settings reading) :
    Completion.injectEnvironment (spec.supportedFragment settings reading) spec.name =
      .ok (spec.injectedFragment settings reading) := by
  have found : (spec.supportedFragment settings reading).resources.find? spec.name =
      some (spec.bareFunction reading) :=
    OrderedMap.find?_ofList_of_mem (nodup_keys_resourcesWith unambiguous _ _ _)
      (by simp [resourcesWith, mergedResources])
  have replaced : (spec.supportedFragment settings reading).resources.insert spec.name
      (spec.functionResource reading) = .ofList (spec.resourcesWith settings reading
        (spec.functionResource reading) (spec.bareRole reading)
        (spec.bareDispatchRole reading)) :=
    insert_function unambiguous _ _ _ _
  simp only [Completion.injectEnvironment, found, Option.bind_some, bareFunction,
    setVariables_resource, environment_supported unambiguous.parameters]
  rw [← functionResource, replaced]
  rfl

theorem extendRole_of_find? {resources : OrderedMap Json} {role : String} {old new : Json}
    {added : List Json} (found : resources.find? role = some old)
    (extended : Json.modifyAt? (Completion.addPolicies added) ["Properties", "Policies"] old =
      some new) :
    Completion.extendRole added resources role = .ok (resources.insert role new) := by
  simp only [Completion.extendRole, found, Option.bind_some, extended]

/-- The fragment that has become the document. -/
def completedFragment (spec : FunctionSpec) (settings : Settings) (reading : Reading) : Fragment :=
  { spec.injectedFragment settings reading with
    resources := .ofList (spec.resourceEntries settings reading)
    policies := [] }

theorem extendRole_default {spec : FunctionSpec} {settings : Settings} {reading : Reading}
    (unambiguous : spec.Unambiguous settings reading) (function dispatchRole : Json) :
    Completion.extendRole (reading.topics.map (TopicDestination.policy spec.name))
        (.ofList (spec.resourcesWith settings reading function (spec.bareRole reading)
          dispatchRole)) Names.defaultRole =
      .ok (.ofList (spec.resourcesWith settings reading function (spec.defaultRole reading)
        dispatchRole)) := by
  have found := find?_defaultRole unambiguous function (spec.bareRole reading) dispatchRole
  have extended : Json.modifyAt?
      (Completion.addPolicies (reading.topics.map (TopicDestination.policy spec.name)))
      ["Properties", "Policies"] (spec.bareRole reading) = some (spec.defaultRole reading) := by
    have members_eq := addPolicies_members reading.triggers [] spec.statementPolicies
      (reading.topics.map (TopicDestination.policy spec.name)) []
    rw [List.append_nil, List.append_nil] at members_eq
    exact members_eq
  rw [extendRole_of_find? found extended, insert_defaultRole unambiguous]

theorem extendRole_dispatch {spec : FunctionSpec} {settings : Settings} {reading : Reading}
    (unambiguous : spec.Unambiguous settings reading) (function defaultRole : Json) :
    Completion.extendRole (reading.topics.map (TopicDestination.policy spec.name))
        (.ofList (spec.resourcesWith settings reading function defaultRole
          (spec.bareDispatchRole reading))) Names.dispatchRole =
      .ok (.ofList (spec.resourcesWith settings reading function defaultRole
        (spec.dispatchRole reading))) := by
  have found := find?_dispatchRole unambiguous function defaultRole (spec.bareDispatchRole reading)
  rw [extendRole_of_find? found (addPolicies_members _ _ _ _ _), insert_dispatchRole unambiguous]
  rfl

theorem aggregatePolicies_injected {spec : FunctionSpec} {settings : Settings}
    {reading : Reading} (unambiguous : spec.Unambiguous settings reading) :
    Completion.aggregatePolicies (spec.injectedFragment settings reading) =
      .ok (spec.completedFragment settings reading) := by
  unfold Completion.aggregatePolicies
  split
  next none_added =>
    have topics_eq : reading.topics = [] := by
      simpa [injectedFragment, supportedFragment] using none_added
    have role_eq : spec.bareRole reading = spec.defaultRole reading := by
      simp [bareRole, defaultRole, rolePolicies, topics_eq]
    have dispatch_eq : spec.bareDispatchRole reading = spec.dispatchRole reading := by
      simp [bareDispatchRole, dispatchRole, rolePolicies, topics_eq]
    have policies_eq : (spec.injectedFragment settings reading).policies = [] := by
      simpa using none_added
    rw [completedFragment, ← policies_eq, injectedFragment, role_eq, dispatch_eq]
    rfl
  next =>
    have policies_eq : (spec.injectedFragment settings reading).policies =
        reading.topics.map (TopicDestination.policy spec.name) := rfl
    have resources_eq : (spec.injectedFragment settings reading).resources =
        .ofList (spec.resourcesWith settings reading (spec.functionResource reading)
          (spec.bareRole reading) (spec.bareDispatchRole reading)) := rfl
    simp only [List.foldlM_cons, List.foldlM_nil, policies_eq, resources_eq, bind, Except.bind,
      extendRole_default unambiguous, extendRole_dispatch unambiguous]
    rfl

private theorem nodup_keys_concat (entries : List (String × Json)) (key : String)
    (value : Json) : (Entries.keys (entries ++ [(key, value)])).Nodup ↔
      (Entries.keys entries).Nodup ∧ key ∉ Entries.keys entries := by
  rw [Entries.keys_append, Entries.keys_cons, Entries.keys_nil, List.nodup_append_comm,
    List.singleton_append, List.nodup_cons]
  exact and_comm

/-- A document is unambiguous when its fragments can be merged and leave room for dispatch
support. -/
theorem unambiguous_iff {spec : FunctionSpec} {settings : Settings} {reading : Reading} :
    spec.Unambiguous settings reading ↔
      (∀ part, (Entries.keys (spec.mergedEntries settings reading part)).Nodup) ∧
        Names.dispatchTopic ∉ Entries.keys (spec.mergedParameters reading) ∧
        Names.dispatchRole ∉ Entries.keys (spec.mergedResources settings reading
          (spec.bareFunction reading) (spec.bareRole reading)) := by
  have parameters_iff := nodup_keys_concat (spec.mergedParameters reading) Names.dispatchTopic
    Dispatch.parameter
  have resources_iff := nodup_keys_concat (spec.mergedResources settings reading
    (spec.bareFunction reading) (spec.bareRole reading)) Names.dispatchRole
    (spec.bareDispatchRole reading)
  have resources_keys := keys_resourcesWith spec settings reading (spec.bareFunction reading)
    (spec.bareRole reading) (spec.bareDispatchRole reading)
  rw [← resourcesWith, resources_keys] at resources_iff
  constructor
  · intro unambiguous
    obtain ⟨parameters_nodup, topic_absent⟩ := parameters_iff.mp unambiguous.parameters
    obtain ⟨resources_nodup, role_absent⟩ := resources_iff.mp unambiguous.resources
    refine ⟨fun part => ?_, topic_absent, role_absent⟩
    cases part with
    | parameters => exact parameters_nodup
    | resources => exact resources_nodup
    | outputs => exact unambiguous.outputs
    | environment => exact unambiguous.environment
    | metadata | mappings | conditions => exact List.nodup_nil
  · rintro ⟨nodup, topic_absent, role_absent⟩
    exact {
      parameters := parameters_iff.mpr ⟨nodup .parameters, topic_absent⟩
      resources := resources_iff.mpr ⟨nodup .resources, role_absent⟩
      outputs := nodup .outputs
      environment := nodup .environment
    }

theorem Unambiguous.nodup_frontParameters {spec : FunctionSpec} {settings : Settings}
    {reading : Reading} (unambiguous : spec.Unambiguous settings reading) :
    (Entries.keys spec.frontParameters).Nodup := by
  have nodup : (Entries.keys (spec.mergedParameters reading)).Nodup :=
    (unambiguous_iff.mp unambiguous).1 .parameters
  rw [mergedParameters, Entries.keys_append, Entries.keys_append] at nodup
  exact nodup.of_append_left.of_append_left

theorem Reads.groups {spec : FunctionSpec} {settings : Settings} {reading : Reading}
    (reads : spec.Reads settings reading) :
    ∃ groups, spec.readDestinations = .ok groups ∧
      groups.flatMap Destination.entries = reading.topics :=
  map_eq_ok_iff.mp reads.topics

/-- The topics of a reading are those that the spec names. -/
theorem Reads.topicNames_eq {spec : FunctionSpec} {settings : Settings} {reading : Reading}
    (reads : spec.Reads settings reading) : reading.topicNames = spec.destinationNames := by
  obtain ⟨groups, groups_ok, groups_eq⟩ := reads.groups
  rw [Reading.topicNames, ← groups_eq]
  exact names_of_topics groups_ok

theorem Reads.nodup_topicNames {spec : FunctionSpec} {settings : Settings} {reading : Reading}
    (reads : spec.Reads settings reading) : reading.topicNames.Nodup := by
  rw [reads.topicNames_eq]
  exact spec.nodup_destinationNames

theorem Reads.isAlphanumeric_name {spec : FunctionSpec} {settings : Settings} {reading : Reading}
    (reads : spec.Reads settings reading) : isAlphanumeric spec.name := by
  have name_ok := reads.name
  unfold checkName at name_ok
  split at name_ok
  · cases name_ok
  · split at name_ok
    · cases name_ok
    next accepted => simpa using accepted

theorem Reads.isAlphanumeric_topicName {spec : FunctionSpec} {settings : Settings}
    {reading : Reading} (reads : spec.Reads settings reading) {name : String}
    (mem : name ∈ reading.topicNames) : isAlphanumeric name := by
  obtain ⟨groups, groups_ok, groups_eq⟩ := reads.groups
  obtain ⟨topic, topic_mem, rfl⟩ := List.mem_map.mp mem
  rw [← groups_eq] at topic_mem
  exact isAlphanumeric_of_mem_topics groups_ok topic topic_mem

/-- A spec whose fields are in order is compiled to its layout when that is unambiguous and within
the limit of parameters; beyond the limit it is refused for their number. -/
theorem embed_of_unambiguous {spec : FunctionSpec} {settings : Settings} {reading : Reading}
    (reads : spec.Reads settings reading) (unambiguous : spec.Unambiguous settings reading) :
    spec.embed settings =
      if Completion.parameterLimit < spec.parameterCount reading then
        .error (.tooManyParameters (spec.parameterCount reading) Completion.parameterLimit)
      else .ok (spec.layout settings reading) := by
  obtain ⟨groups, groups_ok, groups_eq⟩ := reads.groups
  obtain ⟨merged_nodup, topic_absent, role_absent⟩ := unambiguous_iff.mp unambiguous
  have front_nodup := unambiguous.nodup_frontParameters
  have compatible :=
    (compatible_builtFragments front_nodup groups_eq reads.nodup_topicNames).mpr merged_nodup
  have merged_ok := Fragment.mergeAll_of_compatible compatible
  rw [joined_builtFragments front_nodup groups_eq reads.nodup_topicNames] at merged_ok
  simp only [embed, reads.name, reads.triggers, groups_ok, fragments_of_reads reads front_nodup,
    merged_ok, support_of_absent reads.statements topic_absent role_absent,
    checkParameters_supported unambiguous.parameters, bind, Except.bind]
  by_cases beyond : Completion.parameterLimit < spec.parameterCount reading
  · simp only [if_pos beyond]
  · simp only [if_neg beyond, injectEnvironment_supported unambiguous,
      aggregatePolicies_injected unambiguous]
    rfl

/-- A spec whose fields are in order is refused for a repeated key when its layout is not
unambiguous. -/
theorem embed_of_not_unambiguous {spec : FunctionSpec} {settings : Settings} {reading : Reading}
    (reads : spec.Reads settings reading) (ambiguous : ¬spec.Unambiguous settings reading) :
    ∃ part key, spec.embed settings = .error (.duplicateKey part key) := by
  obtain ⟨groups, groups_ok, groups_eq⟩ := reads.groups
  simp only [embed, reads.name, reads.triggers, groups_ok, bind, Except.bind]
  by_cases front_nodup : (Entries.keys spec.frontParameters).Nodup
  · have compatible_iff : Fragment.Compatible (spec.builtFragments settings reading groups) ↔ _ :=
      compatible_builtFragments front_nodup groups_eq reads.nodup_topicNames
    simp only [fragments_of_reads reads front_nodup]
    by_cases compatible : Fragment.Compatible (spec.builtFragments settings reading groups)
    · have present : Names.dispatchTopic ∈ Entries.keys (spec.mergedParameters reading) ∨
          Names.dispatchRole ∈ Entries.keys (spec.mergedResources settings reading
            (spec.bareFunction reading) (spec.bareRole reading)) := by
        by_contra absent
        rw [not_or] at absent
        exact ambiguous (unambiguous_iff.mpr ⟨compatible_iff.mp compatible, absent⟩)
      obtain ⟨part, key, failed⟩ := support_of_present reads.statements present
      refine ⟨part, key, ?_⟩
      simp only [Fragment.mergeAll_of_compatible compatible,
        joined_builtFragments front_nodup groups_eq reads.nodup_topicNames, failed]
    · obtain ⟨part, key, failed⟩ := Fragment.mergeAll_of_not_compatible compatible
      refine ⟨part, key, ?_⟩
      simp only [failed]
  · obtain ⟨part, key, failed⟩ := parametersFragment_of_repeated reads.parameters front_nodup
    refine ⟨part, key, ?_⟩
    simp only [fragments, failed, bind, Except.bind]

/-- A spec for which fragments are built has its fields in order. -/
theorem reads_of_fragments {spec : FunctionSpec} {settings : Settings} {triggers : List Trigger}
    {groups : List Destination} {fragments : List Fragment} (name_ok : spec.checkName = .ok ())
    (triggers_ok : spec.triggers = .ok triggers) (groups_ok : spec.readDestinations = .ok groups)
    (fragments_ok : spec.fragments settings triggers groups = .ok fragments) :
    ∃ reading, spec.Reads settings reading ∧ reading.triggers = triggers ∧
      groups.flatMap Destination.entries = reading.topics := by
  obtain ⟨_, parameters_ok, fragments_ok⟩ := bind_eq_ok_iff.mp fragments_ok
  obtain ⟨_, declare_ok, -⟩ := bind_eq_ok_iff.mp parameters_ok
  obtain ⟨_, function_ok, fragments_ok⟩ := bind_eq_ok_iff.mp fragments_ok
  obtain ⟨runtime, runtime_ok, function_ok⟩ := bind_eq_ok_iff.mp function_ok
  obtain ⟨handler, handler_ok, -⟩ := bind_eq_ok_iff.mp function_ok
  obtain ⟨_, role_ok, -⟩ := bind_eq_ok_iff.mp fragments_ok
  obtain ⟨_, body_ok, -⟩ := map_eq_ok_iff.mp role_ok
  obtain ⟨_, policies_ok, -⟩ := map_eq_ok_iff.mp body_ok
  refine ⟨⟨triggers, groups.flatMap Destination.entries, runtime, handler⟩, ?_, rfl, rfl⟩
  exact {
    name := name_ok
    triggers := triggers_ok
    topics := by rw [groups_ok]; rfl
    parameters := Parameters.validate_of_foldlM_declare declare_ok
    runtime := runtime_ok
    handler := handler_ok
    statements := (specPolicies_eq_ok_iff.mp policies_ok).1
  }

theorem nodup_frontParameters_of_fragments {spec : FunctionSpec} {settings : Settings}
    {triggers : List Trigger} {groups : List Destination} {fragments : List Fragment}
    (fragments_ok : spec.fragments settings triggers groups = .ok fragments) :
    (Entries.keys spec.frontParameters).Nodup := by
  obtain ⟨_, parameters_ok, -⟩ := bind_eq_ok_iff.mp fragments_ok
  obtain ⟨_, declare_ok, -⟩ := bind_eq_ok_iff.mp parameters_ok
  by_contra repeated
  obtain ⟨part, key, failed⟩ :=
    parametersFragment_of_repeated (Parameters.validate_of_foldlM_declare declare_ok) repeated
  rw [parameters_ok] at failed
  cases failed

/-- Whatever is compiled at all has its fields in order. -/
theorem reads_of_embed {spec : FunctionSpec} {settings : Settings} {template : Template}
    (embed_ok : spec.embed settings = .ok template) : ∃ reading, spec.Reads settings reading := by
  obtain ⟨_, name_ok, embed_ok⟩ := bind_eq_ok_iff.mp embed_ok
  obtain ⟨triggers, triggers_ok, embed_ok⟩ := bind_eq_ok_iff.mp embed_ok
  obtain ⟨groups, groups_ok, embed_ok⟩ := bind_eq_ok_iff.mp embed_ok
  obtain ⟨_, fragments_ok, -⟩ := bind_eq_ok_iff.mp embed_ok
  obtain ⟨reading, reads, -⟩ := reads_of_fragments name_ok triggers_ok groups_ok fragments_ok
  exact ⟨reading, reads⟩

/-- What is compiled from a spec is the layout of what its fields say, which is unambiguous. -/
theorem eq_layout_of_embed {spec : FunctionSpec} {settings : Settings} {reading : Reading}
    {template : Template} (reads : spec.Reads settings reading)
    (embed_ok : spec.embed settings = .ok template) :
    spec.Unambiguous settings reading ∧ template = spec.layout settings reading := by
  by_cases unambiguous : spec.Unambiguous settings reading
  · rw [embed_of_unambiguous reads unambiguous] at embed_ok
    split at embed_ok
    · cases embed_ok
    · exact ⟨unambiguous, (Except.ok.inj embed_ok).symm⟩
  · obtain ⟨part, key, failed⟩ := embed_of_not_unambiguous reads unambiguous
    rw [failed] at embed_ok
    cases embed_ok

/-- Compilation arrives at the layout of a spec whose fields are in order, which is unambiguous and
within the limit of parameters, and at nothing else. -/
theorem layout_of_embed {spec : FunctionSpec} {settings : Settings} {template : Template}
    (embed_ok : spec.embed settings = .ok template) :
    ∃ reading, spec.Reads settings reading ∧ spec.Unambiguous settings reading ∧
      template = spec.layout settings reading := by
  obtain ⟨reading, reads⟩ := reads_of_embed embed_ok
  exact ⟨reading, reads, eq_layout_of_embed reads embed_ok⟩

theorem find?_resources {spec : FunctionSpec} {settings : Settings} {reading : Reading}
    (unambiguous : spec.Unambiguous settings reading) {key : String} {value : Json} :
    (spec.layout settings reading).resources.find? key = some value ↔
      HasResource spec settings reading key value := by
  rw [OrderedMap.find?_eq_some_iff, ← mem_resourceEntries_iff]
  change (key, value) ∈ (OrderedMap.ofList _).entries ↔ _
  rw [OrderedMap.entries_ofList unambiguous.resources]

end FunctionSpec
end LambdaStack

import LambdaStack.Proofs.Stack.Faults

/-!
# Precedence of faults

Compilation reports the first fault of a spec, whatever else is wrong with it. Its last two steps,
which complete the function and its roles, never have anything to report: what they look for is in
every document that gets so far.
-/

namespace LambdaStack

namespace FunctionSpec

/-- Keys of the fragment of the declared parameters and of those that tell where the code is. -/
def parameterKeys (spec : FunctionSpec) : Section → List String
  | .parameters => spec.parameters.keys ++ ["CodeS3Bucket", "CodeS3Prefix", "GitSha"]
  | _ => []

/-- Keys of the fragment of the alarms and their topic. -/
def alarmKeys (spec : FunctionSpec) : Section → List String
  | .parameters => ["ServiceAlarmEmail"]
  | .resources =>
    [spec.name ++ "AlarmErrors", spec.name ++ "AlarmNoInvocations", "ServiceAlarmSNSTopic"]
  | .environment => ["ServiceAlarmSNSTopic"]
  | _ => []

/-- Keys of a fragment of one resource. -/
def resourceKeys (name : String) : Section → List String
  | .resources => [name]
  | _ => []

/-- Keys of the fragment of an event source. -/
def sourceKeys (spec : FunctionSpec) (deployment : String) (source : String × Json) :
    Section → List String
  | .resources => (sourceResources deployment source.1).map (spec.name ++ ·)
  | .outputs => (sourceOutputs source.1 source.2).map (spec.name ++ ·)
  | _ => []

/-- Keys of the fragment of a destination. -/
def destinationKeys (destination : String × Json) : Section → List String
  | .parameters => (Destination.topicNames destination.2).map (· ++ "Email")
  | .resources | .environment => (Destination.topicNames destination.2).map (· ++ "Topic")
  | _ => []

/-- Keys of the fragments of a spec, in the order in which they are merged. -/
def fragmentKeys (spec : FunctionSpec) (deployment : String) : List (Section → List String) :=
  [spec.parameterKeys, spec.alarmKeys, resourceKeys spec.name, resourceKeys "LambdaCfnRole"] ++
    spec.sources.map (spec.sourceKeys deployment) ++
    (spec.destinations.getD ∅).entries.map destinationKeys

/-- What is wrong with the identifiers of the document, and then with the number of its
parameters. -/
def documentFaults (spec : FunctionSpec) (settings : Settings) : List Failure :=
  let fragments :=
    spec.fragmentKeys (WebhookTrigger.deploymentName settings.deploymentSuffix)
  let count := spec.parameters.size + spec.destinationNames.length + 5
  Fragment.collisions fragments ++
    failIf (∃ keys ∈ fragments, "DispatchSnsArn" ∈ keys .parameters)
      (.duplicateKey "Parameters" "DispatchSnsArn") ++
    failIf (∃ keys ∈ fragments, "LambdaCfnDispatchRole" ∈ keys .resources)
      (.duplicateKey "Resources" "LambdaCfnDispatchRole") ++
    failIf (60 < count) (.tooManyParameters count 60)

/-- Everything that is wrong with a spec, in the order of precedence. -/
def faults (spec : FunctionSpec) (settings : Settings) : List Failure :=
  spec.nameFaults ++ spec.sourceFaults ++ spec.destinationFaults ++ spec.parameterFaults ++
    spec.runtimeFaults ++ spec.handlerFaults settings ++ spec.statementFaults ++
    spec.documentFaults settings

variable {spec : FunctionSpec} {settings : Settings} {reading : Reading}

theorem sectionKeys_triggerFragment {kind : String} {options : Json} {trigger : Trigger}
    (read_ok : Trigger.read kind options = .ok trigger) :
    (spec.triggerFragment settings trigger).sectionKeys =
      spec.sourceKeys (WebhookTrigger.deploymentName settings.deploymentSuffix)
        (kind, options) := by
  funext part
  rw [Fragment.sectionKeys, OrderedMap.keys, triggerFragment_entries]
  cases part with
  | resources =>
      rw [sourceKeys, ← Trigger.resourceSuffixes_of_read settings.deploymentSuffix read_ok]
      exact trigger.keys_resources spec.name settings
  | outputs =>
      rw [sourceKeys, ← Trigger.outputSuffixes_of_read read_ok]
      exact trigger.keys_outputs spec.name
  | metadata | parameters | mappings | conditions | environment => rfl

theorem sectionKeys_destinationFragment {kind : String} {options : Json} {group : Destination}
    (read_ok : Destination.read kind options = .ok group) :
    (TopicDestination.fragment spec group.entries).sectionKeys =
      destinationKeys (kind, options) := by
  have names_eq := Destination.names_of_readTopics (Destination.read_eq_ok_iff.mp read_ok).2
  have names_nodup : (group.entries.map TopicDestination.name).Nodup :=
    names_eq ▸ Destination.nodup_topicNames options
  have keys_eq (suffix : String) (value : TopicDestination → Json) :
      (OrderedMap.ofList (group.entries.map fun topic =>
        (topic.name ++ suffix, value topic))).keys =
          (Destination.topicNames options).map (· ++ suffix) := by
    rw [OrderedMap.keys, TopicDestination.entries_ofList_map names_nodup, ← names_eq]
    simp [Entries.keys]
  funext part
  cases part with
  | parameters => exact keys_eq "Email" TopicDestination.email
  | resources => exact keys_eq "Topic" TopicDestination.topic
  | environment => exact keys_eq "Topic" _
  | metadata | mappings | conditions | outputs => rfl

/-- The fragments of a spec have just the keys that are listed. -/
theorem sectionKeys_builtFragments (reads : spec.Reads settings reading)
    (front_nodup : (Entries.keys spec.frontParameters).Nodup) {groups : List Destination}
    (groups_ok : spec.readDestinations = .ok groups) :
    (spec.builtFragments settings reading groups).map Fragment.sectionKeys =
      spec.fragmentKeys (WebhookTrigger.deploymentName settings.deploymentSuffix) := by
  have triggers_ok := reads.triggers
  rw [triggers_eq_mapM] at triggers_ok
  rw [readDestinations_eq_mapM] at groups_ok
  have triggers_eq := map_eq_of_mapM
    (f := fun trigger => (spec.triggerFragment settings trigger).sectionKeys)
    (fun _ _ => sectionKeys_triggerFragment) triggers_ok
  have groups_eq := map_eq_of_mapM
    (f := fun group => (TopicDestination.fragment spec group.entries).sectionKeys)
    (fun _ _ => sectionKeys_destinationFragment) groups_ok
  have parameters_eq : (Parameters.holding spec.frontParameters).sectionKeys =
      spec.parameterKeys := by
    funext part
    cases part with
    | parameters =>
        refine (OrderedMap.keys_ofList front_nodup).trans ?_
        rw [frontParameters, Entries.keys_append, keys_declaredEntries]
        rfl
    | metadata | mappings | conditions | resources | outputs | environment => rfl
  have alarms_eq : (Alarms.fragment spec settings).sectionKeys = spec.alarmKeys := by
    funext part
    cases part with
    | resources =>
        exact (OrderedMap.keys_ofList (spec.nodup_keys_alarms settings)).trans
          (Alarms.keys_resources spec settings)
    | metadata | parameters | mappings | conditions | outputs | environment => rfl
  have resource_eq (name : String) (value : Json) :
      Fragment.sectionKeys { resources := .ofList [(name, value)] } = resourceKeys name := by
    funext part
    cases part <;> rfl
  rw [builtFragments, fragmentKeys, List.map_append, List.map_append, List.map_map, List.map_map]
  refine congrArg₂ _ (congrArg₂ _ ?_ triggers_eq) groups_eq
  simp only [List.map_cons, List.map_nil, parameters_eq, alarms_eq, resource_eq]
  rfl

theorem fragments_failsFirst (spec : FunctionSpec) (settings : Settings)
    (triggers : List Trigger) (groups : List Destination) :
    FailsFirst (spec.fragments settings triggers groups)
      (spec.parameterFaults ++ ((spec.runtimeFaults ++ spec.handlerFaults settings) ++
        spec.statementFaults)) := by
  refine spec.parametersFragment_failsFirst.bind fun parameters _ => ?_
  refine (spec.functionFragment_failsFirst settings).bind fun function _ => ?_
  exact FailsFirst.bindLast ((spec.specPolicies_failsFirst.map _).map _) fun role _ => .ok _

theorem unambiguous_of_support (reads : spec.Reads settings reading)
    (front_nodup : (Entries.keys spec.frontParameters).Nodup) {groups : List Destination}
    (groups_eq : groups.flatMap Destination.entries = reading.topics) {merged supported : Fragment}
    (merged_ok : Fragment.mergeAll (spec.builtFragments settings reading groups) = .ok merged)
    (support_ok : Dispatch.support merged spec reading.triggers = .ok supported) :
    spec.Unambiguous settings reading ∧ supported = spec.supportedFragment settings reading := by
  obtain ⟨compatible, rfl⟩ := Fragment.mergeAll_eq_ok_iff.mp merged_ok
  rw [compatible_builtFragments front_nodup groups_eq reads.nodup_topicNames] at compatible
  rw [joined_builtFragments front_nodup groups_eq reads.nodup_topicNames] at support_ok
  have absent : ¬(Names.dispatchTopic ∈ Entries.keys (spec.mergedParameters reading) ∨
      Names.dispatchRole ∈ Entries.keys (spec.mergedResources settings reading
        (spec.bareFunction reading) (spec.bareRole reading))) := fun present => by
    obtain ⟨part, key, failed⟩ := support_of_present reads.statements present
    rw [support_ok] at failed
    cases failed
  rw [not_or] at absent
  rw [support_of_absent reads.statements absent.1 absent.2, Except.ok.injEq] at support_ok
  exact ⟨unambiguous_iff.mpr ⟨compatible, absent⟩, support_ok.symm⟩

/-- What is built for a spec whose fields are in order is refused for what is wrong with the
document, and its completion never fails. -/
theorem document_failsFirst (reads : spec.Reads settings reading)
    (front_nodup : (Entries.keys spec.frontParameters).Nodup) {groups : List Destination}
    (groups_ok : spec.readDestinations = .ok groups)
    (groups_eq : groups.flatMap Destination.entries = reading.topics) :
    FailsFirst
      (do
        let merged ← Fragment.mergeAll (spec.builtFragments settings reading groups)
        let supported ← Dispatch.support merged spec reading.triggers
        Completion.checkParameters supported
        let injected ← Completion.injectEnvironment supported spec.name
        let completed ← Completion.aggregatePolicies injected
        return Template.ofFragment completed)
      (spec.documentFaults settings) := by
  have keys_eq := sectionKeys_builtFragments reads front_nodup groups_ok
  have merged_first := Fragment.mergeAll_failsFirst (spec.builtFragments settings reading groups)
  rw [keys_eq] at merged_first
  have valid : spec.statementFaults = [] :=
    spec.specPolicies_failsFirst.eq_nil (specPolicies_eq_ok_iff.mpr ⟨reads.statements, rfl⟩)
  have count_eq : spec.parameterCount reading =
      spec.parameters.size + spec.destinationNames.length + 5 := by
    simp [parameterCount, ← reads.topicNames_eq, Reading.topicNames]
  simp only [documentFaults]
  rw [List.append_assoc, List.append_assoc, ← List.append_assoc (failIf _ _)]
  refine merged_first.bind fun merged merged_ok => ?_
  have support_first := Dispatch.support_failsFirst merged spec reading.triggers
  have bound_iff := Fragment.mem_sectionKeys_of_mergeAll merged_ok
  rw [keys_eq] at bound_iff
  simp only [bound_iff, valid, List.nil_append] at support_first
  refine support_first.bind fun supported support_ok => ?_
  obtain ⟨unambiguous, rfl⟩ :=
    unambiguous_of_support reads front_nodup groups_eq merged_ok support_ok
  rw [checkParameters_supported unambiguous.parameters, count_eq]
  refine FailsFirst.lastCheck.bindLast fun _ _ => ?_
  rw [injectEnvironment_supported unambiguous]
  change FailsFirst (Completion.aggregatePolicies _ >>= _) []
  rw [aggregatePolicies_injected unambiguous]
  exact .ok _

/-- Compilation fails with the first fault of a spec. -/
theorem embed_failsFirst (spec : FunctionSpec) (settings : Settings) :
    FailsFirst (spec.embed settings) (spec.faults settings) := by
  have faults_eq : spec.faults settings =
      spec.nameFaults ++ (spec.sourceFaults ++ (spec.destinationFaults ++
        ((spec.parameterFaults ++ ((spec.runtimeFaults ++ spec.handlerFaults settings) ++
          spec.statementFaults)) ++ spec.documentFaults settings))) := by
    simp only [faults, List.append_assoc]
  rw [faults_eq]
  refine spec.checkName_failsFirst.bind fun _ name_ok => ?_
  refine spec.triggers_failsFirst.bind fun triggers triggers_ok => ?_
  refine spec.readDestinations_failsFirst.bind fun groups groups_ok => ?_
  refine (spec.fragments_failsFirst settings triggers groups).bind fun fragments fragments_ok => ?_
  obtain ⟨reading, reads, rfl, groups_eq⟩ :=
    reads_of_fragments name_ok triggers_ok groups_ok fragments_ok
  have front_nodup := nodup_frontParameters_of_fragments fragments_ok
  rw [fragments_of_reads reads front_nodup, Except.ok.injEq] at fragments_ok
  subst fragments_ok
  exact document_failsFirst reads front_nodup groups_ok groups_eq

theorem compile_failsFirst (spec : FunctionSpec) (settings : Settings) :
    FailsFirst (spec.compile settings) (spec.faults settings) :=
  (spec.embed_failsFirst settings).map _

/-- The fields whose absence is a fault. -/
def requiredFields : List String :=
  ["name", "eventPattern", "expression", "method", "handler"]

end FunctionSpec

theorem WebhookOptions.field_of_mem_methodFaults {field reason : String} {options : Json}
    (mem : .missingField field reason ∈ methodFaults options) :
    field ∈ FunctionSpec.requiredFields := by
  unfold methodFaults at mem
  split at mem
  · cases List.mem_singleton.mp mem
    decide
  · cases (mem_failIf_iff.mp mem).2
  · cases List.mem_singleton.mp mem

theorem WebhookOptions.missingField_not_mem (options : Json) (field reason : String) :
    .missingField field reason ∉ responseFaults options ++ integrationFaults options := by
  intro mem
  unfold responseFaults integrationFaults at mem
  split at mem <;> split at mem <;> simp at mem

theorem Trigger.field_of_mem_faults {kind field reason : String} {options : Json}
    (mem : .missingField field reason ∈ Trigger.faults kind options) :
    field ∈ FunctionSpec.requiredFields := by
  unfold faults at mem
  split at mem
  · cases mem
  · cases (mem_failIf_iff.mp mem).2
    decide
  · split at mem
    · cases List.mem_singleton.mp mem
      decide
    · cases mem
    · cases List.mem_singleton.mp mem
  · rcases List.mem_append.mp mem with mem | mem
    · exact WebhookOptions.field_of_mem_methodFaults mem
    · exact absurd mem (WebhookOptions.missingField_not_mem options field reason)
  · cases List.mem_singleton.mp mem

theorem Destination.missingField_not_mem_faults (kind : String) (options : Json)
    (field reason : String) : .missingField field reason ∉ faults kind options := by
  intro mem
  unfold faults at mem
  split at mem
  · unfold topicFaults at mem
    split at mem <;> simp [mem_failIf_iff] at mem
  · cases List.mem_singleton.mp mem

namespace FunctionSpec

theorem field_of_mem_faults {spec : FunctionSpec} {settings : Settings} {field reason : String}
    (mem : .missingField field reason ∈ spec.faults settings) : field ∈ requiredFields := by
  simp only [faults, List.mem_append] at mem
  -- Only the name, an event source and the handler can be missing.
  rcases mem with ((((((mem | mem) | mem) | mem) | mem) | mem) | mem) | mem
  · simp only [nameFaults, List.mem_append, mem_failIf_iff, reduceCtorEq, and_false,
      or_false] at mem
    cases mem.2
    decide
  · obtain ⟨source, -, mem⟩ := List.mem_flatMap.mp mem
    exact Trigger.field_of_mem_faults mem
  · obtain ⟨destination, -, mem⟩ := List.mem_flatMap.mp mem
    exact absurd mem (Destination.missingField_not_mem_faults _ _ _ _)
  · simp [parameterFaults, definitionFaults, mem_failIf_iff] at mem
  · simp [runtimeFaults, mem_failIf_iff] at mem
  · cases (mem_failIf_iff.mp mem).2
    decide
  · simp [statementFaults, statementFaultsAt, mem_failIf_iff] at mem
  · simp only [documentFaults, List.mem_append, mem_failIf_iff, reduceCtorEq, and_false,
      or_false] at mem
    obtain ⟨part, key, impossible⟩ := Fragment.exists_of_mem_collisionsAfter mem
    cases impossible

end FunctionSpec

namespace Completion

/-- The last steps fail for nothing but a place in a resource. -/
theorem exists_of_injectEnvironment {fragment : Fragment} {function : String} {failure : Failure}
    (failed : injectEnvironment fragment function = .error failure) :
    ∃ path reason, failure = .missingField ("Resources." ++ path) reason := by
  simp only [injectEnvironment] at failed
  split at failed <;> cases failed
  exact ⟨function ++ ".Properties.Environment", _, by rw [← String.append_assoc]⟩

theorem exists_of_extendRole {policies : List Json} {resources : OrderedMap Json} {role : String}
    {failure : Failure} (failed : extendRole policies resources role = .error failure) :
    ∃ path reason, failure = .missingField ("Resources." ++ path) reason := by
  simp only [extendRole] at failed
  split at failed <;> cases failed
  exact ⟨role ++ ".Properties.Policies", _, by rw [← String.append_assoc]⟩

theorem exists_of_aggregatePolicies {fragment : Fragment} {failure : Failure}
    (failed : aggregatePolicies fragment = .error failure) :
    ∃ path reason, failure = .missingField ("Resources." ++ path) reason := by
  unfold aggregatePolicies at failed
  split at failed
  · cases failed
  · obtain ⟨reached, role, -, role_failed⟩ := exists_of_foldlM_error (map_eq_error_iff.mp failed)
    exact exists_of_extendRole role_failed

end Completion

namespace FunctionSpec

/-- No failure of the last steps is a fault. -/
theorem completion_ne_error_of_mem_faults {spec : FunctionSpec} {settings : Settings}
    {failure : Failure} (mem : failure ∈ spec.faults settings) (fragment : Fragment)
    (function : String) :
    Completion.injectEnvironment fragment function ≠ .error failure ∧
      Completion.aggregatePolicies fragment ≠ .error failure := by
  have elsewhere : ¬∃ path reason, failure = .missingField ("Resources." ++ path) reason := by
    rintro ⟨path, reason, rfl⟩
    have initials : ∀ field ∈ requiredFields, field.toList.head? ≠ some 'R' := by decide
    exact initials _ (field_of_mem_faults mem) (by simp)
  exact ⟨fun failed => elsewhere (Completion.exists_of_injectEnvironment failed),
    fun failed => elsewhere (Completion.exists_of_aggregatePolicies failed)⟩

/-- A spec is refused for the first of its faults, whatever the others are, and it is not refused
without a fault. No failure of the last steps of compilation is ever reported. -/
theorem refused_for_first_fault (spec : FunctionSpec) (settings : Settings) :
    (∀ failure, spec.embed settings = .error failure ↔
      (spec.faults settings).head? = some failure) ∧
    (∀ failure, spec.compile settings = .error failure ↔
      (spec.faults settings).head? = some failure) ∧
    ∀ failure, spec.embed settings = .error failure ∨ spec.compile settings = .error failure →
      ∀ fragment function, Completion.injectEnvironment fragment function ≠ .error failure ∧
        Completion.aggregatePolicies fragment ≠ .error failure := by
  have embed_first := spec.embed_failsFirst settings
  have compile_first := spec.compile_failsFirst settings
  refine ⟨embed_first, compile_first, fun failure failed => ?_⟩
  rw [embed_first, compile_first, or_self] at failed
  exact completion_ne_error_of_mem_faults (List.mem_of_head? failed)

theorem sample_refused_in_turn :
    { sample with
        name := "operatorsTopic"
        runtime := some "ruby"
        statements := some [∅] }.embed {} = .error (.unsupportedRuntime "ruby") ∧
      { sample with name := "operatorsTopic", statements := some [∅] }.embed {} =
        .error (.invalidStatement "statement must contain Effect (statement 0)") ∧
      { sample with name := "operatorsTopic" }.embed {} =
        .error (.duplicateKey "Resources" "operatorsTopic") :=
  ⟨((refused_for_first_fault _ _).1 _).mpr (by decide),
    ((refused_for_first_fault _ _).1 _).mpr (by decide),
    ((refused_for_first_fault _ _).1 _).mpr (by decide)⟩

end FunctionSpec
end LambdaStack

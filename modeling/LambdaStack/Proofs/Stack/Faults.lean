import LambdaStack.Proofs.Document.Collisions
import LambdaStack.Proofs.FunctionSpec.Faults
import LambdaStack.Proofs.Stack.Inventory

/-!
# Faults of a spec

Everything that is wrong with a spec, listed at once and in one order: first what single fields are
refused for, then the identifiers that come back in the document. The fields are checked one by one
here; that compilation reports the first fault of the whole list is proved where its steps are
followed.
-/

namespace LambdaStack

namespace FunctionSpec

/-- What is wrong with the name. -/
def nameFaults (spec : FunctionSpec) : List Failure :=
  failIf (spec.name = "") (.missingField "name" "Function name is required") ++
    failIf (!isAlphanumeric spec.name)
      (.invalidOption "name" ("function name must be alphanumeric: " ++ spec.name))

/-- What is wrong with the event sources. -/
def sourceFaults (spec : FunctionSpec) : List Failure :=
  spec.sources.flatMap fun source => Trigger.faults source.1 source.2

/-- What is wrong with the destinations. -/
def destinationFaults (spec : FunctionSpec) : List Failure :=
  (spec.destinations.getD ∅).entries.flatMap fun destination =>
    Destination.faults destination.1 destination.2

/-- What is wrong with one declared parameter. -/
def definitionFaults (name : String) (definition : ParameterDefinition) : List Failure :=
  failIf (!isAlphanumeric name) (.invalidParameterName name) ++
    (failIf (!Parameters.isGiven definition.type) (.incompleteParameter name "Type") ++
      failIf (!Parameters.isGiven definition.description) (.incompleteParameter name "Description"))

/-- What is wrong with the declared parameters, and then which of them have names that tell where
the code is. -/
def parameterFaults (spec : FunctionSpec) : List Failure :=
  spec.parameters.entries.flatMap (fun parameter => definitionFaults parameter.1 parameter.2) ++
    ["CodeS3Bucket", "CodeS3Prefix", "GitSha"].flatMap fun name =>
      failIf (name ∈ spec.parameters.keys) (.duplicateKey "Parameters" name)

/-- What is wrong with the runtime. -/
def runtimeFaults (spec : FunctionSpec) : List Failure :=
  failIf (spec.runtime.getD "" ∉ ["", "nodejs8.10", "nodejs10.x"])
    (.unsupportedRuntime (spec.runtime.getD ""))

/-- What is wrong with the handler. -/
def handlerFaults (spec : FunctionSpec) (settings : Settings) : List Failure :=
  failIf (spec.handler.getD "" = "" ∧ settings.sourcePath.bind Path.directoryName? = none)
    (.missingField "handler" "handler is required when the function spec location is unknown")

/-- What is wrong with the statement at an index. -/
def statementFaultsAt (statement : OrderedMap Json) (index : Nat) : List Failure :=
  let place := " (statement " ++ toString index ++ ")"
  failIf (!Role.sets statement "Effect")
      (.invalidStatement ("statement must contain Effect" ++ place)) ++
    (failIf (!Role.sets statement "Resource" && !Role.sets statement "NotResource")
        (.invalidStatement ("statement must contain Resource or NotResource" ++ place)) ++
      failIf (!Role.sets statement "Action" && !Role.sets statement "NotAction")
        (.invalidStatement ("statement must contain Action or NotAction" ++ place)))

/-- What is wrong with the statements. -/
def statementFaults (spec : FunctionSpec) : List Failure :=
  (spec.statements.getD []).zipIdx.flatMap fun statement =>
    statementFaultsAt statement.1 statement.2

theorem checkName_failsFirst (spec : FunctionSpec) : FailsFirst spec.checkName spec.nameFaults :=
  .check fun _ => .lastCheck

theorem triggers_failsFirst (spec : FunctionSpec) :
    FailsFirst spec.triggers spec.sourceFaults := by
  rw [triggers_eq_mapM]
  exact .mapM (fun (kind, options) => Trigger.read_failsFirst kind options) spec.sources

theorem readDestinations_failsFirst (spec : FunctionSpec) :
    FailsFirst spec.readDestinations spec.destinationFaults := by
  rw [readDestinations_eq_mapM]
  exact .mapM (fun (kind, options) => Destination.read_failsFirst kind options) _

theorem runtime_failsFirst (spec : FunctionSpec) :
    FailsFirst (Runtime.resolve spec.runtime) spec.runtimeFaults := by
  unfold Runtime.resolve runtimeFaults
  cases spec.runtime with
  | none => exact .ok Runtime.node10
  | some name =>
      by_cases supported : name ∈ ["", "nodejs8.10", "nodejs10.x"]
      · simp only [List.mem_cons, List.not_mem_nil, or_false] at supported
        rcases supported with rfl | rfl | rfl
        · exact .ok Runtime.node10
        · exact .ok Runtime.node8
        · exact .ok Runtime.node10
      · have given : name ≠ "" := fun absent => supported (absent ▸ List.mem_cons_self)
        have unknown : [Runtime.node8, Runtime.node10].find? (·.text = name) = none := by
          refine List.find?_eq_none.mpr fun runtime _ text_eq => supported ?_
          rw [← of_decide_eq_true text_eq]
          cases runtime <;> decide
        simp only [Option.getD_some, failIf, if_pos supported, if_neg given, unknown]
        exact .error _ []

theorem handler_failsFirst (spec : FunctionSpec) (settings : Settings) :
    FailsFirst (Function.handler spec.handler settings.sourcePath)
      (spec.handlerFaults settings) := by
  unfold Function.handler handlerFaults
  by_cases given : spec.handler.getD "" = ""
  · cases settings.sourcePath.bind Path.directoryName? with
    | none =>
        simp only [given, failIf, ne_eq, not_true, if_false, and_self, if_true]
        exact .error _ []
    | some directory =>
        simp only [given, failIf, ne_eq, not_true, if_false, reduceCtorEq, and_false]
        exact .ok _
  · simp only [given, failIf, ne_eq, not_false_iff, if_true, false_and, if_false]
    exact .ok _

end FunctionSpec

theorem Parameters.validate_failsFirst (name : String) (definition : ParameterDefinition) :
    FailsFirst (validate name definition) (FunctionSpec.definitionFaults name definition) :=
  .check fun _ => .check fun _ => .lastCheck

theorem Parameters.foldlM_addProvenance_failsFirst {added : List (String × Json)}
    (nodup : (Entries.keys added).Nodup) (front : List (String × Json)) :
    FailsFirst (added.foldlM addProvenance (holding front))
      ((Entries.keys added).flatMap fun name =>
        failIf (name ∈ Entries.keys front) (.duplicateKey "Parameters" name)) := by
  induction added generalizing front with
  | nil => exact .ok _
  | cons entry rest ih =>
      rw [Entries.keys_cons, List.nodup_cons] at nodup
      have bound_iff : (entry.1 ∈ (holding front).sectionKeys .parameters) =
          (entry.1 ∈ Entries.keys front) := propext OrderedMap.mem_keys_ofList
      have first := (holding front).insertNew_failsFirst .parameters entry.1 entry.2
      simp only [bound_iff] at first
      rw [List.foldlM_cons, Entries.keys_cons, List.flatMap_cons]
      refine first.bind fun next next_ok => ?_
      have absent := failIf_eq_nil_iff.mp (first.eq_nil next_ok)
      have absent_keys : entry.1 ∉ ((holding front).entries .parameters).keys :=
        fun mem => absent (OrderedMap.mem_keys_ofList.mp mem)
      rw [Fragment.insertNew_of_not_mem _ absent_keys, insert_holding, Except.ok.injEq] at next_ok
      -- The entry that was just added has none of the later names.
      have later_eq : ((Entries.keys rest).flatMap fun name =>
          failIf (name ∈ Entries.keys front) (.duplicateKey "Parameters" name)) =
            (Entries.keys rest).flatMap fun name =>
              failIf (name ∈ Entries.keys (front ++ [entry]))
                (.duplicateKey "Parameters" name) := by
        refine List.flatMap_congr fun name mem => ?_
        have other : name ≠ entry.1 := fun same => nodup.1 (same ▸ mem)
        simp [failIf, other]
      rw [later_eq, ← next_ok]
      exact ih nodup.2 (front ++ [entry])

theorem Role.validateStatement_failsFirst (statement : OrderedMap Json) (index : Nat) :
    FailsFirst (validateStatement statement index)
      (FunctionSpec.statementFaultsAt statement index) :=
  .check fun _ => .check fun _ => .lastCheck

theorem Role.validateFrom_failsFirst (index : Nat) (statements : List (OrderedMap Json)) :
    FailsFirst (validateFrom index statements) ((statements.zipIdx index).flatMap fun statement =>
      FunctionSpec.statementFaultsAt statement.1 statement.2) := by
  induction statements generalizing index with
  | nil => exact .ok ()
  | cons statement rest ih =>
      rw [List.zipIdx_cons, List.flatMap_cons]
      exact (validateStatement_failsFirst statement index).bind fun _ _ => ih (index + 1)

namespace FunctionSpec

theorem parametersFragment_failsFirst (spec : FunctionSpec) :
    FailsFirst (Parameters.fragment spec) spec.parameterFaults := by
  have declare_failsFirst (fragment : Fragment) (parameter : String × ParameterDefinition) :
      FailsFirst (Parameters.declare fragment parameter)
        (definitionFaults parameter.1 parameter.2) :=
    (Parameters.validate_failsFirst parameter.1 parameter.2).map _
  refine (FailsFirst.foldlM declare_failsFirst spec.parameters.entries Fragment.empty).bind
    fun declared declare_ok => ?_
  have valid := Parameters.validate_of_foldlM_declare declare_ok
  have declared_eq := Parameters.foldlM_declare valid []
  change spec.parameters.entries.foldlM Parameters.declare Fragment.empty = _ at declared_eq
  rw [declare_ok, Except.ok.injEq] at declared_eq
  rw [declared_eq, ← keys_declaredEntries]
  exact Parameters.foldlM_addProvenance_failsFirst (by decide) spec.declaredEntries

theorem functionFragment_failsFirst (spec : FunctionSpec) (settings : Settings) :
    FailsFirst (Function.fragment spec settings)
      (spec.runtimeFaults ++ spec.handlerFaults settings) := by
  refine spec.runtime_failsFirst.bind fun runtime _ => ?_
  exact (spec.handler_failsFirst settings).bindLast fun handler _ => .ok _

theorem specPolicies_failsFirst (spec : FunctionSpec) :
    FailsFirst (Role.specPolicies spec) spec.statementFaults := by
  unfold Role.specPolicies statementFaults
  cases spec.statements with
  | none => exact .ok []
  | some statements => exact (Role.validateFrom_failsFirst 0 statements).map _

end FunctionSpec

/-- Dispatch support is refused for its parameter first, then for a statement, then for its role. -/
theorem Dispatch.support_failsFirst (fragment : Fragment) (spec : FunctionSpec)
    (triggers : List Trigger) :
    FailsFirst (support fragment spec triggers)
      (failIf (Names.dispatchTopic ∈ fragment.sectionKeys .parameters)
          (.duplicateKey "Parameters" Names.dispatchTopic) ++
        (spec.statementFaults ++ failIf (Names.dispatchRole ∈ fragment.sectionKeys .resources)
          (.duplicateKey "Resources" Names.dispatchRole))) := by
  have parameters_eq : (withCondition fragment).sectionKeys .parameters =
      fragment.sectionKeys .parameters := by
    unfold withCondition
    split <;> rfl
  have resources_eq : (withCondition fragment).sectionKeys .resources =
      fragment.sectionKeys .resources := by
    unfold withCondition
    split <;> rfl
  have first := (withCondition fragment).insertNew_failsFirst .parameters Names.dispatchTopic
    parameter
  simp only [parameters_eq] at first
  refine first.bind fun withParameter parameter_ok => ?_
  refine FailsFirst.bind (((spec.specPolicies_failsFirst).map _).map _) fun role _ => ?_
  have kept : withParameter.sectionKeys .resources = fragment.sectionKeys .resources :=
    (Fragment.sectionKeys_of_insertNew parameter_ok (by decide)).trans resources_eq
  rw [← kept]
  exact withParameter.insertNew_failsFirst .resources Names.dispatchRole role

end LambdaStack

import LambdaStack.Proofs.Document.Insertion
import LambdaStack.Proofs.Stack.Faults

/-!
# Dispatch support of any document

Dispatch support can be added to every document that has neither its parameter nor its role, for a
spec whose statements are complete. It puts these two at the end of their sections, and the
condition as well unless there is one already, and it leaves everything else alone. Where it has
been added it cannot be added again.
-/

namespace LambdaStack

/-- A statement has an effect, resources and actions. -/
structure Role.Complete (statement : OrderedMap Json) : Prop where
  /-- It allows or denies. -/
  effect : sets statement "Effect"
  /-- It tells on what. -/
  resources : sets statement "Resource" ∨ sets statement "NotResource"
  /-- It tells what. -/
  actions : sets statement "Action" ∨ sets statement "NotAction"

/-- What a statement at an index is refused for. -/
inductive Role.StatementRefused (statement : OrderedMap Json) (index : Nat) : Failure → Prop
  /-- It has no effect. -/
  | noEffect (unset : ¬sets statement "Effect") :
      StatementRefused statement index (.invalidStatement
        ("statement must contain Effect" ++ (" (statement " ++ toString index ++ ")")))
  /-- It has an effect, but no resources. -/
  | noResources (effect : sets statement "Effect")
      (unset : ¬(sets statement "Resource" ∨ sets statement "NotResource")) :
      StatementRefused statement index (.invalidStatement
        ("statement must contain Resource or NotResource" ++
          (" (statement " ++ toString index ++ ")")))
  /-- Only its actions are missing. -/
  | noActions (effect : sets statement "Effect")
      (resources : sets statement "Resource" ∨ sets statement "NotResource")
      (unset : ¬(sets statement "Action" ∨ sets statement "NotAction")) :
      StatementRefused statement index (.invalidStatement
        ("statement must contain Action or NotAction" ++
          (" (statement " ++ toString index ++ ")")))

theorem Role.validateStatement_eq_error_iff {statement : OrderedMap Json} {index : Nat}
    {failure : Failure} :
    validateStatement statement index = .error failure ↔
      StatementRefused statement index failure := by
  constructor
  · intro invalid
    unfold validateStatement at invalid
    split_ifs at invalid with no_effect no_resources no_actions <;> cases invalid
    · exact .noEffect (by simpa using no_effect)
    · exact .noResources (by simpa using no_effect) (by simpa using no_resources)
    · exact .noActions (by simpa using no_effect) (by grind) (by simpa using no_actions)
  · rintro (unset | ⟨effect, unset⟩ | ⟨effect, resources, unset⟩)
    · rw [validateStatement, if_pos (by simpa using unset)]
    · rw [validateStatement, if_neg (by simpa using effect), if_pos (by simpa using unset)]
    · rw [validateStatement, if_neg (by simpa using effect), if_neg (by grind),
        if_pos (by simpa using unset)]

namespace FunctionSpec

theorem statementFaultsAt_eq_nil_iff {statement : OrderedMap Json} {index : Nat} :
    statementFaultsAt statement index = [] ↔ Role.Complete statement := by
  simp only [statementFaultsAt, List.append_eq_nil_iff, failIf_eq_nil_iff]
  constructor
  · rintro ⟨effect, resources, actions⟩
    exact ⟨by simpa using effect, by grind, by grind⟩
  · rintro ⟨effect, resources, actions⟩
    exact ⟨by simpa using effect, by grind, by grind⟩

theorem statementFaults_eq_nil_iff {spec : FunctionSpec} :
    spec.statementFaults = [] ↔
      ∀ statement ∈ spec.statements.getD [], Role.Complete statement := by
  simp only [statementFaults, List.flatMap_eq_nil_iff, statementFaultsAt_eq_nil_iff]
  conv_rhs => rw [← List.zipIdx_map_fst 0 (spec.statements.getD [])]
  simp only [List.forall_mem_map]

/-- The first thing that is wrong with the statements is what is wrong with the first one that is
not complete. -/
theorem head?_statementFaults_eq_some_iff {spec : FunctionSpec} {failure : Failure} :
    spec.statementFaults.head? = some failure ↔
      ∃ front statement back, spec.statements.getD [] = front ++ statement :: back ∧
        (∀ earlier ∈ front, Role.Complete earlier) ∧
        Role.StatementRefused statement front.length failure := by
  have refused_iff (statement : OrderedMap Json) (index : Nat) :
      (statementFaultsAt statement index).head? = some failure ↔
        Role.StatementRefused statement index failure :=
    (Role.validateStatement_failsFirst statement index failure).symm.trans
      Role.validateStatement_eq_error_iff
  simp only [statementFaults, head?_flatMap_eq_some_iff, statementFaultsAt_eq_nil_iff, refused_iff]
  constructor
  · rintro ⟨front, ⟨statement, index⟩, back, items_eq, complete, refused⟩
    obtain ⟨earlier, rest, statements_eq, rfl, rest_eq⟩ := List.zipIdx_eq_append_iff.mp items_eq
    obtain ⟨statement', later, rfl, same, rfl⟩ := List.zipIdx_eq_cons_iff.mp rest_eq.symm
    cases same
    refine ⟨earlier, statement, later, statements_eq, ?_, by simpa using refused⟩
    rw [← List.zipIdx_map_fst 0 earlier, List.forall_mem_map]
    exact complete
  · rintro ⟨front, statement, back, statements_eq, complete, refused⟩
    refine ⟨front.zipIdx, (statement, front.length), back.zipIdx (front.length + 1), ?_, ?_,
      refused⟩
    · rw [statements_eq, List.zipIdx_append, List.zipIdx_cons, Nat.zero_add]
    · rwa [← List.zipIdx_map_fst 0 front, List.forall_mem_map] at complete

end FunctionSpec

namespace Dispatch

/-- What dispatch support is refused for: its parameter first, then a statement, the first one that
is not complete, and last its role. -/
inductive Refused (fragment : Fragment) (spec : FunctionSpec) : Failure → Prop
  /-- The parameter is there already. -/
  | parameter (bound : "DispatchSnsArn" ∈ fragment.parameters.keys) :
      Refused fragment spec (.duplicateKey "Parameters" "DispatchSnsArn")
  /-- A statement is not complete, but all before it are. -/
  | statement {front back : List (OrderedMap Json)} {statement : OrderedMap Json}
      {failure : Failure} (unbound : "DispatchSnsArn" ∉ fragment.parameters.keys)
      (statements_eq : spec.statements.getD [] = front ++ statement :: back)
      (complete : ∀ earlier ∈ front, Role.Complete earlier)
      (refused : Role.StatementRefused statement front.length failure) :
      Refused fragment spec failure
  /-- Only the role is there already. -/
  | role (unbound : "DispatchSnsArn" ∉ fragment.parameters.keys)
      (complete : ∀ statement ∈ spec.statements.getD [], Role.Complete statement)
      (bound : "LambdaCfnDispatchRole" ∈ fragment.resources.keys) :
      Refused fragment spec (.duplicateKey "Resources" "LambdaCfnDispatchRole")

/-- A fragment and the same one with dispatch support. -/
structure Added (spec : FunctionSpec) (triggers : List Trigger) (before after : Fragment) :
    Prop where
  /-- The parameter comes last. -/
  parameters : after.parameters.entries =
    before.parameters.entries ++ [("DispatchSnsArn", .object [
      ("Type", "String"),
      ("Description", "Dispatch SNS ARN (Optional)")
    ])]
  /-- The condition comes last, unless there is one of its name. -/
  conditions : after.conditions.entries = before.conditions.entries ++
    if "HasDispatchSnsArn" ∈ before.conditions.keys then []
    else [("HasDispatchSnsArn", .object [("Fn::Not", .array [
      .object [("Fn::Equals", .array ["", .object [("Ref", "DispatchSnsArn")]])]
    ])])]
  /-- The role comes last. -/
  resources : after.resources.entries = before.resources.entries ++
    [("LambdaCfnDispatchRole", .object
      (Role.members triggers [.object [
          ("Effect", "Allow"),
          ("Action", .array ["sns:Publish"]),
          ("Resource", .object [("Ref", "DispatchSnsArn")])
        ]] spec.statementPolicies ++
        [("Condition", .string "HasDispatchSnsArn")]))]
  /-- All other sections are as before. -/
  others : ∀ part, part ∉ [Section.parameters, .conditions, .resources] →
    after.entries part = before.entries part
  /-- The policies are as before. -/
  policies : after.policies = before.policies

theorem isOk_support_iff {fragment : Fragment} {spec : FunctionSpec} {triggers : List Trigger} :
    (∃ supported, support fragment spec triggers = .ok supported) ↔
      "DispatchSnsArn" ∉ fragment.parameters.keys ∧
      (∀ statement ∈ spec.statements.getD [], Role.Complete statement) ∧
      "LambdaCfnDispatchRole" ∉ fragment.resources.keys := by
  rw [(support_failsFirst fragment spec triggers).isOk_iff, List.append_eq_nil_iff,
    List.append_eq_nil_iff, failIf_eq_nil_iff, failIf_eq_nil_iff,
    FunctionSpec.statementFaults_eq_nil_iff]
  rfl

theorem support_eq_error_iff {fragment : Fragment} {spec : FunctionSpec} {triggers : List Trigger}
    {failure : Failure} :
    support fragment spec triggers = .error failure ↔ Refused fragment spec failure := by
  simp only [support_failsFirst fragment spec triggers failure, List.head?_append,
    Option.or_eq_some_iff, List.head?_eq_none_iff, head?_failIf_eq_some_iff, failIf_eq_nil_iff,
    FunctionSpec.head?_statementFaults_eq_some_iff, FunctionSpec.statementFaults_eq_nil_iff]
  constructor
  · rintro (⟨bound, rfl⟩ | ⟨unbound, ⟨_, _, _, statements_eq, complete, refused⟩ |
      ⟨complete, bound, rfl⟩⟩)
    · exact .parameter bound
    · exact .statement unbound statements_eq complete refused
    · exact .role unbound complete bound
  · rintro (bound | ⟨unbound, statements_eq, complete, refused⟩ | ⟨unbound, complete, bound⟩)
    · exact .inl ⟨bound, rfl⟩
    · exact .inr ⟨unbound, .inl ⟨_, _, _, statements_eq, complete, refused⟩⟩
    · exact .inr ⟨unbound, .inr ⟨complete, bound, rfl⟩⟩

theorem content_of_withCondition (fragment : Fragment) :
    (∀ part, ((withCondition fragment).entries part).entries = (fragment.entries part).entries ++
      if part = .conditions ∧ Names.hasDispatch ∉ fragment.conditions.keys then
        [(Names.hasDispatch, condition)] else []) ∧
    (withCondition fragment).policies = fragment.policies := by
  unfold withCondition
  split
  next bound =>
    have mem := OrderedMap.contains_iff.mp bound
    exact ⟨fun part => by simp [mem], rfl⟩
  next unbound =>
    have absent : Names.hasDispatch ∉ fragment.conditions.keys :=
      fun mem => unbound (OrderedMap.contains_iff.mpr mem)
    have insert_ok : fragment.insertNew .conditions Names.hasDispatch condition =
        .ok (fragment.insert .conditions Names.hasDispatch condition) :=
      Fragment.insertNew_of_not_mem condition absent
    simpa [absent] using Fragment.content_of_insertNew insert_ok

/-- What dispatch support adds to each section of a fragment. -/
def additions (fragment : Fragment) (role : Json) : Section → List (String × Json)
  | .parameters => [(Names.dispatchTopic, parameter)]
  | .conditions =>
    if Names.hasDispatch ∈ fragment.conditions.keys then [] else [(Names.hasDispatch, condition)]
  | .resources => [(Names.dispatchRole, role)]
  | _ => []

theorem content_of_support {fragment supported : Fragment} {spec : FunctionSpec}
    {triggers : List Trigger} (support_ok : support fragment spec triggers = .ok supported) :
    (∀ part, (supported.entries part).entries = (fragment.entries part).entries ++
      additions fragment (.object (Role.members triggers [publishStatement]
        spec.statementPolicies ++ [("Condition", .string Names.hasDispatch)])) part) ∧
    supported.policies = fragment.policies := by
  obtain ⟨withParameter, parameter_ok, support_ok⟩ := bind_eq_ok_iff.mp support_ok
  obtain ⟨role, role_ok, role_added⟩ := bind_eq_ok_iff.mp support_ok
  obtain ⟨members, members_ok, rfl⟩ := map_eq_ok_iff.mp role_ok
  obtain ⟨policies, policies_ok, rfl⟩ := map_eq_ok_iff.mp members_ok
  obtain ⟨-, rfl⟩ := FunctionSpec.specPolicies_eq_ok_iff.mp policies_ok
  obtain ⟨condition_entries, condition_policies⟩ := content_of_withCondition fragment
  obtain ⟨parameter_entries, parameter_policies⟩ := Fragment.content_of_insertNew parameter_ok
  obtain ⟨role_entries, role_policies⟩ := Fragment.content_of_insertNew role_added
  -- Each of the three steps adds to a section of its own, so their order does not show.
  refine ⟨fun part => ?_, role_policies.trans (parameter_policies.trans condition_policies)⟩
  rw [role_entries, parameter_entries, condition_entries]
  cases part <;> simp [additions]

theorem added_of_support {fragment supported : Fragment} {spec : FunctionSpec}
    {triggers : List Trigger} (support_ok : support fragment spec triggers = .ok supported) :
    Added spec triggers fragment supported := by
  obtain ⟨entries_eq, policies_eq⟩ := content_of_support support_ok
  exact {
    parameters := entries_eq .parameters
    conditions := entries_eq .conditions
    resources := entries_eq .resources
    others := fun part other => OrderedMap.ext <| by
      rw [entries_eq, additions.eq_def]
      cases part <;> simp_all
    policies := policies_eq
  }

/-- Dispatch support is added to every document that has neither its parameter nor its role, for
complete statements, and is refused for the first of these that fails. What it adds comes last, a
condition that is there stays, and nothing else changes. It is never added a second time. -/
theorem support_adds_once (fragment : Fragment) (spec : FunctionSpec) (triggers : List Trigger) :
    ((∃ supported, support fragment spec triggers = .ok supported) ↔
      "DispatchSnsArn" ∉ fragment.parameters.keys ∧
      (∀ statement ∈ spec.statements.getD [], Role.Complete statement) ∧
      "LambdaCfnDispatchRole" ∉ fragment.resources.keys) ∧
    (∀ failure, support fragment spec triggers = .error failure ↔
      Refused fragment spec failure) ∧
    ∀ supported, support fragment spec triggers = .ok supported →
      Added spec triggers fragment supported ∧
      ∀ otherSpec otherTriggers, support supported otherSpec otherTriggers =
        .error (.duplicateKey "Parameters" "DispatchSnsArn") := by
  refine ⟨isOk_support_iff, fun _ => support_eq_error_iff, fun supported support_ok => ?_⟩
  have added := added_of_support support_ok
  -- The parameter that was added is what refuses it the next time, before anything is checked.
  refine ⟨added, fun otherSpec otherTriggers => support_eq_error_iff.mpr (.parameter ?_)⟩
  rw [OrderedMap.keys, added.parameters, Entries.keys_append]
  exact List.mem_append_right _ List.mem_cons_self

/-- A document with a dispatch condition of its own. -/
def conditioned : Fragment where
  conditions := .ofList [("HasDispatchSnsArn", "own"), ("Later", "own")]
  resources := .ofList [("report", "own")]

/-- A spec whose statement grants something. -/
def granting : FunctionSpec where
  name := "report"
  statements := some [.ofList [("Effect", "Allow"), ("NotAction", "iam:*"), ("Resource", "*")]]

/-- A spec with a second statement that does not tell what it allows. -/
def vague : FunctionSpec where
  name := "report"
  statements := some [
    .ofList [("Effect", "Allow"), ("NotAction", "iam:*"), ("Resource", "*")],
    .ofList [("Effect", "Allow"), ("Resource", "*")]
  ]

theorem conditioned_supported_once :
    (∃ supported, support conditioned granting [.topic] = .ok supported ∧
      supported.conditions = conditioned.conditions ∧
      supported.parameters.keys = ["DispatchSnsArn"] ∧
      supported.resources.keys = ["report", "LambdaCfnDispatchRole"] ∧
      support supported vague [] = .error (.duplicateKey "Parameters" "DispatchSnsArn")) ∧
    support conditioned vague [.topic] = .error
      (.invalidStatement "statement must contain Action or NotAction (statement 1)") := by
  obtain ⟨supported_iff, -, once⟩ := support_adds_once conditioned granting [.topic]
  obtain ⟨-, refused_iff, -⟩ := support_adds_once conditioned vague [.topic]
  have complete : ∀ statement ∈ granting.statements.getD [], Role.Complete statement := by
    rintro statement (_ | ⟨_, ⟨⟩⟩)
    exact ⟨by decide, by decide, by decide⟩
  constructor
  · obtain ⟨supported, support_ok⟩ := supported_iff.mpr ⟨by decide, complete, by decide⟩
    obtain ⟨added, again⟩ := once supported support_ok
    refine ⟨supported, support_ok, OrderedMap.ext ?_, ?_, ?_, again _ _⟩
    · rw [added.conditions]
      rfl
    · rw [OrderedMap.keys, added.parameters]
      rfl
    · rw [OrderedMap.keys, added.resources]
      rfl
  · refine (refused_iff _).mpr (.statement (by decide) rfl complete ?_)
    exact .noActions (by decide) (by decide) (by decide)

end Dispatch
end LambdaStack

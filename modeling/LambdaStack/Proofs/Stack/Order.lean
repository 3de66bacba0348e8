import LambdaStack.Proofs.Document.Order
import LambdaStack.Proofs.FunctionSpec.Order
import LambdaStack.Proofs.Stack.Roles

/-!
# Order of declarations in documents

Specs that only differ in the order of their declarations are compiled to the same document, up to
the order of members. What merging refuses, what later variables replace and what the limit counts
does not depend on that order. The one array that shows it is the list of policies of a role, which
has those of the topics in their order.
-/

namespace LambdaStack

/-- A role with its last policies, all of which have one of the given names, in another order. -/
inductive Json.PoliciesReordered (names : List String) (role : Json) : Json → Prop where
  | policies {front back reordered : List Json} {other : Json}
    (listed : role.at? ["Properties", "Policies"] = some (.array (front ++ back)))
    (named : ∀ policy ∈ back, ∃ name ∈ names, policy.member? "PolicyName" = some (.string name))
    (perm : back.Perm reordered)
    (changed : Json.modifyAt? (fun _ => some (.array (front ++ reordered)))
      ["Properties", "Policies"] role = some other) : PoliciesReordered names role other

/-- A template whose two execution roles have their last policies, all of which have one of the
given names, in another order. -/
inductive Template.PoliciesReordered (names : List String) (template : Template) :
    Template → Prop where
  | roles {default dispatch otherDefault otherDispatch : Json}
    (default_found : template.resources.find? "LambdaCfnRole" = some default)
    (default_reordered : default.PoliciesReordered names otherDefault)
    (dispatch_found : template.resources.find? "LambdaCfnDispatchRole" = some dispatch)
    (dispatch_reordered : dispatch.PoliciesReordered names otherDispatch) :
    PoliciesReordered names template { template with
      resources := (template.resources.insert "LambdaCfnRole" otherDefault).insert
        "LambdaCfnDispatchRole" otherDispatch }

namespace Role

theorem trusted_of_perm {left right : List Trigger} (perm : left.Perm right) :
    trusted left = trusted right := by
  rw [trusted, trusted, perm.any_eq]

theorem policiesReordered_members {triggers otherTriggers : List Trigger}
    {topics otherTopics : List TopicDestination} (triggers_perm : triggers.Perm otherTriggers)
    (topics_perm : topics.Perm otherTopics) (function : String) (extra policies : List Json)
    (back : List (String × Json)) :
    Json.PoliciesReordered (topics.map fun topic => topic.name ++ "TopicPermissions")
      (.object (members triggers extra
        (policies ++ topics.map (TopicDestination.policy function)) ++ back))
      (.object (members otherTriggers extra
        (policies ++ otherTopics.map (TopicDestination.policy function)) ++ back)) := by
  have listed := at?_policies_members triggers extra
    (policies ++ topics.map (TopicDestination.policy function)) back
  rw [← List.cons_append] at listed
  refine .policies listed ?_ (topics_perm.map _) ?_
  · intro body mem
    obtain ⟨topic, topic_mem, rfl⟩ := List.mem_map.mp mem
    exact ⟨_, List.mem_map_of_mem topic_mem, rfl⟩
  · simp [Json.modifyAt?, members, List.lookup_cons, Entries.insert, trusted_of_perm triggers_perm]

end Role

/-- Two readings differ at most in the order of triggers and of topics. -/
structure Reading.Reordered (reading other : Reading) : Prop where
  /-- The triggers are the same up to their order. -/
  triggers : reading.triggers.Perm other.triggers
  /-- The topics are the same up to their order. -/
  topics : reading.topics.Perm other.topics
  /-- The runtime is the same. -/
  runtime : reading.runtime = other.runtime
  /-- The entry point is the same. -/
  handler : reading.handler = other.handler

namespace FunctionSpec

variable {spec other : FunctionSpec} {settings : Settings} {reading others : Reading}

theorem Reordered.reads (reordered : spec.Reordered other)
    (reads : spec.Reads settings reading) :
    ∃ others, other.Reads settings others ∧ reading.Reordered others := by
  obtain ⟨triggers, triggers_ok, triggers_perm⟩ := reordered.triggers reads.triggers
  obtain ⟨groups, groups_ok, groups_eq⟩ := reads.groups
  obtain ⟨regrouped, regrouped_ok, topics_perm⟩ := reordered.topics groups_ok
  refine ⟨⟨triggers, regrouped.flatMap Destination.entries, reading.runtime, reading.handler⟩, ?_,
    ⟨triggers_perm, groups_eq ▸ topics_perm, rfl, rfl⟩⟩
  exact {
    name := by
      rw [reordered.rest]
      exact reads.name
    triggers := triggers_ok
    topics := by
      rw [regrouped_ok]
      rfl
    parameters := fun parameter mem =>
      reads.parameters parameter (reordered.parameters.mem_iff.mpr mem)
    runtime := by
      rw [reordered.rest]
      exact reads.runtime
    handler := by
      rw [reordered.rest]
      exact reads.handler
    statements := by
      rw [reordered.rest]
      exact reads.statements
  }

section Layouts

variable (reordered : spec.Reordered other) (rereading : reading.Reordered others)

include reordered rereading

theorem parameterEntries_perm :
    (spec.parameterEntries reading).Perm (other.parameterEntries others) := by
  have declared_perm : spec.declaredEntries.Perm other.declaredEntries :=
    reordered.parameters.map _
  have topics_perm := rereading.topics.map fun topic => (topic.emailName, topic.email)
  exact ((((declared_perm.append_right _).append_right _).append topics_perm).append_right _)

theorem outputEntries_perm : (spec.outputEntries reading).Perm (other.outputEntries others) := by
  have name_eq : other.name = spec.name := by rw [reordered.rest]
  rw [outputEntries, outputEntries, name_eq]
  exact rereading.triggers.flatMap_right _

theorem resourcesWith_perm (function defaultRole dispatchRole : Json) :
    (spec.resourcesWith settings reading function defaultRole dispatchRole).Perm
      (other.resourcesWith settings others function defaultRole dispatchRole) := by
  have name_eq : other.name = spec.name := by rw [reordered.rest]
  have alarms_eq : Alarms.resources other settings = Alarms.resources spec settings := by
    rw [reordered.rest]
    rfl
  have triggers_perm := rereading.triggers.flatMap_right (Trigger.resources spec.name settings)
  have topics_perm := rereading.topics.map fun topic => (topic.topicName, topic.topic)
  rw [resourcesWith, resourcesWith, mergedResources, mergedResources, name_eq, alarms_eq]
  exact (((triggers_perm.append_left _).append topics_perm).append_right _)

omit reordered in
theorem topicVariables_perm : (topicVariables reading).Perm (topicVariables others) :=
  (rereading.topics.map _).cons _

theorem unambiguous_of_reordered (unambiguous : spec.Unambiguous settings reading) :
    other.Unambiguous settings others where
  parameters := ((parameterEntries_perm reordered rereading).map Prod.fst).nodup_iff.mp
    unambiguous.parameters
  resources := by
    have nodup := nodup_keys_resourcesWith unambiguous .null .null .null
    rw [← keys_resourcesWith other settings others .null .null .null]
    exact ((resourcesWith_perm reordered rereading .null .null .null).map Prod.fst).nodup_iff.mp
      nodup
  outputs := ((outputEntries_perm reordered rereading).map Prod.fst).nodup_iff.mp
    unambiguous.outputs
  environment := ((topicVariables_perm rereading).map Prod.fst).nodup_iff.mp
    unambiguous.environment

theorem parameterCount_of_reordered :
    other.parameterCount others = spec.parameterCount reading := by
  rw [← length_parameterEntries, ← length_parameterEntries]
  exact (parameterEntries_perm reordered rereading).length_eq.symm

/-- A variable has the same value whatever the order of declarations, since what fragments give and
what parameters give have distinct names each. -/
theorem find?_variables (unambiguous : spec.Unambiguous settings reading) (key : String) :
    (OrderedMap.ofList (spec.variableEntries reading)).find? key =
      (OrderedMap.ofList (other.variableEntries others)).find? key := by
  have topics_eq := OrderedMap.find?_ofList_perm (topicVariables_perm rereading)
    unambiguous.environment key
  have names_perm := (parameterEntries_perm reordered rereading).map Prod.fst
  have names_eq := OrderedMap.find?_ofList_perm
    (names_perm.map fun name => (name, Expression.reference name))
    (by simpa [Entries.keys, Function.comp_def] using unambiguous.parameters) key
  rw [variableEntries, variableEntries, OrderedMap.find?_ofList_append,
    OrderedMap.find?_ofList_append, OrderedMap.find?_ofList_append,
    OrderedMap.find?_ofList_append, topics_eq]
  -- The variables of the stack, between the two, are the same for both specs.
  exact congrArg (Option.or · _) names_eq

theorem functionResource_sameUpToOrder (unambiguous : spec.Unambiguous settings reading) :
    (spec.functionResource reading).SameUpToOrder (other.functionResource others) := by
  have variables_perm := OrderedMap.perm_entries (find?_variables reordered rereading unambiguous)
  have other_eq : other.functionResource others = Function.resource spec reading.runtime
      reading.handler (.ofList (other.variableEntries others)) := by
    rw [functionResource, rereading.runtime, rereading.handler]
    generalize OrderedMap.ofList (other.variableEntries others) = bound
    rw [reordered.rest]
    rfl
  rw [other_eq]
  exact .member [_] [] "Properties" (.member [_, _, _] [_, _, _, _] "Environment"
    (.member [] [] "Variables" (.ofMap variables_perm)))

omit reordered in
theorem defaultRole_reordered :
    (spec.defaultRole reading).PoliciesReordered
      (reading.topics.map fun topic => topic.name ++ "TopicPermissions")
      (spec.defaultRole others) := by
  have members_reordered := Role.policiesReordered_members rereading.triggers rereading.topics
    spec.name [] spec.statementPolicies []
  rwa [List.append_nil, List.append_nil] at members_reordered

omit reordered in
theorem dispatchRole_reordered :
    (spec.dispatchRole reading).PoliciesReordered
      (reading.topics.map fun topic => topic.name ++ "TopicPermissions")
      (spec.dispatchRole others) :=
  Role.policiesReordered_members rereading.triggers rereading.topics spec.name
    [Dispatch.publishStatement] spec.statementPolicies [("Condition", .string Names.hasDispatch)]

end Layouts

/-- The document of a reading with the execution roles of another. -/
def layoutWithRoles (spec : FunctionSpec) (settings : Settings) (reading others : Reading) :
    Template :=
  { spec.layout settings reading with
    resources := .ofList (spec.resourcesWith settings reading (spec.functionResource reading)
      (spec.defaultRole others) (spec.dispatchRole others)) }

theorem policiesReordered_layout (rereading : reading.Reordered others)
    (unambiguous : spec.Unambiguous settings reading) :
    (spec.layout settings reading).PoliciesReordered
      (reading.topics.map fun topic => topic.name ++ "TopicPermissions")
      (spec.layoutWithRoles settings reading others) := by
  have default_eq : (spec.layout settings reading).resources.insert "LambdaCfnRole"
      (spec.defaultRole others) = .ofList (spec.resourcesWith settings reading
        (spec.functionResource reading) (spec.defaultRole others) (spec.dispatchRole reading)) :=
    insert_defaultRole unambiguous _ _ _ _
  have dispatch_eq := insert_dispatchRole unambiguous (spec.functionResource reading)
    (spec.defaultRole others) (spec.dispatchRole reading) (spec.dispatchRole others)
  rw [layoutWithRoles, ← dispatch_eq, ← default_eq]
  exact .roles (find?_defaultRole unambiguous _ _ _) (defaultRole_reordered rereading)
    (find?_dispatchRole unambiguous _ _ _) (dispatchRole_reordered rereading)

theorem layoutWithRoles_of_topics_eq (rereading : reading.Reordered others)
    (topics_eq : reading.topics = others.topics) :
    spec.layoutWithRoles settings reading others = spec.layout settings reading := by
  have trusted_eq := Role.trusted_of_perm rereading.triggers
  have default_eq : spec.defaultRole others = spec.defaultRole reading := by
    simp only [defaultRole, Role.members, rolePolicies, topics_eq, trusted_eq]
  have dispatch_eq : spec.dispatchRole others = spec.dispatchRole reading := by
    simp only [dispatchRole, Role.members, rolePolicies, topics_eq, trusted_eq]
  rw [layoutWithRoles, default_eq, dispatch_eq]
  rfl

theorem resourcesWith_sameUpToOrder {function otherFunction : Json}
    (same : function.SameUpToOrder otherFunction) (defaultRole dispatchRole : Json) :
    (Json.object (spec.resourcesWith settings reading function defaultRole
      dispatchRole)).SameUpToOrder
        (.object (spec.resourcesWith settings reading otherFunction defaultRole dispatchRole)) := by
  have changed := Json.SameUpToOrder.member (Alarms.resources spec settings)
    ((Names.defaultRole, defaultRole) ::
      (reading.triggers.flatMap (Trigger.resources spec.name settings) ++
        reading.topics.map (fun topic => (topic.topicName, topic.topic)) ++
        [(Names.dispatchRole, dispatchRole)])) spec.name same
  simpa [resourcesWith, mergedResources] using changed

theorem layoutWithRoles_sameUpToOrder (reordered : spec.Reordered other)
    (rereading : reading.Reordered others) (unambiguous : spec.Unambiguous settings reading) :
    (spec.layoutWithRoles settings reading others).toJson.SameUpToOrder
      (other.layout settings others).toJson := by
  have default_eq : spec.defaultRole others = other.defaultRole others := by
    rw [reordered.rest]
    rfl
  have dispatch_eq : spec.dispatchRole others = other.dispatchRole others := by
    rw [reordered.rest]
    rfl
  have parameters_perm := OrderedMap.perm_entries_ofList
    (parameterEntries_perm reordered rereading) unambiguous.parameters
  have outputs_perm := OrderedMap.perm_entries_ofList
    (outputEntries_perm reordered rereading) unambiguous.outputs
  have resources_same : (Json.ofMap (spec.layoutWithRoles settings reading
      others).resources).SameUpToOrder (.ofMap (other.layout settings others).resources) := by
    have entries_eq := OrderedMap.entries_ofList (nodup_keys_resourcesWith unambiguous
      (spec.functionResource reading) (other.defaultRole others) (other.dispatchRole others))
    have other_entries_eq : (other.layout settings others).resources.entries =
        other.resourceEntries settings others :=
      OrderedMap.entries_ofList (unambiguous_of_reordered reordered rereading unambiguous).resources
    rw [layoutWithRoles, Json.ofMap, Json.ofMap, default_eq, dispatch_eq, entries_eq,
      other_entries_eq]
    have function_same := functionResource_sameUpToOrder reordered rereading unambiguous
    exact (resourcesWith_sameUpToOrder function_same _ _).trans
      (.members (resourcesWith_perm reordered rereading _ _ _))
  exact Template.sameUpToOrder rfl rfl rfl rfl (.ofMap parameters_perm) (.refl _) resources_same
    (.ofMap outputs_perm)

theorem embed_ok_of_reordered (reordered : spec.Reordered other) {template : Template}
    (embed_ok : spec.embed settings = .ok template) :
    ∃ others, other.embed settings = .ok others := by
  obtain ⟨reading, reads⟩ := reads_of_embed embed_ok
  obtain ⟨unambiguous, -⟩ := eq_layout_of_embed reads embed_ok
  obtain ⟨others, other_reads, rereading⟩ := reordered.reads reads
  have other_unambiguous := unambiguous_of_reordered reordered rereading unambiguous
  rw [embed_of_unambiguous reads unambiguous] at embed_ok
  rw [embed_of_unambiguous other_reads other_unambiguous,
    parameterCount_of_reordered reordered rereading]
  split at embed_ok
  · cases embed_ok
  next within => exact ⟨_, if_neg within⟩

/-- Specs that differ in the order of their declarations are compiled both or neither, and to the
same document up to the order of members and, where topics are in another order, of their
policies. -/
theorem embed_of_reordered (reordered : spec.Reordered other) (settings : Settings) :
    ((∃ template, spec.embed settings = .ok template) ↔
      ∃ template, other.embed settings = .ok template) ∧
    ∀ template otherTemplate, spec.embed settings = .ok template →
      other.embed settings = .ok otherTemplate →
      ∃ middle, template.PoliciesReordered
          (spec.destinationNames.map (· ++ "TopicPermissions")) middle ∧
        (other.destinations = spec.destinations → middle = template) ∧
        middle.toJson.SameUpToOrder otherTemplate.toJson := by
  refine ⟨⟨?_, ?_⟩, ?_⟩
  · exact fun ⟨_, embed_ok⟩ => embed_ok_of_reordered reordered embed_ok
  · exact fun ⟨_, embed_ok⟩ => embed_ok_of_reordered reordered.symm embed_ok
  · intro template otherTemplate embed_ok other_ok
    obtain ⟨reading, reads, unambiguous, rfl⟩ := layout_of_embed embed_ok
    obtain ⟨others, other_reads, rereading⟩ := reordered.reads reads
    obtain ⟨-, rfl⟩ := eq_layout_of_embed other_reads other_ok
    refine ⟨spec.layoutWithRoles settings reading others, ?_, fun unchanged => ?_,
      layoutWithRoles_sameUpToOrder reordered rereading unambiguous⟩
    · have policies_reordered := policiesReordered_layout rereading unambiguous
      rw [← reads.topicNames_eq, Reading.topicNames, List.map_map]
      exact policies_reordered
    · refine layoutWithRoles_of_topics_eq rereading ?_
      have topics_ok := reads.topics
      rw [readDestinations_eq_mapM, ← unchanged, ← readDestinations_eq_mapM, other_reads.topics]
        at topics_ok
      exact (Except.ok.inj topics_ok).symm

/-- The sample with a second parameter and a second topic. -/
def paired : FunctionSpec :=
  { sample with
    parameters := .ofList [
      ("Stage", { type := some "String", description := some "Stage" }),
      ("Owner", { type := some "String", description := some "Owner" })
    ]
    destinations := some (.ofList [
      ("sns", .ofMap (.ofList [("operators", .object []), ("owners", .object [])]))
    ]) }

/-- The same with all its declarations the other way round. -/
def pairedReversed : FunctionSpec :=
  { paired with
    parameters := .ofList [
      ("Owner", { type := some "String", description := some "Owner" }),
      ("Stage", { type := some "String", description := some "Stage" })
    ]
    eventSources := some (.ofList [
      ("webhook", .object [("method", "GET")]),
      ("schedule", .object [("expression", "rate(1 hour)")])
    ])
    destinations := some (.ofList [
      ("sns", .ofMap (.ofList [("owners", .object []), ("operators", .object [])]))
    ]) }

/-- What the fields of the pair say. -/
def pairedReading : Reading :=
  { sampleReading with topics := [{ name := "operators" }, { name := "owners" }] }

theorem reads_paired : paired.Reads {} pairedReading :=
  { reads_sample with
    topics := rfl
    parameters := by
      intro parameter mem
      rcases List.mem_pair.mp mem with rfl | rfl <;> rfl }

theorem paired_reordered : paired.Reordered pairedReversed where
  parameters := .swap _ _ []
  eventSources := .some (.swap _ _ [])
  destinations := .some (.cons (.topics (.swap _ _ [])) .nil)
  rest := rfl

theorem paired_embed_reversed : ∃ template otherTemplate middle,
    paired.embed {} = .ok template ∧ pairedReversed.embed {} = .ok otherTemplate ∧
      template.PoliciesReordered ["operatorsTopicPermissions", "ownersTopicPermissions"] middle ∧
      middle.toJson.SameUpToOrder otherTemplate.toJson := by
  have unambiguous := (unambiguous_iff_not_collides reads_paired).mpr (by decide)
  have embed_ok : paired.embed {} = .ok (paired.layout {} pairedReading) := by
    rw [embed_of_unambiguous reads_paired unambiguous]
    exact if_neg (by decide)
  obtain ⟨accepted_iff, same⟩ := embed_of_reordered paired_reordered {}
  obtain ⟨otherTemplate, other_ok⟩ := accepted_iff.mp ⟨_, embed_ok⟩
  obtain ⟨middle, policies_reordered, -, same_members⟩ := same _ _ embed_ok other_ok
  exact ⟨_, otherTemplate, middle, embed_ok, other_ok, policies_reordered, same_members⟩

end FunctionSpec
end LambdaStack

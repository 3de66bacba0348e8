import LambdaStack.Proofs.Stack.Roles

/-!
# Names of policies

The inline policies of a role are told apart by their names. The basic policy has a fixed name, that
of the statements is named after the function, and each destination names one after itself; all of
them stand in one list in which nothing compares them. The ways in which two of them have the same
name are listed here, and there are no others.
-/

namespace LambdaStack

namespace Json

/-- The name of a policy. -/
def policyName? (policy : Json) : Option String :=
  (policy.member? "PolicyName").bind asString?

/-- The names of the policies of a role, in order. -/
def policyNames? (role : Json) : Option (List String) := do
  let policies ← (role.at? ["Properties", "Policies"]).bind items?
  policies.mapM policyName?

end Json

namespace Role

theorem mapM_policyName? {α : Type} (items : List α) (name : α → String)
    (statements : α → List Json) :
    (items.map fun item => policy (name item) (statements item)).mapM Json.policyName? =
      some (items.map name) := by
  rw [List.mapM_map]
  exact List.mapM_pure

theorem policyNames?_members (triggers : List Trigger) (extra : List Json) {policies : List Json}
    {names : List String} (named : policies.mapM Json.policyName? = some names)
    (back : List (String × Json)) :
    (Json.object (members triggers extra policies ++ back)).policyNames? =
      some ("basic" :: names) := by
  have basic_eq : (policy "basic" (basicStatements ++ extra)).policyName? = some "basic" := rfl
  simp [Json.policyNames?, at?_policies_members, Json.items?, basic_eq, named]

end Role

namespace FunctionSpec

/-- The names of the policies of an execution role but the basic one. -/
def policyNames (spec : FunctionSpec) : List String :=
  spec.statements.toList.map (fun _ => spec.name) ++
    spec.destinationNames.map (· ++ "TopicPermissions")

/-- The ways in which two policies of an execution role have the same name. -/
inductive PolicyClash (spec : FunctionSpec) : Prop where
  /-- The function has statements and is named like the basic policy. -/
  | basic (declared : spec.statements.isSome) (name_eq : spec.name = "basic")
  /-- The function has statements and is named like the policy of a destination. -/
  | destination (declared : spec.statements.isSome) (name : String)
    (mem : name ∈ spec.destinationNames) (name_eq : spec.name = name ++ "TopicPermissions")

variable {spec : FunctionSpec} {settings : Settings} {reading : Reading}

theorem Reads.mapM_rolePolicies (reads : spec.Reads settings reading) :
    (spec.rolePolicies reading).mapM Json.policyName? = some spec.policyNames := by
  have statements_eq := Role.mapM_policyName? spec.statements.toList (fun _ => spec.name)
    fun statements => statements.map Json.ofMap
  have topics_eq : (reading.topics.map (TopicDestination.policy spec.name)).mapM
      Json.policyName? = some (reading.topics.map (·.name ++ "TopicPermissions")) :=
    Role.mapM_policyName? reading.topics _ _
  have names_eq : reading.topics.map (·.name ++ "TopicPermissions") =
      spec.destinationNames.map (· ++ "TopicPermissions") := by
    rw [← reads.topicNames_eq, Reading.topicNames, List.map_map]
    rfl
  rw [rolePolicies, List.mapM_append, statementPolicies, statements_eq, topics_eq, names_eq]
  rfl

theorem mem_statementNames_iff {name : String} :
    name ∈ spec.statements.toList.map (fun _ => spec.name) ↔
      spec.statements.isSome ∧ name = spec.name := by
  cases spec.statements <;> simp

theorem basic_not_mem_destinationPolicies (spec : FunctionSpec) :
    "basic" ∉ spec.destinationNames.map (· ++ "TopicPermissions") := by
  intro mem
  obtain ⟨name, -, name_eq⟩ := List.mem_map.mp mem
  have length_eq := congrArg String.length name_eq
  rw [String.length_append] at length_eq
  have suffix_longer : "basic".length < "TopicPermissions".length := by decide
  omega

/-- The policies of an execution role have distinct names but for the listed ways. -/
theorem nodup_policyNames_iff (spec : FunctionSpec) :
    ("basic" :: spec.policyNames).Nodup ↔ ¬spec.PolicyClash := by
  have statements_nodup : (spec.statements.toList.map fun _ => spec.name).Nodup := by
    cases spec.statements <;> simp
  have destinations_nodup : (spec.destinationNames.map (· ++ "TopicPermissions")).Nodup :=
    spec.nodup_destinationNames.map (Identifier.injective_append "TopicPermissions")
  rw [policyNames, List.nodup_cons, List.nodup_append', List.mem_append, not_or]
  constructor
  · rintro ⟨⟨basic_absent, -⟩, -, -, apart⟩ clash
    cases clash with
    | basic declared name_eq =>
        exact basic_absent (mem_statementNames_iff.mpr ⟨declared, name_eq.symm⟩)
    | destination declared name mem name_eq =>
        exact apart (mem_statementNames_iff.mpr ⟨declared, rfl⟩)
          (List.mem_map.mpr ⟨name, mem, name_eq.symm⟩)
  · intro distinct
    refine ⟨⟨fun mem => ?_, spec.basic_not_mem_destinationPolicies⟩, statements_nodup,
      destinations_nodup, fun key statement_mem destination_mem => ?_⟩
    · obtain ⟨declared, name_eq⟩ := mem_statementNames_iff.mp mem
      exact distinct (.basic declared name_eq.symm)
    · obtain ⟨declared, rfl⟩ := mem_statementNames_iff.mp statement_mem
      obtain ⟨name, mem, name_eq⟩ := List.mem_map.mp destination_mem
      exact distinct (.destination declared name mem name_eq.symm)

theorem policyNames?_layout (reads : spec.Reads settings reading)
    (unambiguous : spec.Unambiguous settings reading) {role : String}
    (mem : role ∈ ["LambdaCfnRole", "LambdaCfnDispatchRole"]) :
    ((spec.layout settings reading).resources.find? role).bind Json.policyNames? =
      some ("basic" :: spec.policyNames) := by
  simp only [List.mem_cons, List.not_mem_nil, or_false] at mem
  rcases mem with rfl | rfl
  · have names_eq := Role.policyNames?_members reading.triggers [] reads.mapM_rolePolicies []
    rw [List.append_nil] at names_eq
    exact Option.bind_eq_some_iff.mpr
      ⟨_, (find?_resources unambiguous).mpr .defaultRole, names_eq⟩
  · exact Option.bind_eq_some_iff.mpr ⟨_, (find?_resources unambiguous).mpr .dispatchRole,
      Role.policyNames?_members _ _ reads.mapM_rolePolicies _⟩

/-- The policies of both execution roles of a document have distinct names unless the function has
statements and is named like another of its policies. -/
theorem distinct_policies_iff {template : Template}
    (embed_ok : spec.embed settings = .ok template) :
    ∀ role ∈ ["LambdaCfnRole", "LambdaCfnDispatchRole"], ∃ names,
      (template.resources.find? role).bind Json.policyNames? = some names ∧
      (names.Nodup ↔ ¬spec.PolicyClash) := by
  obtain ⟨reading, reads, unambiguous, rfl⟩ := layout_of_embed embed_ok
  exact fun role mem => ⟨_, policyNames?_layout reads unambiguous mem, spec.nodup_policyNames_iff⟩

theorem sample_distinct_policies : ∃ template, sample.embed {} = .ok template ∧
    ∀ role ∈ ["LambdaCfnRole", "LambdaCfnDispatchRole"], ∃ names,
      (template.resources.find? role).bind Json.policyNames? = some names ∧ names.Nodup := by
  have distinct : ¬sample.PolicyClash := by
    rintro (⟨-, name_eq⟩ | ⟨-, name, mem, name_eq⟩)
    · exact absurd name_eq (by decide)
    · have topics_eq : sample.destinationNames = ["operators"] := rfl
      rw [topics_eq, List.mem_singleton] at mem
      subst mem
      exact absurd name_eq (by decide)
  refine ⟨_, embed_sample, fun role mem => ?_⟩
  obtain ⟨names, names_eq, nodup_iff⟩ := distinct_policies_iff embed_sample role mem
  exact ⟨names, names_eq, nodup_iff.mpr distinct⟩

/-- Under the name of the basic policy the sample is still compiled, and has two policies of that
name in each role. -/
theorem renamed_policies_repeat : ∃ template,
    { sample with name := "basic" }.embed {} = .ok template ∧
    ∀ role ∈ ["LambdaCfnRole", "LambdaCfnDispatchRole"], ∃ names,
      (template.resources.find? role).bind Json.policyNames? = some names ∧
      names = ["basic", "basic", "operatorsTopicPermissions"] ∧ ¬names.Nodup := by
  have reads : { sample with name := "basic" }.Reads {} sampleReading := reads_renamed rfl
  have distinct : ¬{ sample with name := "basic" }.Collides sampleReading := by decide
  refine ⟨_, embed_renamed rfl distinct, fun role mem => ⟨_, ?_, rfl, by decide⟩⟩
  exact policyNames?_layout reads (unambiguous_of_not_collides reads distinct) mem

end FunctionSpec
end LambdaStack

import LambdaStack.Proofs.Stack.Inventory

/-!
# Denotations of names

What a reference to a name denotes in a document: a parameter, a resource, or one of each. Fragments
are compared section by section when they are merged, so that a parameter and a resource may come to
have one name. The ways in which they do are listed here, and there are no others.
-/

namespace LambdaStack

open Identifier

theorem OrderedMap.length_find? {α : Type} (map : OrderedMap α) (key : String) :
    (map.find? key).toList.length = if key ∈ map.keys then 1 else 0 := by
  by_cases bound : key ∈ map.keys
  · obtain ⟨value, mem⟩ := Entries.mem_keys.mp bound
    rw [if_pos bound, find?_eq_some_iff.mpr mem]
    rfl
  · have unbound : map.find? key = none := by
      rw [Option.eq_none_iff_forall_ne_some]
      exact fun value found => bound (Entries.mem_keys_of_mem (find?_eq_some_iff.mp found))
    rw [if_neg bound, unbound]
    rfl

namespace Template

/-- The parameters and resources that a reference to a name denotes. -/
def denotations (template : Template) (name : String) : List Json :=
  (template.parameters.find? name).toList ++ (template.resources.find? name).toList

/-- A name that denotes anything denotes one thing only unless it is both a parameter and a
resource. -/
theorem length_denotations_eq_one_iff {template : Template} {name : String}
    (mem : name ∈ template.parameters.keys ++ template.resources.keys) :
    (template.denotations name).length = 1 ↔
      ¬(name ∈ template.parameters.keys ∧ name ∈ template.resources.keys) := by
  rw [denotations, List.length_append, OrderedMap.length_find?, OrderedMap.length_find?]
  rw [List.mem_append] at mem
  by_cases parameter : name ∈ template.parameters.keys <;>
    by_cases resource : name ∈ template.resources.keys <;> simp_all

end Template

namespace FunctionSpec

/-- The ways in which a parameter and a resource of one document have the same name. -/
inductive NamedTwice (spec : FunctionSpec) (settings : Settings) : String → Prop where
  /-- A declared parameter is named like a resource. -/
  | declared (name : String) (mem : name ∈ spec.parameters.keys)
    (resource : name ∈
      spec.resourceInventory (WebhookTrigger.deploymentName settings.deploymentSuffix)) :
    NamedTwice spec settings name
  /-- The function is named like a parameter that every document has. -/
  | shared (mem : spec.name ∈
      ["CodeS3Bucket", "CodeS3Prefix", "GitSha", "ServiceAlarmEmail", "DispatchSnsArn"]) :
    NamedTwice spec settings spec.name
  /-- The function is named like the address of a destination. -/
  | email (name : String) (mem : name ∈ spec.destinationNames)
    (name_eq : spec.name = name ++ "Email") : NamedTwice spec settings spec.name

variable {spec : FunctionSpec} {settings : Settings} {reading : Reading}

theorem mem_parameters_iff (reads : spec.Reads settings reading) {key : String} :
    key ∈ (spec.layout settings reading).parameters.keys ↔
      key ∈ spec.parameters.keys ∨ key ∈ sharedParameters ∨
        key ∈ spec.destinationNames.map (· ++ "Email") := by
  have mem_iff := (keys_parameterEntries_perm spec reading).mem_iff (a := key)
  rw [reads.topicNames_eq, List.mem_append, List.mem_append] at mem_iff
  exact OrderedMap.mem_keys_ofList.trans mem_iff

theorem eq_name_of_append_email {name : String}
    (mem : name ++ "Email" ∈ (spec.layout settings reading).resources.keys) :
    name ++ "Email" = spec.name := by
  have ending_eq : ending (name ++ "Email") = ending "Email" := ending_append name (by decide)
  apply eq_name_of_ending mem
  · rw [ending_eq]
    decide
  · rw [ending_eq]
    decide
  · intro shared_mem
    have shared_endings : ∀ key ∈ sharedResources, ending key ≠ ending "Email" := by decide
    exact shared_endings _ shared_mem ending_eq

theorem namedTwice_iff (reads : spec.Reads settings reading)
    (unambiguous : spec.Unambiguous settings reading) {name : String} :
    (name ∈ (spec.layout settings reading).parameters.keys ∧
      name ∈ (spec.layout settings reading).resources.keys) ↔ spec.NamedTwice settings name := by
  have resources_eq := keys_resources_layout reads unambiguous
  have function_mem : spec.name ∈ (spec.layout settings reading).resources.keys :=
    HasResource.function.mem_keys
  constructor
  · rintro ⟨parameter_mem, resource_mem⟩
    rcases (mem_parameters_iff reads).mp parameter_mem with declared | shared | email
    · exact .declared name declared (resources_eq ▸ resource_mem)
    · have name_eq := eq_name_of_mem_sharedParameters resource_mem shared
      subst name_eq
      exact .shared shared
    · obtain ⟨topic, topic_mem, rfl⟩ := List.mem_map.mp email
      have name_eq := eq_name_of_append_email resource_mem
      rw [name_eq]
      exact .email topic topic_mem name_eq.symm
  · intro twice
    rw [mem_parameters_iff reads]
    cases twice with
    | declared _ mem resource => exact ⟨.inl mem, resources_eq ▸ resource⟩
    | shared mem => exact ⟨.inr (.inl mem), function_mem⟩
    | email topic mem name_eq =>
        exact ⟨.inr (.inr (List.mem_map.mpr ⟨topic, mem, name_eq.symm⟩)), function_mem⟩

/-- A parameter and a resource of a document have the same name in none but the listed ways. Where
they do not, every name that a document binds denotes one thing only. -/
theorem denotes_once_iff {template : Template} (embed_ok : spec.embed settings = .ok template) :
    (∀ name, (name ∈ template.parameters.keys ∧ name ∈ template.resources.keys) ↔
      spec.NamedTwice settings name) ∧
    ((∀ name ∈ template.parameters.keys ++ template.resources.keys,
      (template.denotations name).length = 1) ↔ ∀ name, ¬spec.NamedTwice settings name) := by
  obtain ⟨reading, reads, unambiguous, rfl⟩ := layout_of_embed embed_ok
  have twice_iff (name : String) : (name ∈ (spec.layout settings reading).parameters.keys ∧
      name ∈ (spec.layout settings reading).resources.keys) ↔ spec.NamedTwice settings name :=
    namedTwice_iff reads unambiguous
  refine ⟨twice_iff, fun once name twice => ?_, fun distinct name mem => ?_⟩
  · have both := (twice_iff name).mpr twice
    have mem := List.mem_append_left (spec.layout settings reading).resources.keys both.1
    exact (Template.length_denotations_eq_one_iff mem).mp (once name mem) both
  · rw [Template.length_denotations_eq_one_iff mem, twice_iff]
    exact distinct name

theorem sample_denotes_once : ∃ template, sample.embed {} = .ok template ∧
    ∀ name ∈ template.parameters.keys ++ template.resources.keys,
      (template.denotations name).length = 1 := by
  refine ⟨_, embed_sample, (denotes_once_iff embed_sample).2.mpr fun name twice => ?_⟩
  cases twice with
  | declared _ mem resource =>
      have parameters_eq : sample.parameters.keys = ["Stage"] := rfl
      rw [parameters_eq, List.mem_singleton] at mem
      subst mem
      exact absurd resource (by decide)
  | shared mem => exact absurd mem (by decide)
  | email topic mem name_eq =>
      have topics_eq : sample.destinationNames = ["operators"] := rfl
      rw [topics_eq, List.mem_singleton] at mem
      subst mem
      exact absurd name_eq (by decide)

/-- The sample with a parameter that is named like the function. -/
def namesake : FunctionSpec :=
  { sample with
    parameters := .ofList [("report", { type := some "String", description := some "Stage" })] }

theorem reads_namesake : namesake.Reads {} sampleReading :=
  { reads_sample with
    parameters := by
      intro parameter mem
      rw [List.mem_singleton.mp mem]
      rfl }

/-- The namesake is compiled although its name is that of a parameter and of a resource. -/
theorem namesake_denotes_twice : ∃ template, namesake.embed {} = .ok template ∧
    "report" ∈ template.parameters.keys ∧ "report" ∈ template.resources.keys ∧
    (template.denotations "report").length = 2 := by
  have unambiguous := (unambiguous_iff_not_collides reads_namesake).mpr (by decide)
  have embed_ok : namesake.embed {} = .ok (namesake.layout {} sampleReading) := by
    rw [embed_of_unambiguous reads_namesake unambiguous]
    exact if_neg (by decide)
  obtain ⟨parameter_mem, resource_mem⟩ := (namedTwice_iff reads_namesake unambiguous).mpr
    (.declared "report" List.mem_cons_self (by decide))
  refine ⟨_, embed_ok, parameter_mem, resource_mem, ?_⟩
  rw [Template.denotations, List.length_append, OrderedMap.length_find?, OrderedMap.length_find?,
    if_pos parameter_mem, if_pos resource_mem]

end FunctionSpec
end LambdaStack

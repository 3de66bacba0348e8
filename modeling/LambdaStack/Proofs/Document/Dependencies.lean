import LambdaStack.Proofs.Document.Mentions
import Mathlib.Logic.Relation

/-!
# Dependencies

What has to be made before what. A resource needs the resources that its body mentions and the one
for which it waits; the resources of a document can be made one after another just when none needs
itself.
-/

namespace LambdaStack

/-- The name of which a mention asks for the value. -/
def Mention.target? : Mention → Option String
  | .reference (.string name) => some name
  | .attribute (.array [.string resource, _]) => some resource
  | _ => none

namespace Json

/-- Names of which a value asks for the references and attributes. -/
def targets (value : Json) : List String :=
  value.mentions.filterMap Mention.target?

/-- Names that must have a value before a resource is made. -/
def requirements (resource : Json) : List String :=
  match resource.member? "DependsOn" with
  | some (.string name) => name :: resource.targets
  | _ => resource.targets

theorem mem_targets {value : Json} {mention : Mention} {name : String}
    (mem : mention ∈ value.mentions) (target_eq : mention.target? = some name) :
    name ∈ value.targets :=
  List.mem_filterMap.mpr ⟨mention, mem, target_eq⟩

theorem targets_subset_requirements (resource : Json) :
    resource.targets ⊆ resource.requirements := by
  intro name mem
  unfold requirements
  split
  · exact List.mem_cons_of_mem _ mem
  · exact mem

theorem mem_requirements {resource : Json} {name : String} (mem : name ∈ resource.requirements) :
    resource.member? "DependsOn" = some (.string name) ∨
      ∃ mention ∈ resource.mentions, mention.target? = some name := by
  unfold requirements at mem
  split at mem
  next awaited found =>
    rcases List.mem_cons.mp mem with rfl | mem
    · exact .inl found
    · exact .inr (List.mem_filterMap.mp mem)
  next => exact .inr (List.mem_filterMap.mp mem)

end Json

namespace Template

variable {template : Template}

/-- A resource needs another one, which must be made before it. -/
def Needs (template : Template) (key target : String) : Prop :=
  target ∈ template.resources.keys ∧
    ∃ resource, template.resources.find? key = some resource ∧ target ∈ resource.requirements

/-- No resource needs itself, not even through others. -/
def Acyclic (template : Template) : Prop :=
  ∀ key, ¬Relation.TransGen template.Needs key key

/-- Resources are made in an order, each after all that it needs, when some are made already. -/
inductive MadeInOrder (template : Template) : List String → List String → Prop where
  /-- Nothing is left to make. -/
  | done (made : List String) : MadeInOrder template made []
  /-- A resource is made, and the others after it. -/
  | next {made rest : List String} {key : String}
    (ready : ∀ target, template.Needs key target → target ∈ made)
    (later : MadeInOrder template (key :: made) rest) : MadeInOrder template made (key :: rest)

/-- All resources can be made in some order. -/
def Deployable (template : Template) : Prop :=
  ∃ order, order.Perm template.resources.keys ∧ template.MadeInOrder [] order

/-- A resource can be made if all that it needs can be made. -/
abbrev Makeable (template : Template) (key : String) : Prop :=
  Acc (fun target key => template.Needs key target) key

theorem makeable_of_not_mem {key : String} (absent : key ∉ template.resources.keys) :
    template.Makeable key := by
  refine Acc.intro key fun target needs => ?_
  obtain ⟨-, resource, found, -⟩ := needs
  exact absurd (Entries.mem_keys_of_mem (OrderedMap.find?_eq_some_iff.mp found)) absent

theorem Makeable.not_transGen {key : String} (makeable : template.Makeable key) :
    ¬Relation.TransGen template.Needs key key := by
  induction makeable with
  | intro key _ ih =>
      intro cycle
      obtain ⟨target, needs, back⟩ := Relation.TransGen.head'_iff.mp cycle
      exact ih target needs (Relation.TransGen.tail' back needs)

theorem acyclic_of_makeable
    (makeable : ∀ key ∈ template.resources.keys, template.Makeable key) : template.Acyclic := by
  intro key
  by_cases mem : key ∈ template.resources.keys
  · exact (makeable key mem).not_transGen
  · exact (makeable_of_not_mem mem).not_transGen

theorem MadeInOrder.makeable {made order : List String} (in_order : template.MadeInOrder made order)
    (made_before : ∀ key ∈ made, template.Makeable key) :
    ∀ key ∈ order, template.Makeable key := by
  induction in_order with
  | done => simp
  | next ready later ih =>
      have now := Acc.intro _ fun target needs => made_before target (ready target needs)
      exact List.forall_mem_cons.mpr ⟨now, ih (List.forall_mem_cons.mpr ⟨now, made_before⟩)⟩

/-- Of some resources without cycles, one needs none of them. -/
theorem Acyclic.exists_least (acyclic : template.Acyclic) {rest : List String}
    (nonempty : rest ≠ []) :
    ∃ key ∈ rest, ∀ other ∈ rest, ¬Relation.TransGen template.Needs key other := by
  induction rest with
  | nil => exact absurd rfl nonempty
  | cons first rest ih =>
      rcases eq_or_ne rest [] with rfl | more
      · exact ⟨first, List.mem_cons_self, List.forall_mem_singleton.mpr (acyclic first)⟩
      · obtain ⟨key, mem, least⟩ := ih more
        by_cases needs : Relation.TransGen template.Needs key first
        · exact ⟨first, List.mem_cons_self, List.forall_mem_cons.mpr ⟨acyclic first,
            fun other other_mem onward => least other other_mem (needs.trans onward)⟩⟩
        · exact ⟨key, List.mem_cons_of_mem _ mem, List.forall_mem_cons.mpr ⟨needs, least⟩⟩

/-- Whatever is left can be made in some order, by making a least one of it first. -/
theorem Acyclic.exists_order (acyclic : template.Acyclic) {made rest : List String}
    (covers : ∀ key ∈ template.resources.keys, key ∈ made ∨ key ∈ rest) :
    ∃ order, order.Perm rest ∧ template.MadeInOrder made order := by
  induction count_eq : rest.length generalizing made rest with
  | zero =>
      rw [List.length_eq_zero_iff.mp count_eq]
      exact ⟨[], .nil, .done made⟩
  | succ count ih =>
      have nonempty : rest ≠ [] := List.ne_nil_of_length_eq_add_one count_eq
      obtain ⟨key, mem, least⟩ := acyclic.exists_least nonempty
      have ready : ∀ target, template.Needs key target → target ∈ made := fun target needs =>
        (covers target needs.1).resolve_right fun left => least target left (.single needs)
      have still_covers : ∀ other ∈ template.resources.keys,
          other ∈ key :: made ∨ other ∈ rest.erase key := by
        intro other other_mem
        by_cases same : other = key
        · exact .inl (same ▸ List.mem_cons_self)
        · rw [List.mem_cons, List.mem_erase_of_ne same, or_assoc]
          exact .inr (covers other other_mem)
      have shorter : (rest.erase key).length = count := by
        rw [List.length_erase_of_mem mem, count_eq, Nat.add_sub_cancel]
      obtain ⟨order, perm, in_order⟩ := ih still_covers shorter
      exact ⟨key :: order, (perm.cons key).trans (List.perm_cons_erase mem).symm,
        .next ready in_order⟩

/-- The resources of a document can be made in some order just when none needs itself. -/
theorem deployable_iff_acyclic : template.Deployable ↔ template.Acyclic := by
  constructor
  · rintro ⟨order, perm, in_order⟩
    have makeable := in_order.makeable (by simp)
    exact acyclic_of_makeable fun key mem => makeable key (perm.mem_iff.mpr mem)
  · exact fun acyclic => acyclic.exists_order fun key mem => .inr mem

end Template
end LambdaStack

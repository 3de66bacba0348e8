import LambdaStack.Proofs.FunctionSpec.Reading

/-!
# Order of declarations

Specs that declare the same parameters, event sources and topics in different orders. Each of their
fields is read alike: the triggers and the topics of the one are those of the other in another
order.
-/

namespace LambdaStack

/-- Two entries of the destinations of a spec: the same, or topics in different orders. -/
inductive Destination.Reordered : String × Json → String × Json → Prop where
  /-- Nothing differs. -/
  | same (entry : String × Json) : Reordered entry entry
  /-- The topics are declared in another order. -/
  | topics {left right : OrderedMap Json} (perm : left.entries.Perm right.entries) :
    Reordered ("sns", .ofMap left) ("sns", .ofMap right)

/-- Two specs differ at most in the order in which parameters, event sources and topics are
declared. -/
structure FunctionSpec.Reordered (spec other : FunctionSpec) : Prop where
  /-- The parameters are the same up to their order. -/
  parameters : spec.parameters.entries.Perm other.parameters.entries
  /-- The event sources are the same up to their order. -/
  eventSources : Option.Rel (fun left right => left.entries.Perm right.entries)
    spec.eventSources other.eventSources
  /-- The destinations are the same up to the order of topics. -/
  destinations : Option.Rel
    (fun left right => List.Forall₂ Destination.Reordered left.entries right.entries)
    spec.destinations other.destinations
  /-- All other fields are the same. -/
  rest : other = { spec with
    parameters := other.parameters
    eventSources := other.eventSources
    destinations := other.destinations }

namespace Destination

theorem Reordered.symm {left right : String × Json} (reordered : Reordered left right) :
    Reordered right left := by
  cases reordered with
  | same => exact .same left
  | topics perm => exact .topics perm.symm

theorem readTopics_of_perm {left right : OrderedMap Json} {topics : List TopicDestination}
    (perm : left.entries.Perm right.entries) (read_ok : readTopics (.ofMap left) = .ok topics) :
    ∃ others, readTopics (.ofMap right) = .ok others ∧ topics.Perm others := by
  unfold readTopics Json.ofMap at read_ok ⊢
  simp only [OrderedMap.entries_ofList left.nodup] at read_ok
  simp only [OrderedMap.entries_ofList right.nodup]
  exact mapM_of_perm perm read_ok

theorem Reordered.read {left right : String × Json} (reordered : Reordered left right)
    {group : Destination} (read_ok : Destination.read left.1 left.2 = .ok group) :
    ∃ other, Destination.read right.1 right.2 = .ok other ∧
      group.entries.Perm other.entries := by
  cases reordered with
  | same => exact ⟨group, read_ok, .refl _⟩
  | topics perm =>
      obtain ⟨-, topics_ok⟩ := read_eq_ok_iff.mp read_ok
      obtain ⟨others, others_ok, others_perm⟩ := readTopics_of_perm perm topics_ok
      exact ⟨.topics others, read_eq_ok_iff.mpr ⟨rfl, others_ok⟩, others_perm⟩

theorem read_of_reordered {left right : List (String × Json)} {groups : List Destination}
    (reordered : List.Forall₂ Reordered left right)
    (read_ok : (left.mapM fun entry => Destination.read entry.1 entry.2) = .ok groups) :
    ∃ others, (right.mapM fun entry => Destination.read entry.1 entry.2) = .ok others ∧
      (groups.flatMap entries).Perm (others.flatMap entries) := by
  simp only [mapM_eq_ok_iff] at read_ok ⊢
  induction reordered generalizing groups with
  | nil =>
      cases read_ok
      exact ⟨[], .nil, .refl _⟩
  | cons head _ ih =>
      cases read_ok with
      | cons first rest =>
          obtain ⟨group, group_ok, group_perm⟩ := head.read first
          obtain ⟨others, others_ok, others_perm⟩ := ih rest
          exact ⟨group :: others, .cons group_ok others_ok, group_perm.append others_perm⟩

end Destination

private theorem rel_symm {α : Type} {relation inverse : α → α → Prop}
    (reverse : ∀ left right, relation left right → inverse right left) {left right : Option α}
    (related : Option.Rel relation left right) : Option.Rel inverse right left := by
  cases related with
  | some held => exact .some (reverse _ _ held)
  | none => exact .none

namespace FunctionSpec

variable {spec other : FunctionSpec}

theorem Reordered.symm (reordered : spec.Reordered other) : other.Reordered spec where
  parameters := reordered.parameters.symm
  eventSources := rel_symm (fun _ _ => List.Perm.symm) reordered.eventSources
  destinations := rel_symm (fun _ _ pairs => pairs.flip.imp fun _ _ => Destination.Reordered.symm)
    reordered.destinations
  rest := by rw [reordered.rest]

theorem Reordered.sources (reordered : spec.Reordered other) :
    spec.sources.Perm other.sources := by
  have related := reordered.eventSources
  unfold FunctionSpec.sources
  generalize spec.eventSources = declared at related ⊢
  generalize other.eventSources = redeclared at related ⊢
  cases related with
  | none => exact .refl _
  | @some left right perm =>
      have empty_eq : left.isEmpty = right.isEmpty := by
        rw [Bool.eq_iff_iff, OrderedMap.isEmpty, OrderedMap.isEmpty, List.isEmpty_iff,
          List.isEmpty_iff]
        exact ⟨fun none => (none ▸ perm).symm.eq_nil, fun none => (none ▸ perm).eq_nil⟩
      simp only [empty_eq]
      split
      · exact .refl _
      · exact perm

theorem Reordered.triggers (reordered : spec.Reordered other) {triggers : List Trigger}
    (read_ok : spec.triggers = .ok triggers) :
    ∃ others, other.triggers = .ok others ∧ triggers.Perm others := by
  rw [triggers_eq_mapM] at read_ok ⊢
  exact mapM_of_perm reordered.sources read_ok

theorem Reordered.topics (reordered : spec.Reordered other) {groups : List Destination}
    (read_ok : spec.readDestinations = .ok groups) :
    ∃ others, other.readDestinations = .ok others ∧
      (groups.flatMap Destination.entries).Perm (others.flatMap Destination.entries) := by
  have pairs : List.Forall₂ Destination.Reordered (spec.destinations.getD ∅).entries
      (other.destinations.getD ∅).entries := by
    have related := reordered.destinations
    generalize spec.destinations = declared at related ⊢
    generalize other.destinations = redeclared at related ⊢
    cases related with
    | some pairs => exact pairs
    | none => exact .nil
  rw [readDestinations_eq_mapM] at read_ok ⊢
  exact Destination.read_of_reordered pairs read_ok

end FunctionSpec
end LambdaStack

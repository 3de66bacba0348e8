import LambdaStack.Document.Template
import LambdaStack.Proofs.Entries

/-!
# Order of members

Values that only differ in the order in which the members of objects stand. The order of the items
of arrays counts, as does everything else. Templates whose sections are the same up to such an order
are the same up to it as a whole.
-/

namespace LambdaStack

namespace Json

/-- Two values differ at most in the order of the members of objects, at any depth. -/
inductive SameUpToOrder : Json → Json → Prop where
  /-- Nothing differs. -/
  | refl (value : Json) : SameUpToOrder value value
  /-- The members of an object stand in another order. -/
  | members {left right : List (String × Json)} (perm : left.Perm right) :
    SameUpToOrder (.object left) (.object right)
  /-- The values of a member differ. -/
  | member (front back : List (String × Json)) (key : String) {left right : Json}
    (same : SameUpToOrder left right) :
    SameUpToOrder (.object (front ++ (key, left) :: back)) (.object (front ++ (key, right) :: back))
  /-- An item of an array differs. -/
  | item (front back : List Json) {left right : Json} (same : SameUpToOrder left right) :
    SameUpToOrder (.array (front ++ left :: back)) (.array (front ++ right :: back))
  /-- One difference after the other. -/
  | trans {left middle right : Json} (first : SameUpToOrder left middle)
    (second : SameUpToOrder middle right) : SameUpToOrder left right

namespace SameUpToOrder

/-- Objects whose members stand in the same order are the same up to order when their values are. -/
theorem object {left right : List (String × Json)}
    (pairs : List.Forall₂ (fun member other => member.1 = other.1 ∧ SameUpToOrder member.2 other.2)
      left right) : SameUpToOrder (.object left) (.object right) := by
  suffices after : ∀ front, SameUpToOrder (.object (front ++ left)) (.object (front ++ right)) by
    exact after []
  induction pairs with
  | nil => exact fun front => .refl _
  | @cons member other left right head _ ih =>
      intro front
      obtain ⟨key, value⟩ := member
      obtain ⟨rfl, same⟩ := head
      have rest := ih (front ++ [other])
      rw [List.append_assoc, List.append_assoc] at rest
      exact (SameUpToOrder.member front left other.1 same).trans rest

theorem ofMap {left right : OrderedMap Json} (perm : left.entries.Perm right.entries) :
    SameUpToOrder (.ofMap left) (.ofMap right) :=
  .members perm

end SameUpToOrder

end Json

/-- Templates with the same sections up to order are the same up to order. -/
theorem Template.sameUpToOrder {left right : Template}
    (format : left.formatVersion = right.formatVersion)
    (description : left.description = right.description)
    (metadata : left.metadata = right.metadata)
    (mappings : left.mappings = right.mappings)
    (parameters : (Json.ofMap left.parameters).SameUpToOrder (.ofMap right.parameters))
    (conditions : (Json.ofMap left.conditions).SameUpToOrder (.ofMap right.conditions))
    (resources : (Json.ofMap left.resources).SameUpToOrder (.ofMap right.resources))
    (outputs : (Json.ofMap left.outputs).SameUpToOrder (.ofMap right.outputs)) :
    left.toJson.SameUpToOrder right.toJson := by
  have same (members : List (String × Json)) : List.Forall₂ (fun member other =>
      member.1 = other.1 ∧ Json.SameUpToOrder member.2 other.2) members members :=
    List.forall₂_same.mpr fun member _ => ⟨rfl, .refl member.2⟩
  rw [toJson, toJson, format, description, metadata, mappings]
  refine Json.SameUpToOrder.object ?_
  refine List.rel_append (List.rel_append (List.rel_append (same _) ?_) (same _)) ?_
  · exact .cons ⟨rfl, parameters⟩ .nil
  · exact .cons ⟨rfl, conditions⟩ (.cons ⟨rfl, resources⟩ (.cons ⟨rfl, outputs⟩ .nil))

end LambdaStack

import LambdaStack.Document.Expression
import LambdaStack.Document.Template
import LambdaStack.Proofs.Entries

/-!
# Mentions

The references, attributes and conditionals anywhere inside a value. Each is an object of one
member, whose key tells what it is.
-/

namespace LambdaStack

/-- Names that the provisioning engine itself gives a value. -/
def Expression.pseudoNames : List String :=
  ["AWS::StackName", "AWS::Region", "AWS::AccountId", "AWS::StackId"]

/-- A place of a value that names something else in its document. -/
inductive Mention where
  /-- The value of a parameter or the identity of a resource. -/
  | reference (target : Json)
  /-- An attribute of a resource. -/
  | attribute (target : Json)
  /-- A choice by a condition. -/
  | choice (target : Json)

namespace Json

/-- What an object itself mentions. -/
def ownMentions : List (String × Json) → List Mention
  | [("Ref", target)] => [.reference target]
  | [("Fn::GetAtt", target)] => [.attribute target]
  | [("Fn::If", target)] => [.choice target]
  | _ => []

mutual

/-- Everything that is mentioned inside a value. -/
def mentions : Json → List Mention
  | .array items => mentionsOfItems items
  | .object members => ownMentions members ++ mentionsOfMembers members
  | _ => []

/-- Everything that is mentioned inside the items of an array. -/
def mentionsOfItems : List Json → List Mention
  | [] => []
  | item :: rest => item.mentions ++ mentionsOfItems rest

/-- Everything that is mentioned inside the members of an object. -/
def mentionsOfMembers : List (String × Json) → List Mention
  | [] => []
  | (_, value) :: rest => value.mentions ++ mentionsOfMembers rest

end

theorem mentionsOfItems_eq (items : List Json) :
    mentionsOfItems items = items.flatMap mentions := by
  induction items with
  | nil => rfl
  | cons item rest ih => rw [mentionsOfItems, ih, List.flatMap_cons]

theorem mentionsOfMembers_eq (members : List (String × Json)) :
    mentionsOfMembers members = members.flatMap fun member => member.2.mentions := by
  induction members with
  | nil => rfl
  | cons member rest ih => rw [mentionsOfMembers, ih, List.flatMap_cons]

@[simp]
theorem mentions_string (text : String) : (Json.string text).mentions = [] :=
  rfl

@[simp]
theorem mentions_number (value : JsonNumber) : (Json.number value).mentions = [] :=
  rfl

@[simp]
theorem mentions_null : Json.null.mentions = [] :=
  rfl

@[simp]
theorem mentions_array (items : List Json) :
    (Json.array items).mentions = items.flatMap mentions :=
  mentionsOfItems_eq items

theorem mentions_object (members : List (String × Json)) :
    (Json.object members).mentions =
      ownMentions members ++ members.flatMap fun member => member.2.mentions :=
  congrArg (ownMentions members ++ ·) (mentionsOfMembers_eq members)

/-- An object with a member that is not the key of a mention mentions nothing by itself. -/
theorem ownMentions_eq_nil {members : List (String × Json)} {key : String}
    (mem : key ∈ Entries.keys members) (plain : key ∉ ["Ref", "Fn::GetAtt", "Fn::If"]) :
    ownMentions members = [] := by
  simp only [List.mem_cons, List.not_mem_nil, or_false, not_or] at plain
  obtain ⟨not_reference, not_attribute, not_choice⟩ := plain
  unfold ownMentions
  split
  · exact absurd (List.mem_singleton.mp mem) not_reference
  · exact absurd (List.mem_singleton.mp mem) not_attribute
  · exact absurd (List.mem_singleton.mp mem) not_choice
  · rfl

theorem mentions_plainObject {members : List (String × Json)} {key : String}
    (mem : key ∈ Entries.keys members) (plain : key ∉ ["Ref", "Fn::GetAtt", "Fn::If"]) :
    (Json.object members).mentions = members.flatMap fun member => member.2.mentions := by
  rw [mentions_object, ownMentions_eq_nil mem plain, List.nil_append]

@[simp]
theorem mentions_reference (name : String) :
    (Expression.reference name).mentions = [.reference (.string name)] := by
  simp [Expression.reference, mentions_object, ownMentions]

@[simp]
theorem mentions_attributeOf (resource name : String) :
    (Expression.attributeOf resource name).mentions =
      [.attribute (.array [.string resource, .string name])] := by
  simp [Expression.attributeOf, mentions_object, ownMentions]

@[simp]
theorem mentions_joinWith (delimiter : String) (parts : List Json) :
    (Expression.joinWith delimiter parts).mentions = parts.flatMap mentions := by
  simp [Expression.joinWith, mentions_object, ownMentions]

@[simp]
theorem mentions_choice (condition : String) (whenTrue whenFalse : Json) :
    (Expression.choice condition whenTrue whenFalse).mentions =
      .choice (.array [.string condition, whenTrue, whenFalse]) ::
        (whenTrue.mentions ++ whenFalse.mentions) := by
  simp [Expression.choice, mentions_object, ownMentions]

@[simp]
theorem mentions_notEquals (left right : Json) :
    (Expression.notEquals left right).mentions = left.mentions ++ right.mentions := by
  simp [Expression.notEquals, mentions_object, ownMentions]

@[simp]
theorem mentions_ofSetting (setting : Binary64) : (ofSetting setting).mentions = [] := by
  unfold ofSetting
  split
  · dsimp only
    split <;> simp
  · simp

end Json

example : (Json.object [("Name", "Ref"), ("Value", Expression.reference "topic")]).mentions =
    [.reference "topic"] := by
  simp [Json.mentions_object, Json.ownMentions]

end LambdaStack

import LambdaStack.Document.Expression
import LambdaStack.Document.Template

/-!
# Evaluation

What the provisioning engine makes of a document when every reference has a text as its value: the
texts of an object, the truth of a condition, the alternative of a conditional, and the statements
of a policy.
-/

namespace LambdaStack

namespace Json

/-- Value at a path of object members. -/
def at? : List String → Json → Option Json
  | [], value => some value
  | key :: path, value => (value.member? key).bind (at? path)

/-- Items of an array. -/
def items? : Json → Option (List Json)
  | .array items => some items
  | _ => none

/-- Text of a constant or a reference. -/
def text? (values : String → String) : Json → Option String
  | .string text => some text
  | .object [("Ref", .string name)] => some (values name)
  | _ => none

/-- Names and texts of the members of an object. -/
def texts? (values : String → String) : Json → Option (List (String × String))
  | .object members =>
    members.mapM fun member => (member.2.text? values).map fun text => (member.1, text)
  | _ => none

/-- Truth of a comparison of texts, or of the negation of a condition. -/
def holds? (values : String → String) : Json → Option Bool
  | .object [("Fn::Equals", .array [left, right])] => do
    let leftText ← left.text? values
    let rightText ← right.text? values
    return leftText == rightText
  | .object [("Fn::Not", .array [condition])] => (condition.holds? values).map (!·)
  | _ => none

/-- The resource of whose ARN an expression is the value. -/
def arnOwner? : Json → Option String
  | .object [("Fn::GetAtt", .array [.string resource, .string "Arn"])] => some resource
  | _ => none

/-- The statements of the policy of a name, among the policies of a role. -/
def statements? (policy : String) (role : Json) : Option (List Json) := do
  let policies ← (role.at? ["Properties", "Policies"]).bind items?
  let named ← policies.find? fun body => body.member? "PolicyName" = some (.string policy)
  (named.at? ["PolicyDocument", "Statement"]).bind items?

/-- A statement allows an action on a resource. -/
structure Allows (statement : Json) (action : String) (resource : Json) : Prop where
  /-- It is a permission. -/
  effect : statement.member? "Effect" = some (.string "Allow")
  /-- The action is among its actions. -/
  actions : ∃ actions, statement.member? "Action" = some (.array actions) ∧ .string action ∈ actions
  /-- The resource is its resource. -/
  resource : statement.member? "Resource" = some resource

@[simp]
theorem text?_reference (values : String → String) (name : String) :
    (Expression.reference name).text? values = some (values name) := rfl

@[simp]
theorem holds?_notEquals_reference (values : String → String) (text name : String) :
    (Expression.notEquals text (Expression.reference name)).holds? values =
      some (text != values name) := by
  simp only [Expression.notEquals, holds?, text?_reference]
  rfl

/-- An object of constants and references has the texts of all its members. -/
theorem texts?_eq_some {values : String → String} {members : List (String × Json)}
    {text : String × Json → String}
    (texts : ∀ member ∈ members, member.2.text? values = some (text member)) :
    (Json.object members).texts? values =
      some (members.map fun member => (member.1, text member)) := by
  induction members with
  | nil => rfl
  | cons member rest ih =>
      have rest_eq := ih fun later mem => texts later (List.mem_cons_of_mem _ mem)
      simp only [texts?] at rest_eq
      simp [texts?, texts member List.mem_cons_self, rest_eq]

end Json

namespace Template

/-- Truth of a condition of a template. -/
def holds? (template : Template) (values : String → String) (condition : String) : Option Bool :=
  (template.conditions.find? condition).bind (Json.holds? values)

/-- The alternative that a conditional takes. -/
def select? (template : Template) (values : String → String) : Json → Option Json
  | .object [("Fn::If", .array [.string condition, whenTrue, whenFalse])] =>
    (template.holds? values condition).map fun holds => if holds then whenTrue else whenFalse
  | _ => none

/-- The role that a property of a resource selects. -/
def selectedRole? (template : Template) (values : String → String) (resource : Json)
    (property : String) : Option String := do
  let conditional ← resource.at? ["Properties", property]
  let role ← template.select? values conditional
  role.arnOwner?

/-- The basic policy of a role of a template allows an action on a resource. -/
def BasicPolicyAllows (template : Template) (role action : String) (resource : Json) : Prop :=
  ∃ body statements, template.resources.find? role = some body ∧
    body.statements? "basic" = some statements ∧
    ∃ statement ∈ statements, statement.Allows action resource

end Template
end LambdaStack

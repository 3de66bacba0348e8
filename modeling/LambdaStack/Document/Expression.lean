import LambdaStack.Json.Basic

/-!
# Expressions

JSON forms that the provisioning engine evaluates: references, attributes, joins and conditionals.
-/

namespace LambdaStack
namespace Expression

/-- Value of a parameter, or identity of a resource. -/
def reference (name : String) : Json :=
  .object [("Ref", name)]

/-- Attribute of a resource. -/
def attributeOf (resource name : String) : Json :=
  .object [("Fn::GetAtt", .array [resource, name])]

/-- Parts written with a delimiter between them. -/
def joinWith (delimiter : String) (parts : List Json) : Json :=
  .object [("Fn::Join", .array [delimiter, .array parts])]

/-- Parts written one after the other. -/
def join (parts : List Json) : Json :=
  joinWith "" parts

/-- One of two values, chosen by a condition. -/
def choice (condition : String) (whenTrue whenFalse : Json) : Json :=
  .object [("Fn::If", .array [condition, whenTrue, whenFalse])]

/-- The two values differ. -/
def notEquals (left right : Json) : Json :=
  .object [("Fn::Not", .array [.object [("Fn::Equals", .array [left, right])]])]

/-- Name of the stack. -/
def stackName : Json :=
  reference "AWS::StackName"

/-- Region of the stack. -/
def region : Json :=
  reference "AWS::Region"

/-- Account of the stack. -/
def accountId : Json :=
  reference "AWS::AccountId"

/-- Identity of the stack. -/
def stackId : Json :=
  reference "AWS::StackId"

end Expression
end LambdaStack

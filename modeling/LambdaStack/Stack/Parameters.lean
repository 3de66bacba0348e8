import LambdaStack.Document.Fragment
import LambdaStack.FunctionSpec.Basic
import LambdaStack.FunctionSpec.Identifier
import LambdaStack.Stack.Names

/-!
# Parameters

The parameters that the caller declares, followed by the three that tell where the code is.
-/

namespace LambdaStack
namespace Parameters

/-- A parameter that holds a text. -/
def textParameter (description : String) : Json :=
  .object [("Type", "String"), ("Description", description)]

/-- A text that is present and not empty. -/
def isGiven (text : Option String) : Bool :=
  (text.getD "") != ""

/-- A declared parameter has an alphanumeric name, a type and a description. -/
def validate (name : String) (definition : ParameterDefinition) : Except Failure Unit :=
  if !isAlphanumeric name then .error (.invalidParameterName name)
  else if !isGiven definition.type then .error (.incompleteParameter name "Type")
  else if !isGiven definition.description then .error (.incompleteParameter name "Description")
  else .ok ()

/-- Parameters that tell where the code is. -/
def provenance : List (String × Json) :=
  [
    (Names.codeBucket, textParameter "lambda function S3 bucket location"),
    (Names.codePrefix, textParameter "lambda function S3 prefix location"),
    (Names.gitSha, textParameter "Deploy Gitsha")
  ]

/-- Add a declared parameter to a fragment. -/
def declare (fragment : Fragment) (parameter : String × ParameterDefinition) :
    Except Failure Fragment :=
  (validate parameter.1 parameter.2).map fun _ =>
    fragment.insert .parameters parameter.1 parameter.2.toJson

/-- Add a parameter that the caller may not have declared. -/
def addProvenance (fragment : Fragment) (parameter : String × Json) : Except Failure Fragment :=
  fragment.insertNew .parameters parameter.1 parameter.2

/-- The fragment of the declared parameters and of those that tell where the code is. -/
def fragment (spec : FunctionSpec) : Except Failure Fragment := do
  let declared ← spec.parameters.entries.foldlM declare Fragment.empty
  provenance.foldlM addProvenance declared

end Parameters
end LambdaStack

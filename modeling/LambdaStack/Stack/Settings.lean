/-!
# Settings

Everything besides the spec on which a document depends: the suffix of webhook deployments, the
place of the spec file, and where alarms are explained.
-/

namespace LambdaStack

/-- Ten base-36 digits that tell one deployment from the next. -/
structure DeploymentSuffix where
  /-- The digits. -/
  digits : Vector (Fin 36) 10
  deriving DecidableEq

namespace DeploymentSuffix

/-- The digits as decimal digits and small letters. -/
def text (suffix : DeploymentSuffix) : String :=
  String.ofList (suffix.digits.toList.map fun digit =>
    if digit.val < 10 then Char.ofNat (digit.val + '0'.toNat)
    else Char.ofNat (digit.val - 10 + 'a'.toNat))

end DeploymentSuffix

/-- Settings of a compilation. -/
structure Settings where
  /-- Suffix of webhook deployments; without one the documents of a spec are always the same. -/
  deploymentSuffix : Option DeploymentSuffix := none
  /-- Path of the spec file, from which a handler can be derived. -/
  sourcePath : Option String := none
  /-- Start of the link that explains an alarm, to which the name of the alarm is added. -/
  runbookUrl : String := "https://github.com/stackfn/stackfn/blob/main/docs/alarms.md#"
  deriving DecidableEq

end LambdaStack

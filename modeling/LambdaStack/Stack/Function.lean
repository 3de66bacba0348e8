import LambdaStack.Document.Expression
import LambdaStack.Document.Fragment
import LambdaStack.Files.Path
import LambdaStack.FunctionSpec.Basic
import LambdaStack.Stack.Names
import LambdaStack.Stack.Role
import LambdaStack.Stack.Settings

/-!
# The function

The resource of the function itself. Its settings are brought into the limits of the platform, its
runtime is one of those supported, and its handler may follow from the place of the spec file.
-/

namespace LambdaStack

/-- A supported runtime. -/
inductive Runtime where
  /-- Version 8.10. -/
  | node8
  /-- Version 10. -/
  | node10
  deriving DecidableEq

namespace Runtime

/-- Identifier of a runtime. -/
def text : Runtime → String
  | node8 => "nodejs8.10"
  | node10 => "nodejs10.x"

/-- The runtime of an identifier; the newer one when none is given. -/
def resolve : Option String → Except Failure Runtime
  | none => .ok node10
  | some name =>
    if name = "" then .ok node10
    else
      match [node8, node10].find? (·.text = name) with
      | some runtime => .ok runtime
      | none => .error (.unsupportedRuntime name)

end Runtime

namespace Function

/-- The time limit: at most 900 seconds, and 60 unless a positive one is given. -/
def timeout : Option Binary64 → Binary64
  | some value =>
    if 0 < value ∧ value ≤ 900 then value
    else if 900 < value then 900
    else 60
  | none => 60

/-- The memory: a multiple of 64 megabytes from 128 to 3008. -/
def memorySize : Option Binary64 → Binary64
  | some value =>
    if 128 ≤ value ∧ value ≤ 3008 then value.floorTo 64
    else if 3008 < value then 3008
    else 128
  | none => 128

/-- The entry point: the one that is given, or one named after the directory of the spec file. -/
def handler (given sourcePath : Option String) : Except Failure String :=
  let name := given.getD ""
  if name ≠ "" then .ok name
  else
    match sourcePath.bind Path.directoryName? with
    | some directory => .ok (directory ++ "/function.fn")
    | none =>
      .error (.missingField "handler"
        "handler is required when the function spec location is unknown")

/-- The resource of a function that runs with the given variables. -/
def resource (spec : FunctionSpec) (runtime : Runtime) (handler : String)
    (bound : OrderedMap Json) : Json :=
  .object [
    ("Type", "AWS::Lambda::Function"),
    ("Properties", .object [
      ("Code", .object [
        ("S3Bucket", Expression.reference Names.codeBucket),
        ("S3Key", Expression.join [
          Expression.reference Names.codePrefix,
          Expression.reference Names.gitSha,
          ".zip"
        ])
      ]),
      ("Role", Role.arn),
      ("Description", Expression.stackName),
      ("Environment", .object [("Variables", .ofMap bound)]),
      ("Timeout", Json.ofSetting (timeout spec.timeout)),
      ("MemorySize", Json.ofSetting (memorySize spec.memorySize)),
      ("Runtime", runtime.text),
      ("Handler", handler)
    ])
  ]

/-- The fragment of the function, under its own name and still without variables. -/
def fragment (spec : FunctionSpec) (settings : Settings) : Except Failure Fragment := do
  let runtime ← Runtime.resolve spec.runtime
  let handler ← handler spec.handler settings.sourcePath
  return { resources := .ofList [(spec.name, resource spec runtime handler ∅)] }

end Function
end LambdaStack

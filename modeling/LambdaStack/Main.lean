import LambdaStack.Console.Running

/-!
# The program

The command line on the files of the machine. All decisions are made by the library; here files are
accessed, a deployment suffix is drawn, and the outcome is printed.
-/

namespace LambdaStack
namespace Program

/-- The reason of a failed access. -/
def fileError : IO.Error → FileError
  | .noFileOrDirectory .. => .notFound
  | .alreadyExists .. => .alreadyExists
  | .inappropriateType _ 21 _ => .isDirectory
  | .inappropriateType .. => .notDirectory
  | .invalidArgument _ 36 _ => .nameTooLong
  | error => .other (toString error)

/-- The result of an access. -/
def attempt {α : Type} (action : IO α) : IO (Except FileError α) := do
  try
    return .ok (← action)
  catch error =>
    return .error (fileError error)

/-- A path can be opened. -/
def opens (path : String) : IO Bool := do
  match ← attempt (IO.FS.Handle.mk path .read) with
  | .ok _ => return true
  | .error _ => return false

/-- The text of a file. -/
def readText (path : String) : IO (Except FileError String) := do
  match ← attempt (IO.FS.readBinFile path) with
  | .error error => return .error error
  | .ok bytes =>
    match String.fromUTF8? bytes with
    | some text => return .ok text
    | none => return .error .notText

instance : FileAccess IO where
  readText := readText
  entryExists path := opens path
  directoryExists path := opens (path ++ "/.")
  makeDirectory path := attempt (IO.FS.createDir path)
  writeText path content := attempt (IO.FS.writeFile path content)

/-- A fresh deployment suffix. -/
def drawSuffix : IO DeploymentSuffix := do
  let digits ← (List.range 10).mapM fun _ => IO.rand 0 35
  return ⟨Vector.ofFn fun place => Fin.ofNat 36 ((digits[place.val]?).getD 0)⟩

/-- The surroundings of one run. -/
def surroundings : IO Console.Surroundings := do
  let name := "STACKFN_DETERMINISTIC"
  let environment :=
    match ← IO.getEnv name with
    | some value => [(name, value)]
    | none => []
  return { environment, suffix := ← drawSuffix }

/-- Run an action and print what it leaves behind. -/
def report (action : IO Console.Outcome) : IO UInt32 := do
  let start ← IO.monoMsNow
  let outcome ← action
  let taken ← IO.monoMsNow
  for note in outcome.notes do
    IO.eprintln (note.text (toString (taken - start)))
  IO.print outcome.output
  return UInt32.ofNat outcome.exitCode

/-- Compile a spec file again whenever its text has changed. -/
partial def follow (spec : String) (output : Option String) (embed : Bool)
    (known : Except FileError String) : IO UInt32 := do
  IO.sleep 300
  let current ← readText spec
  let unchanged :=
    match known, current with
    | .ok before, .ok after => before == after
    | .error before, .error after => decide (before = after)
    | _, _ => false
  unless unchanged do
    let now ← surroundings
    let _ ← report (Console.rebuild spec output embed
      (now.deploymentSuffix now.deterministic))
  follow spec output embed current

/-- Run a command line. -/
def start (arguments : List String) : IO UInt32 := do
  let now ← surroundings
  let code ← report (Console.run now arguments)
  match Console.Command.ofArguments {} arguments with
  | .ok (.watch spec output embed) =>
    if code = 0 then follow spec output embed (← readText spec) else return code
  | _ => return code

end Program
end LambdaStack

/-- The command line. -/
def main (arguments : List String) : IO UInt32 :=
  LambdaStack.Program.start arguments

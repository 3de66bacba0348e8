import LambdaStack.Console.Arguments
import LambdaStack.Console.Outcome
import LambdaStack.Files.Scaffold
import LambdaStack.Files.SpecFile
import LambdaStack.Stack.Compilation

/-!
# Running commands

The commands in terms of file access. A spec file is loaded and compiled before anything is written,
so that a failure leaves every file as it was.
-/

namespace LambdaStack
namespace Console

/-- What a run depends on besides files: the environment and a fresh deployment suffix. -/
structure Surroundings where
  /-- Names and values of the environment. -/
  environment : List (String × String) := []
  /-- Suffix of webhook deployments. -/
  suffix : DeploymentSuffix
  deriving DecidableEq

namespace Surroundings

/-- The environment asks for documents that are always the same. -/
def deterministic (surroundings : Surroundings) : Bool :=
  surroundings.environment.lookup "STACKFN_DETERMINISTIC" == some "1"

/-- The suffix of the deployments of a run. -/
def deploymentSuffix (surroundings : Surroundings) (deterministic : Bool) :
    Option DeploymentSuffix :=
  if deterministic then none else some surroundings.suffix

end Surroundings

variable {m : Type → Type} [Monad m] [FileAccess m]

/-- The template of a spec. -/
def templateOf (spec : FunctionSpec) (settings : Settings) (embed : Bool) :
    Except Failure Template :=
  if embed then spec.embed settings else spec.compile settings

/-- The template of a spec file. -/
def render (path : String) (embed : Bool) (suffix : Option DeploymentSuffix) :
    m (Except Failure Template) := do
  match ← FunctionSpec.load path with
  | .error failure => return .error failure
  | .ok spec =>
    return templateOf spec { deploymentSuffix := suffix, sourcePath := some path } embed

/-- The text of a template as it is written, with a line break at its end. -/
def document (template : Template) : String :=
  template.text ++ "\n"

/-- Write a document to a file, or leave it to be output. -/
def writeDocument (text : String) : Option String → m Outcome
  | none => return { output := text }
  | some path => do
    match ← FileAccess.writeText path text with
    | .error error => return .failure ("Failed to write " ++ path ++ ": " ++ error.message)
    | .ok _ => return { notes := [.line (successLine ("Wrote " ++ path))] }

/-- Write the template of a spec file. -/
def build (spec : String) (output : Option String) (embed : Bool)
    (suffix : Option DeploymentSuffix) : m Outcome := do
  match ← render spec embed suffix with
  | .error failure => return .failure failure.message
  | .ok template => writeDocument (document template) output

/-- Notes on a spec file that compiles. -/
def checkNotes (summary : Summary) : List Note :=
  [.line (successLine "Looking good.")] ++
    summary.lines.map (fun line => .line ("    " ++ line)) ++
    [.timed (infoLine "Checked")]

/-- Compile a spec file without writing anything. -/
def check (spec : String) : m Outcome := do
  match ← render spec false none with
  | .error failure => return .failure failure.message
  | .ok template => return { notes := checkNotes template.summary }

/-- Lines of the files of a scaffold. -/
def scaffoldTree (scaffold : Scaffold) : List String :=
  let items := scaffold.created.map (fun path => (path, "created")) ++
    scaffold.skipped.map fun path => (path, "exists, kept")
  let shown := items.map fun item =>
    ((Path.lastName? (Path.components item.1)).getD "", item.2)
  shown.mapIdx fun index item => treeLine item.1 item.2 (index + 1 == items.length)

/-- Notes on a scaffold. -/
def scaffoldNotes (scaffold : Scaffold) : List Note :=
  [.line (successLine ("Created " ++ scaffold.directory))] ++
    (scaffoldTree scaffold).map .line ++
    [.line "", .line ("  stackfn build " ++ Path.join scaffold.directory Scaffold.specFile)]

/-- Make the directory of a function. -/
def init (name base : String) : m Outcome := do
  match ← Scaffold.create base name with
  | .error failure => return .failure failure.message
  | .ok scaffold => return { notes := scaffoldNotes scaffold }

/-- Compile a spec file once and tell the result; a failure is told as well. -/
def rebuild (spec : String) (output : Option String) (embed : Bool)
    (suffix : Option DeploymentSuffix) : m Outcome := do
  match ← render spec embed suffix with
  | .error failure => return { Outcome.failure failure.message with exitCode := 0 }
  | .ok template =>
    let outcome ← writeDocument (document template) output
    let compiled := successLine ("Compiled " ++ toString template.summary.resources ++
      " resource(s)")
    return { outcome with
      exitCode := 0
      notes := if outcome.exitCode = 0 then [.timed compiled] else outcome.notes }

/-- The first compilation of a spec file that is watched, which has to exist. -/
def watch (spec : String) (output : Option String) (embed : Bool)
    (suffix : Option DeploymentSuffix) : m Outcome := do
  if ← FileAccess.entryExists spec then rebuild spec output embed suffix
  else return .failure ("Cannot watch " ++ spec ++ ": " ++ FileError.notFound.message)

/-- Run a command. -/
def Command.run (surroundings : Surroundings) : Command → m Outcome
  | .build spec output embed deterministic =>
    Console.build spec output embed
      (surroundings.deploymentSuffix (deterministic || surroundings.deterministic))
  | .check spec => Console.check spec
  | .init name base => Console.init name base
  | .watch spec output embed =>
    Console.watch spec output embed (surroundings.deploymentSuffix surroundings.deterministic)

/-- Run a command line. -/
def run (surroundings : Surroundings) (arguments : List String) : m Outcome :=
  match Command.ofArguments {} arguments with
  | .error error => return .usage error.message
  | .ok command => command.run surroundings

end Console
end LambdaStack

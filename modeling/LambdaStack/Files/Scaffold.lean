import LambdaStack.Files.Access
import LambdaStack.Json.Printer

/-!
# Scaffolds

New function directories with a spec file and a code file. Files that are there already are kept.
-/

namespace LambdaStack

/-- What a scaffold has touched. -/
structure Scaffold where
  /-- Directory of the function. -/
  directory : String
  /-- Files that were written. -/
  created : List String := []
  /-- Files that were there already. -/
  skipped : List String := []
  deriving DecidableEq

/-- Why no scaffold is made. -/
inductive ScaffoldFailure where
  /-- The name is not admitted. -/
  | invalidName (name : String)
  /-- The base is the directory of a function. -/
  | insideFunction (base : String)
  /-- The directory cannot be made. -/
  | directoryNotMade (directory reason : String)
  /-- A file cannot be written. -/
  | fileNotWritten (path reason : String)
  deriving DecidableEq

/-- Wording of a failure. -/
def ScaffoldFailure.message : ScaffoldFailure → String
  | invalidName name =>
    "Invalid function name '" ++ name ++
      "': must start with a letter and contain only letters, numbers and dashes"
  | insideFunction base =>
    "init called within an existing function directory (" ++ base ++ ")"
  | directoryNotMade directory reason => "Failed to create " ++ directory ++ ": " ++ reason
  | fileNotWritten path reason => "Failed to write " ++ path ++ ": " ++ reason

namespace Scaffold

/-- Name of the spec file. -/
def specFile : String := "function.json"

/-- Name of the code file. -/
def codeFile : String := "function.js"

/-- Content of a new code file. -/
def codeTemplate : String :=
  "module.exports.fn = function(event, context, callback) \x7b\n" ++
    "  // function code goes here\n  callback();\n\x7d;\n"

/-- A letter followed by at least one letter, digit or dash. -/
def isValidName (name : String) : Bool :=
  match name.toList with
  | [] => false
  | c :: rest => c.isAlpha && !rest.isEmpty && rest.all fun c => c.isAlphanum || c == '-'

/-- Name of the function of a directory: the name of the directory without dashes. -/
def functionName (name : String) : String :=
  String.ofList (name.toList.filter (· ≠ '-'))

/-- Content of a new spec file. -/
def specTemplate (name : String) : String :=
  (Json.object [("name", functionName name)]).pretty ++ "\n"

variable {m : Type → Type} [Monad m] [FileAccess m]

/-- Write a file of a scaffold unless it is there. -/
def addFile (scaffold : Scaffold) (file content : String) :
    m (Except ScaffoldFailure Scaffold) := do
  let path := Path.join scaffold.directory file
  if ← FileAccess.entryExists path then
    return .ok { scaffold with skipped := scaffold.skipped ++ [path] }
  else
    match ← FileAccess.writeText path content with
    | .error error => return .error (.fileNotWritten path error.message)
    | .ok _ => return .ok { scaffold with created := scaffold.created ++ [path] }

/-- Make the directory of a function in a base directory, with a spec file and a code file. -/
def create (base name : String) : m (Except ScaffoldFailure Scaffold) := do
  if !isValidName name then return .error (.invalidName name)
  else if ← FileAccess.entryExists (Path.join base codeFile) then
    return .error (.insideFunction base)
  else
    let directory := Path.join base name
    match ← FileAccess.makeDirectories directory with
    | .error error => return .error (.directoryNotMade directory error.message)
    | .ok _ =>
      match ← addFile { directory } specFile (specTemplate name) with
      | .error failure => return .error failure
      | .ok scaffold => addFile scaffold codeFile codeTemplate

end Scaffold
end LambdaStack

import LambdaStack.Files.FileError
import LambdaStack.Files.Path

/-!
# File access

The accesses to files that programs of this library make, and the creation of a directory together
with all its parents in terms of them.
-/

namespace LambdaStack

/-- Accesses to files by path. -/
class FileAccess (m : Type → Type) where
  /-- The text of a file. -/
  readText : String → m (Except FileError String)
  /-- There is an entry. -/
  entryExists : String → m Bool
  /-- There is a directory. -/
  directoryExists : String → m Bool
  /-- Make one directory. -/
  makeDirectory : String → m (Except FileError Unit)
  /-- Write a file, replacing its content. -/
  writeText : String → String → m (Except FileError Unit)

namespace FileAccess

variable {m : Type → Type} [Monad m] [FileAccess m]

/-- Make one directory unless it is there. -/
def ensureDirectory (path : String) : m (Except FileError Unit) := do
  match ← makeDirectory path with
  | .ok _ => return .ok ()
  | .error error => if ← directoryExists path then return .ok () else return .error error

/-- Make the directory of the first of some paths, and of the others if it has to. Each path is the
parent of the one before it. -/
def makeDirectoriesOf : List String → m (Except FileError Unit)
  | [] => return .ok ()
  | path :: parents => do
    match ← makeDirectory path with
    | .ok _ => return .ok ()
    | .error .notFound =>
      match ← makeDirectoriesOf parents with
      | .error error => return .error error
      | .ok _ => ensureDirectory path
    | .error error => if ← directoryExists path then return .ok () else return .error error

/-- Make a directory and its parents. The empty path names a directory that is there. -/
def makeDirectories (path : String) : m (Except FileError Unit) :=
  if path = "" then return .ok () else makeDirectoriesOf (path :: Path.parents path)

end FileAccess
end LambdaStack

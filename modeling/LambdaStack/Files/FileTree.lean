import LambdaStack.Files.Access

/-!
# File trees

A finite map from places to files and directories, as a model of file access. A path is followed one
piece at a time from the root or the working directory, through directories that exist.
-/

namespace LambdaStack

/-- What stands at a place of a file tree. -/
inductive FileEntry where
  /-- A file that holds text. -/
  | text (content : String)
  /-- A file that does not hold text. -/
  | binary (content : List UInt8)
  /-- A directory. -/
  | directory
  deriving DecidableEq

/-- Files and directories by the names that lead to them from the root. -/
structure FileTree where
  /-- Entries by place; the root is a directory without an entry. -/
  entries : List (List String × FileEntry) := []
  /-- The working directory. -/
  workingDirectory : List String := []
  deriving DecidableEq

namespace FileTree

/-- The entry at a place. -/
def find? (tree : FileTree) (place : List String) : Option FileEntry :=
  if place = [] then some .directory else tree.entries.lookup place

/-- Replace or add an entry of a list. -/
def setEntry (place : List String) (entry : FileEntry) :
    List (List String × FileEntry) → List (List String × FileEntry)
  | [] => [(place, entry)]
  | (other, old) :: rest =>
    if other = place then (place, entry) :: rest else (other, old) :: setEntry place entry rest

/-- The tree with an entry at a place. -/
def set (tree : FileTree) (place : List String) (entry : FileEntry) : FileTree :=
  { tree with entries := setEntry place entry tree.entries }

/-- Greatest number of bytes of a name. -/
def nameLimit : Nat := 255

/-- Greatest number of bytes of a path. -/
def pathLimit : Nat := 4095

/-- Follow the pieces of a path from a place. -/
def follow (tree : FileTree) : List String → List String → Except FileError (List String)
  | place, [] => .ok place
  | place, piece :: rest =>
    match tree.find? place with
    | none => .error .notFound
    | some .directory =>
      if piece = "." then tree.follow place rest
      else if piece = ".." then tree.follow place.dropLast rest
      else if nameLimit < piece.utf8ByteSize then .error .nameTooLong
      else tree.follow (place ++ [piece]) rest
    | some _ => .error .notDirectory

/-- Pieces of a path that are followed; a separator at the end asks for a directory. -/
def steps (path : String) : List String :=
  let pieces := Path.pieces path
  pieces.filter (· ≠ "") ++ if pieces.getLast? = some "" then ["."] else []

/-- The place that a path names, whether or not there is an entry. -/
def resolve (tree : FileTree) (path : String) : Except FileError (List String) :=
  if path = "" then .error .notFound
  else if path.toList.contains '\x00' then .error .invalidPath
  else if pathLimit < path.utf8ByteSize then .error .nameTooLong
  else if Path.isAbsolute path then tree.follow [] (steps path)
  else tree.follow tree.workingDirectory (steps path)

/-- The entry that a path names. -/
def entryAt? (tree : FileTree) (path : String) : Option FileEntry :=
  match tree.resolve path with
  | .ok place => tree.find? place
  | .error _ => none

/-- The text of a file. -/
def readText (tree : FileTree) (path : String) : Except FileError String :=
  match tree.resolve path with
  | .error error => .error error
  | .ok place =>
    match tree.find? place with
    | some (.text content) => .ok content
    | some (.binary _) => .error .notText
    | some .directory => .error .isDirectory
    | none => .error .notFound

/-- The tree with a new directory. -/
def makeDirectory (tree : FileTree) (path : String) : Except FileError FileTree :=
  match tree.resolve path with
  | .error error => .error error
  | .ok place =>
    match tree.find? place with
    | some _ => .error .alreadyExists
    | none => .ok (tree.set place .directory)

/-- The tree with a text written to a file. -/
def writeText (tree : FileTree) (path content : String) : Except FileError FileTree :=
  match tree.resolve path with
  | .error error => .error error
  | .ok place =>
    match tree.find? place with
    | some .directory => .error .isDirectory
    | _ => .ok (tree.set place (.text content))

/-- Change the tree of a state unless the change fails. -/
def update (change : FileTree → Except FileError FileTree) :
    StateM FileTree (Except FileError Unit) := do
  match change (← get) with
  | .error error => return .error error
  | .ok tree =>
    StateT.set tree
    return .ok ()

instance : FileAccess (StateM FileTree) where
  readText path := do return (← get).readText path
  entryExists path := do return ((← get).entryAt? path).isSome
  directoryExists path := do return (← get).entryAt? path = some .directory
  makeDirectory path := update fun tree => tree.makeDirectory path
  writeText path content := update fun tree => tree.writeText path content

end FileTree
end LambdaStack

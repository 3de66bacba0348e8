import LambdaStack.Text.Segments

/-!
# Paths

Paths as texts, and the components that they name. Repeated separators and inner or trailing single
dots name nothing.
-/

namespace LambdaStack
namespace Path

/-- What one step of a path names. -/
inductive Component where
  /-- The root directory. -/
  | root
  /-- The working directory, named by a leading dot. -/
  | current
  /-- The parent directory. -/
  | parent
  /-- An entry of a directory. -/
  | entry (name : String)
  deriving DecidableEq

/-- The texts between the separators of a path. -/
def pieces (path : String) : List String :=
  (Text.segments '/' path.toList).map String.ofList

/-- A path that starts at the root. -/
def isAbsolute (path : String) : Bool :=
  path.toList.head? == some '/'

/-- A piece that names nothing unless it starts a path. -/
def isInert (piece : String) : Bool :=
  piece = "" || piece = "."

/-- What one piece of a path names, if anything. -/
def pieceComponent? (piece : String) : Option Component :=
  if isInert piece then none
  else if piece = ".." then some .parent
  else some (.entry piece)

/-- The components of a path. -/
def components (path : String) : List Component :=
  let start :=
    if isAbsolute path then [Component.root]
    else if (pieces path).head? = some "." then [Component.current]
    else []
  start ++ (pieces path).filterMap pieceComponent?

/-- The components of the parent of a path, which a root and an empty path do not have. -/
def parentComponents? (components : List Component) : Option (List Component) :=
  match components.getLast? with
  | none => none
  | some .root => none
  | some _ => some components.dropLast

/-- The name that a path ends with. -/
def lastName? (components : List Component) : Option String :=
  match components.getLast? with
  | some (.entry name) => some name
  | _ => none

/-- Name of the directory that holds the file of a path. -/
def directoryName? (path : String) : Option String :=
  (parentComponents? (components path)).bind lastName?

/-- The path of a first piece and the pieces after it. An empty first piece stands for the root. -/
def ofPieces (first : String) (rest : List String) : String :=
  if first = "" ∧ rest = [] then "/" else String.intercalate "/" (first :: rest)

/-- The parents of a path of a first piece and the pieces after it, which stand in reverse order. -/
def parentsOfPieces (first : String) : List String → List String
  | [] => []
  | piece :: before =>
    if isInert piece then parentsOfPieces first before
    else ofPieces first (before.dropWhile isInert).reverse :: parentsOfPieces first before

/-- The paths that a path leads through, the nearest first. Each is spelled as in the path, and it
ends with a piece that names something, or is the root or a leading dot. -/
def parents (path : String) : List String :=
  match pieces path with
  | [] => []
  | first :: rest => parentsOfPieces first rest.reverse

/-- A path followed by another, which is taken alone when it starts at the root. -/
def join (base path : String) : String :=
  if isAbsolute path then path
  else if base = "" then path
  else if base.toList.getLast? = some '/' then base ++ path
  else base ++ "/" ++ path

end Path
end LambdaStack

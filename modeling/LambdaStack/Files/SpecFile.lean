import LambdaStack.Files.Access
import LambdaStack.FunctionSpec.Decoding
import LambdaStack.Json.Reader

/-!
# Spec files

Function specs that are kept as JSON text in files.
-/

namespace LambdaStack
namespace FunctionSpec

/-- The spec of a text that stands in a file. -/
def ofText (path text : String) : Except Failure FunctionSpec :=
  match Json.read text with
  | .error error => .error (.unparsableFile path (error.message text))
  | .ok value => ofJson value

/-- The spec of a file. -/
def load {m : Type → Type} [Monad m] [FileAccess m] (path : String) :
    m (Except Failure FunctionSpec) := do
  match ← FileAccess.readText path with
  | .error error => return .error (.unreadableFile path error.message)
  | .ok text => return ofText path text

end FunctionSpec
end LambdaStack

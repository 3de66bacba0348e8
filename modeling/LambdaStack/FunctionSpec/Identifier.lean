/-!
# Identifiers

Logical identifiers of a document consist of ASCII letters and digits only.
-/

namespace LambdaStack

/-- A non-empty run of ASCII letters and digits. -/
def isAlphanumeric (name : String) : Bool :=
  !name.toList.isEmpty && name.toList.all Char.isAlphanum

end LambdaStack

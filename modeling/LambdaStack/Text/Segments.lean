/-!
# Segments

The stretches of a text between separators.
-/

namespace LambdaStack
namespace Text

/-- The stretches between separators, of which there is one more than there are separators. -/
def segments (separator : Char) : List Char → List (List Char)
  | [] => [[]]
  | c :: rest =>
    if c = separator then [] :: segments separator rest
    else
      match segments separator rest with
      | [] => [[c]]
      | segment :: more => (c :: segment) :: more

end Text
end LambdaStack

import LambdaStack.Text.CaseTable

/-!
# Letter case

Full case mapping of text. A character may map to several, and a capital sigma that ends a word
has a lower case of its own.
-/

namespace LambdaStack
namespace Text

/-- Membership of a character in one of several ranges of code points. -/
def inRanges (ranges : List (Nat × Nat)) (c : Char) : Bool :=
  ranges.any fun range => range.1 ≤ c.toNat && c.toNat ≤ range.2

/-- Image of one character under a case mapping. -/
def mapCase (expansions : List (Nat × List Nat)) (runs : List CaseRun) (c : Char) : List Char :=
  match expansions.lookup c.toNat with
  | some points => points.map Char.ofNat
  | none =>
    match runs.find? (·.contains c.toNat) with
    | some run => [Char.ofNat (c.toNat + run.shift).toNat]
    | none => [c]

/-- Full upper case of one character. -/
def upperChar (c : Char) : List Char :=
  mapCase upperExpansions upperRuns c

/-- Full lower case of one character, apart from its neighbours. -/
def lowerChar (c : Char) : List Char :=
  mapCase lowerExpansions lowerRuns c

/-- Full upper case of a text. -/
def toUpper (text : String) : String :=
  String.ofList (text.toList.flatMap upperChar)

/-- The text with its first character in upper case. -/
def capitalizeFirst (text : String) : String :=
  match text.toList with
  | [] => ""
  | c :: rest => String.ofList (upperChar c ++ rest)

/-- The first character that is not ignored has case. -/
def leadsToCased (chars : List Char) : Bool :=
  match chars.dropWhile (inRanges caseIgnorableRanges) with
  | [] => false
  | c :: _ => inRanges casedRanges c

/-- Lower case of a capital sigma between the reversed text before it and the text after it. -/
def lowerSigma (before after : List Char) : Char :=
  if leadsToCased before && !leadsToCased after then 'ς' else 'σ'

/-- Lower case of the remaining characters, given the reversed text before them. -/
def lowerFrom (before : List Char) : List Char → List Char
  | [] => []
  | c :: rest =>
    (if c = 'Σ' then [lowerSigma before rest] else lowerChar c) ++ lowerFrom (c :: before) rest

/-- Full lower case of a text. -/
def toLower (text : String) : String :=
  String.ofList (lowerFrom [] text.toList)

end Text
end LambdaStack

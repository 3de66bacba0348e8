/-!
# Outcomes

What a command leaves behind besides files: an exit code, the text that it outputs, and notes for
the user, some of which tell how long it took.
-/

namespace LambdaStack
namespace Console

/-- A line for the user. -/
inductive Note where
  /-- A line that is known beforehand. -/
  | line (text : String)
  /-- A line that ends with the time taken. -/
  | timed (text : String)
  deriving DecidableEq

/-- A note, given the number of milliseconds taken. -/
def Note.text (milliseconds : String) : Note → String
  | line text => text
  | timed text => text ++ " in " ++ milliseconds ++ "ms"

/-- What a command leaves behind. -/
structure Outcome where
  /-- Zero if the command succeeded. -/
  exitCode : Nat := 0
  /-- The text that is output. -/
  output : String := ""
  /-- Lines for the user. -/
  notes : List Note := []
  deriving DecidableEq

namespace Outcome

/-- A command that failed. -/
def failure (message : String) : Outcome :=
  { exitCode := 1, notes := [.line ("  ◆ " ++ message)] }

/-- A command line that has no meaning. -/
def usage (message : String) : Outcome :=
  { exitCode := 2, notes := [.line ("error: " ++ message)] }

end Outcome

/-- The line of a success. -/
def successLine (text : String) : String := "  ◉ " ++ text

/-- The line of a piece of information. -/
def infoLine (text : String) : String := "  ◇ " ++ text

/-- The line of an item of a tree. -/
def treeLine (name description : String) (last : Bool) : String :=
  "    " ++ (if last then "╰──" else "├──") ++ "  " ++ name ++ "   " ++ description

end Console
end LambdaStack

/-!
# Arguments

The grammar of the command line: a command, its options in any order, and one operand. An option is
given once at most, and what follows a double dash is an operand whatever it looks like.
-/

namespace LambdaStack
namespace Console

/-- An option of a command. -/
structure OptionRule where
  /-- Name after two dashes. -/
  long : String
  /-- Letter after one dash, if there is one. -/
  short : Option Char := none
  /-- The option has a value. -/
  hasValue : Bool := false
  deriving DecidableEq

/-- What is wrong with a command line. -/
inductive UsageError where
  /-- No command is given. -/
  | missingCommand
  /-- There is no such command. -/
  | unknownCommand (name : String)
  /-- An argument has no meaning here. -/
  | unexpected (argument : String)
  /-- An option lacks its value, or its value is empty. -/
  | missingValue (option : String)
  /-- An option is given twice. -/
  | repeated (option : String)
  /-- The operand is missing. -/
  | missingOperand (name : String)
  deriving DecidableEq

/-- Wording of an error. -/
def UsageError.message : UsageError → String
  | missingCommand => "a command is required: build, check, init or watch"
  | unknownCommand name => "unrecognized command '" ++ name ++ "'"
  | unexpected argument => "unexpected argument '" ++ argument ++ "' found"
  | missingValue option => "a value is required for '--" ++ option ++ "' but none was supplied"
  | repeated option => "the argument '--" ++ option ++ "' cannot be used multiple times"
  | missingOperand name => "the required argument <" ++ name ++ "> was not provided"

/-- Options and operands that have been read. -/
structure Scanned where
  /-- Names of the options given without a value. -/
  flags : List String := []
  /-- Names and values of the other options. -/
  values : List (String × String) := []
  /-- Operands in order. -/
  operands : List String := []
  deriving DecidableEq

namespace Scanned

/-- Note an option without a value. -/
def addFlag (scanned : Scanned) (name : String) : Except UsageError Scanned :=
  if scanned.flags.contains name then .error (.repeated name)
  else .ok { scanned with flags := scanned.flags ++ [name] }

/-- Note the value of an option. -/
def addValue (scanned : Scanned) (name value : String) : Except UsageError Scanned :=
  if value = "" then .error (.missingValue name)
  else if (scanned.values.lookup name).isSome then .error (.repeated name)
  else .ok { scanned with values := scanned.values ++ [(name, value)] }

end Scanned

/-- An argument that stands for an option rather than an operand. -/
def looksLikeOption (argument : String) : Bool :=
  match argument.toList with
  | '-' :: _ :: _ => true
  | _ => false

/-- Read an option by its name. The option whose value is the next argument is returned. -/
def scanLong (rules : List OptionRule) (scanned : Scanned) (body : List Char) :
    Except UsageError (Scanned × Option OptionRule) :=
  let name := String.ofList (body.takeWhile (· ≠ '='))
  let value : Option String :=
    match body.dropWhile (· ≠ '=') with
    | [] => none
    | _ :: value => some (String.ofList value)
  match rules.find? (·.long = name), value with
  | none, _ => .error (.unexpected ("--" ++ name))
  | some rule, none =>
    if rule.hasValue then .ok (scanned, some rule)
    else (scanned.addFlag rule.long).map fun scanned => (scanned, none)
  | some rule, some value =>
    if rule.hasValue then (scanned.addValue rule.long value).map fun scanned => (scanned, none)
    else .error (.unexpected value)

/-- Read options by their letters. An option with a value takes the rest of the argument, or the
next one, in which case it is returned. -/
def scanShort (rules : List OptionRule) :
    Scanned → List Char → Except UsageError (Scanned × Option OptionRule)
  | scanned, [] => .ok (scanned, none)
  | scanned, letter :: rest =>
    match rules.find? (·.short = some letter) with
    | none => .error (.unexpected ("-" ++ String.singleton letter))
    | some rule =>
      if rule.hasValue then
        match rest with
        | [] => .ok (scanned, some rule)
        | '=' :: value =>
          (scanned.addValue rule.long (String.ofList value)).map fun scanned => (scanned, none)
        | value =>
          (scanned.addValue rule.long (String.ofList value)).map fun scanned => (scanned, none)
      else
        match scanned.addFlag rule.long with
        | .error error => .error error
        | .ok scanned => scanShort rules scanned rest

/-- Read the arguments of a command, the first of which is the value of a pending option. -/
def scan (rules : List OptionRule) :
    Option OptionRule → Scanned → List String → Except UsageError Scanned
  | none, scanned, [] => .ok scanned
  | some rule, _, [] => .error (.missingValue rule.long)
  | some rule, scanned, value :: rest =>
    if looksLikeOption value then .error (.missingValue rule.long)
    else
      match scanned.addValue rule.long value with
      | .error error => .error error
      | .ok scanned => scan rules none scanned rest
  | none, scanned, argument :: rest =>
    match argument.toList with
    | ['-', '-'] => .ok { scanned with operands := scanned.operands ++ rest }
    | '-' :: '-' :: body =>
      match scanLong rules scanned body with
      | .error error => .error error
      | .ok (scanned, pending) => scan rules pending scanned rest
    | '-' :: letter :: more =>
      match scanShort rules scanned (letter :: more) with
      | .error error => .error error
      | .ok (scanned, pending) => scan rules pending scanned rest
    | _ => scan rules none { scanned with operands := scanned.operands ++ [argument] } rest

/-- A command with its arguments. -/
inductive Command where
  /-- Write the template of a spec file. -/
  | build (spec : String) (output : Option String) (embed deterministic : Bool)
  /-- Compile a spec file without writing anything. -/
  | check (spec : String)
  /-- Make the directory of a function. -/
  | init (name base : String)
  /-- Compile a spec file whenever it changes. -/
  | watch (spec : String) (output : Option String) (embed : Bool)
  deriving DecidableEq

namespace Command

/-- More is told about what happens. -/
def verboseRule : OptionRule := { long := "verbose", short := some 'v' }

/-- The template goes to a file. -/
def outputRule : OptionRule := { long := "output", short := some 'o', hasValue := true }

/-- Only the body of the template is written. -/
def embedRule : OptionRule := { long := "embed" }

/-- Deployments have no suffix. -/
def deterministicRule : OptionRule := { long := "deterministic" }

/-- The directory in which a function is made. -/
def pathRule : OptionRule := { long := "path", short := some 'p', hasValue := true }

/-- The single operand of a command. -/
def operand (name : String) (scanned : Scanned) : Except UsageError String :=
  match scanned.operands with
  | [] => .error (.missingOperand name)
  | [operand] => .ok operand
  | _ :: extra :: _ => .error (.unexpected extra)

/-- The single operand of a command that is a path, which cannot be empty. -/
def pathOperand (name : String) (scanned : Scanned) : Except UsageError String :=
  match operand name scanned with
  | .error error => .error error
  | .ok path => if path = "" then .error (.missingOperand name) else .ok path

/-- The command of a name and its arguments. -/
def read (name : String) (arguments : List String) : Except UsageError Command :=
  match name with
  | "build" => do
    let scanned ← scan [verboseRule, outputRule, embedRule, deterministicRule] none {} arguments
    let spec ← pathOperand "SPEC" scanned
    return build spec (scanned.values.lookup "output") (scanned.flags.contains "embed")
      (scanned.flags.contains "deterministic")
  | "check" => do
    let scanned ← scan [verboseRule] none {} arguments
    return check (← pathOperand "SPEC" scanned)
  | "init" => do
    let scanned ← scan [verboseRule, pathRule] none {} arguments
    return init (← operand "NAME" scanned) ((scanned.values.lookup "path").getD ".")
  | "watch" => do
    let scanned ← scan [verboseRule, outputRule, embedRule] none {} arguments
    let spec ← pathOperand "SPEC" scanned
    return watch spec (scanned.values.lookup "output") (scanned.flags.contains "embed")
  | name => .error (.unknownCommand name)

/-- The command of a command line, whose first options may precede it. -/
def ofArguments : Scanned → List String → Except UsageError Command
  | _, [] => .error .missingCommand
  | scanned, argument :: rest =>
    match argument.toList with
    | ['-', '-'] => .error .missingCommand
    | '-' :: '-' :: body =>
      match scanLong [verboseRule] scanned body with
      | .error error => .error error
      | .ok (scanned, _) => ofArguments scanned rest
    | '-' :: letter :: more =>
      match scanShort [verboseRule] scanned (letter :: more) with
      | .error error => .error error
      | .ok (scanned, _) => ofArguments scanned rest
    | _ => read argument rest

end Command
end Console
end LambdaStack

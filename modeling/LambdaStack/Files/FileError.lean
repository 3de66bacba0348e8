/-!
# File errors

Why an access to a file fails.
-/

namespace LambdaStack

/-- A reason for which an access to a file fails. -/
inductive FileError where
  /-- There is no such entry. -/
  | notFound
  /-- There is an entry already. -/
  | alreadyExists
  /-- The entry is a directory. -/
  | isDirectory
  /-- An entry on the way is no directory. -/
  | notDirectory
  /-- A name, or the whole path, is longer than files can be called. -/
  | nameTooLong
  /-- The content is not text. -/
  | notText
  /-- The path holds a character that no path can hold. -/
  | invalidPath
  /-- Any other reason. -/
  | other (reason : String)
  deriving DecidableEq

/-- Wording of a reason. -/
def FileError.message : FileError → String
  | notFound => "No such file or directory (os error 2)"
  | alreadyExists => "File exists (os error 17)"
  | isDirectory => "Is a directory (os error 21)"
  | notDirectory => "Not a directory (os error 20)"
  | nameTooLong => "File name too long (os error 36)"
  | notText => "stream did not contain valid UTF-8"
  | invalidPath => "file name contained an unexpected NUL byte"
  | other reason => reason

end LambdaStack

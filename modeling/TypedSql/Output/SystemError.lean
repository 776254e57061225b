/-!
The ways in which an operation on files fails, with the numbers and texts of the operating system.
-/

namespace TypedSql

inductive SystemError where
  | notFound
  | alreadyExists
  | notDirectory
  | isDirectory
  | nameTooLong
  -- The name has a NUL character, so the operating system is not even asked.
  | nulInName
  | other (text : String)
deriving DecidableEq

def SystemError.message : SystemError → String
  | .notFound => "No such file or directory (os error 2)"
  | .alreadyExists => "File exists (os error 17)"
  | .notDirectory => "Not a directory (os error 20)"
  | .isDirectory => "Is a directory (os error 21)"
  | .nameTooLong => "File name too long (os error 36)"
  | .nulInName => "file name contained an unexpected NUL byte"
  | .other text => text

end TypedSql

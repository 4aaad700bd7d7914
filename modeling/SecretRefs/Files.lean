import SecretRefs.Error

/-! Files as the program sees them: what reading a path gives, and the directory it works in. -/

namespace SecretRefs

/-- Why a path cannot be read as a text. -/
inductive ReadFault
  | notFound
  | notADirectory
  | nameTooLong
  /-- The path holds a NUL character. -/
  | nulInName
  | isADirectory
  /-- The bytes are not UTF-8. -/
  | notText
  /-- The system refuses, with its own words. -/
  | refused (reason : String)
  deriving DecidableEq, Repr

namespace ReadFault

def reason : ReadFault → String
  | notFound => "No such file or directory (os error 2)"
  | notADirectory => "Not a directory (os error 20)"
  | nameTooLong => "File name too long (os error 36)"
  | nulInName => "file name contained an unexpected NUL byte"
  | isADirectory => "Is a directory (os error 21)"
  | notText => "stream did not contain valid UTF-8"
  | refused reason => reason

/-- Whether there is something at the path all the same. -/
def isThere : ReadFault → Bool
  | isADirectory | notText | refused _ => true
  | notFound | notADirectory | nameTooLong | nulInName => false

end ReadFault

/-- A missing file is an error of its own, which names the path. -/
def Error.ofRead (path : String) : ReadFault → Error
  | .notFound => .fileNotFound path
  | fault => .io fault.reason

/-- The names that lead from the top directory to a place. -/
abbrev Place := List String

structure Files where
  /-- How the top directory is written; nothing for the root. -/
  top : String
  /-- The working directory. -/
  workingDirectory : Place
  /-- The text at a path as the user writes it. -/
  read : String → Except ReadFault String
  /-- The text at a place below the top directory. -/
  readAt : Place → Except ReadFault String

/-- The path of a place. -/
def Files.pathOf (files : Files) (place : Place) : String :=
  place.foldl (fun path name => path ++ "/" ++ name) files.top

end SecretRefs

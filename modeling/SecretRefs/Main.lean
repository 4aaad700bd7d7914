import SecretRefs.Command.Run
import SecretRefs.FileTree

/-! The command line program. All files that the arguments lead to are read first, and the run itself is
the function `Command.run` on what was read. -/

open SecretRefs

/-- The number of an error of the system, which may come negated. -/
def systemCode (code : UInt32) : Nat :=
  if code.toNat < 0x80000000 then code.toNat else 0x100000000 - code.toNat

/-- The fault behind an error of the system. -/
def faultOf : IO.Error → ReadFault
  | .noFileOrDirectory .. => .notFound
  | .inappropriateType _ code _ => if systemCode code = 21 then .isADirectory else .notADirectory
  | .invalidArgument _ code details =>
    match systemCode code with
    | 36 => .nameTooLong
    | 22 => .nulInName
    | _ => .refused details
  | .permissionDenied _ code details =>
    if systemCode code = 13 then .refused "Permission denied (os error 13)" else .refused details
  | error => .refused (toString error)

def readText (path : String) : IO (Except ReadFault String) := do
  try
    let bytes ← IO.FS.readBinFile path
    match String.fromUTF8? bytes with
    | some text => return .ok text
    | none => return .error .notText
  catch error => return .error (faultOf error)

/-- Reads what may be a configuration file. It is there if the system shows it, so one behind a directory that may not
be searched is not, and one that may not be read is. -/
def readCandidate (path : String) : IO (Except ReadFault String) := do
  let directory ← IO.currentDir
  if ← (directory / path).pathExists then readText path else return .error .notFound

/-- Reads some files, and the configuration files around a working directory. -/
def gather (workingDirectory : Place) (paths : List String) : IO Files := do
  let top : Files :=
    { top := "", workingDirectory, read := fun _ => .error .notFound, readAt := fun _ => .error .notFound }
  let named ← paths.mapM fun path => return (path, ← readText path)
  let candidates ← ((Config.candidates workingDirectory).map top.pathOf).mapM fun path =>
    return (path, ← readCandidate path)
  let read (path : String) := (named.lookup path).getD (.error .notFound)
  let readAt (place : Place) := (candidates.lookup (top.pathOf place)).getD (.error .notFound)
  return { top with read, readAt }

/-- The paths that the arguments name. -/
def namedPaths (arguments : List String) : List String :=
  match Command.Invocation.ofArguments arguments with
  | .ok invocation => invocation.config.toList ++ invocation.task.paths
  | .error _ => []

def main (arguments : List String) : IO UInt32 := do
  let directory ← IO.currentDir
  let workingDirectory := (FileTree.splitPath directory.toString).filter (· ≠ "")
  let files ← gather workingDirectory (namedPaths arguments)
  let override ← IO.getEnv namespaceVariable
  let outcome := Command.run files override arguments
  for diagnostic in outcome.diagnostics do
    match diagnostic with
    | .record event => IO.eprintln event.line
    | .notice text => IO.eprintln text
  IO.print outcome.output
  return outcome.exitCode.toUInt32

import SecretRefs.Command.Arguments
import SecretRefs.Error
import SecretRefs.Event

/-! Transcripts of commands. A command prints results for standard output; log records and notices to the
user go to standard error. The transcript holds them all in order, and how much of it is shown depends on
the verbosity alone. Results are always shown. -/

namespace SecretRefs.Command

inductive Item
  /-- A line of the result. -/
  | result (text : String)
  | record (event : Event)
  | success (text : String)
  | warning (text : String)
  | info (text : String)
  | heading (text : String)
  | entry (name value : String)
  deriving DecidableEq, Repr

/-- What appears on standard error. -/
inductive Diagnostic
  | record (event : Event)
  | notice (text : String)
  deriving DecidableEq, Repr

namespace Item

def result? : Item → Option String
  | result text => some text
  | _ => none

def diagnostic? : Item → Option Diagnostic
  | result _ => none
  | record event => some (.record event)
  | success text => some (.notice ("✓ " ++ text))
  | warning text => some (.notice ("⚠ " ++ text))
  | info text => some (.notice ("ℹ " ++ text))
  | heading text => some (.notice ("\n" ++ text))
  | entry name value => some (.notice s!"  {name}: {value}")

end Item

/-- Debug records are shown on demand. Quietness leaves results and warnings. -/
def Verbosity.shows (v : Verbosity) : Item → Bool
  | .result _ | .warning _ => true
  | .record event => !v.quiet && (event.level != .debug || 0 < v.detail)
  | .success _ | .info _ | .heading _ | .entry .. => !v.quiet

/-- Why a command has failed: what it was about to do, and the messages of the error behind it. -/
structure Failure where
  context : String
  causes : List String := []
  deriving DecidableEq, Repr

namespace Failure

/-- A cause with all of its lines indented, behind its number if there are several. -/
def causeText (number : Option Nat) (cause : String) : String :=
  let (first, next) :=
    match number with
    | some n => (s!"    {n}: ", "       ")
    | none => ("    ", "    ")
  first ++ String.intercalate ("\n" ++ next) ((Text.splitLines cause.toList).map String.ofList)

def causeTexts : List String → List String
  | [cause] => [causeText none cause]
  | causes => causes.zipIdx.map fun (cause, n) => causeText (some n) cause

def text (f : Failure) : String :=
  let causes := if f.causes.isEmpty then [] else "" :: "Caused by:" :: causeTexts f.causes
  String.intercalate "\n" (("Error: " ++ f.context) :: causes)

end Failure

/-- Work that writes a transcript and may fail. -/
abbrev CommandM := ExceptT Failure (StateM (List Item))

def write (items : List Item) : CommandM Unit := modify (· ++ items)

/-- Does logged work; its records come into the transcript. -/
def attend {α : Type} (work : Logged α) : CommandM α := do
  write (work.events.map .record)
  return work.value

/-- Does work that may fail. -/
def attempt {α : Type} (context : String) (work : Logged (Except Error α)) : CommandM α := do
  match ← attend work with
  | .ok value => return value
  | .error error => throw { context, causes := error.chain }

/-- What a run of the program leaves behind. -/
structure Outcome where
  exitCode : Nat := 0
  /-- The text on standard output. -/
  output : String := ""
  diagnostics : List Diagnostic := []
  deriving DecidableEq, Repr

namespace Outcome

/-- The text of some lines. -/
def textOf (lines : List String) : String := String.join (lines.map (· ++ "\n"))

/-- The outcome of a command. The message about a failure comes last, and nothing silences it. -/
def ofCommand (verbosity : Verbosity) (work : CommandM Unit) : Outcome :=
  let (result, items) := work.run.run []
  let shown := items.filter verbosity.shows
  let output := textOf (shown.filterMap Item.result?)
  let diagnostics := shown.filterMap Item.diagnostic?
  match result with
  | .ok () => { output, diagnostics }
  | .error failure => { exitCode := 1, output, diagnostics := diagnostics ++ [.notice failure.text] }

end Outcome

end SecretRefs.Command

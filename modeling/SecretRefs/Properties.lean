import SecretRefs.Dict
import SecretRefs.Event
import SecretRefs.Text.Blank

/-! Properties, one `KEY=VALUE` per line. Blank lines and lines that begin with `#` hold nothing. Key
and value are trimmed, and one pair of equal quotes around a value is removed. A line without `=`, or
with nothing before it, is passed over with a record. Output escapes a backslash and the characters that
would break a line, so that an entry stays on one line and the text can be read back. -/

namespace SecretRefs.Properties

open Text (trimChars splitLines)

/-- What one line holds. -/
inductive Line
  | nothing
  | entry (key value : String)
  | emptyKey
  | malformed
  deriving DecidableEq, Repr

/-- Removes one pair of equal quotes that stand at the two ends. -/
def unquote (cs : List Char) : List Char :=
  match cs with
  | q :: rest =>
    if (q = '"' ∨ q = '\'') ∧ rest.getLast? = some q then rest.dropLast else cs
  | [] => []

/-- The texts before and after the first equals sign. -/
def splitAtEquals : List Char → Option (List Char × List Char)
  | [] => none
  | c :: cs =>
    if c = '=' then some ([], cs)
    else (splitAtEquals cs).map fun (before, after) => (c :: before, after)

def Line.ofChars (cs : List Char) : Line :=
  let line := trimChars cs
  match line with
  | [] => nothing
  | c :: _ =>
    if c = '#' then nothing
    else
      match splitAtEquals line with
      | none => malformed
      | some (before, after) =>
        let key := trimChars before
        if key.isEmpty then emptyKey
        else entry (String.ofList key) (String.ofList (unquote (trimChars after)))

def Line.entry? : Line → Option (String × String)
  | entry key value => some (key, value)
  | _ => none

/-- The record of a line that is passed over; lines are numbered from one. -/
def Line.event? (number : Nat) : Line → Option Event
  | emptyKey => some { level := .debug, message := s!"Skipping line {number} with empty key" }
  | malformed => some { level := .debug, message := s!"Skipping malformed line {number}" }
  | _ => none

def lines (content : String) : List Line := (splitLines content.toList).map Line.ofChars

/-- The entries of a content, where a later one replaces an earlier one of the same key. -/
def mapping (content : String) : Dict String String :=
  .ofList ((lines content).filterMap Line.entry?)

/-- Reads a content and logs the lines that it passes over. -/
def parse (content : String) : Logged (Dict String String) where
  events := ((lines content).zipIdx 1).filterMap fun (line, number) => line.event? number
  value := mapping content

/-! ### Output -/

def escapeChar (c : Char) : List Char :=
  if c = '\\' then ['\\', '\\']
  else if c = '\n' then ['\\', 'n']
  else if c = '\r' then ['\\', 'r']
  else if c = '\t' then ['\\', 't']
  else [c]

def escape (text : String) : String := String.ofList (text.toList.flatMap escapeChar)

end SecretRefs.Properties

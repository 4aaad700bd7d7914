import SecretRefs.Fault
import SecretRefs.Yaml.Cursor

/-! The texts of YAML scalars: plain, quoted and block scalars. Reading a scalar folds its line
breaks, resolves its escapes and returns its text with the place behind it. -/

namespace SecretRefs.Yaml

inductive ScalarStyle
  | plain
  | singleQuoted
  | doubleQuoted
  | literal
  | folded
  deriving DecidableEq, Repr

/-- What has been passed over since the last character of a scalar. -/
structure Gap where
  /-- Spaces and tabs before the first break. -/
  blanks : List Char := []
  /-- Whether there was a break. -/
  broken : Bool := false
  /-- The first break, unless it was escaped. -/
  first : Option Char := none
  /-- The further breaks. -/
  further : List Char := []

namespace Gap

def isEmpty (g : Gap) : Bool := g.blanks.isEmpty && !g.broken

/-- What stands for the gap in the text of the scalar: a single line feed folds to a space, and of
several the first is dropped. -/
def text (g : Gap) : List Char :=
  if !g.broken then g.blanks
  else if g.first = some '\n' then if g.further.isEmpty then [' '] else g.further
  else g.first.toList ++ g.further

end Gap

/-- Passes over spaces, tabs and breaks. On a line of its own a tab before the given column is a
fault. -/
def readGap (tabColumn : Int) : (bound : Nat) → Gap → Cursor → Except Fault (Gap × Cursor)
  | 0, gap, c => .ok (gap, c)
  | bound + 1, gap, c =>
    match c.rest with
    | d :: _ =>
      if isSpaceOrTab d then
        if gap.broken then
          if (c.column : Int) < tabColumn ∧ d = '\t' then .error .malformed
          else readGap tabColumn bound gap (c.skip 1)
        else readGap tabColumn bound { gap with blanks := gap.blanks ++ [d] } (c.skip 1)
      else
        match c.lineBreak? with
        | some (b, next) =>
          if gap.broken then readGap tabColumn bound { gap with further := gap.further ++ [b] } next
          else readGap tabColumn bound { blanks := [], broken := true, first := some b } next
        | none => .ok (gap, c)
    | [] => .ok (gap, c)

/-! ### Plain scalars -/

def isFlowIndicator (c : Char) : Bool :=
  c == ',' || c == '[' || c == ']' || c == '{' || c == '}'

/-- The characters of a plain scalar up to a blank or an indicator that ends it. In a flow collection
a colon must not stand right before an indicator. -/
def plainRun (inFlow : Bool) : List Char → Except Fault (List Char)
  | [] => .ok []
  | c :: cs =>
    if isSpaceOrTab c || isBreak c then .ok []
    else if inFlow && c == ':' && cs.head?.any (fun d => isFlowIndicator d || d == '?') then
      .error .malformed
    else if (c == ':' && startsBlank cs) || (inFlow && isFlowIndicator c) then .ok []
    else
      match plainRun inFlow cs with
      | .ok run => .ok (c :: run)
      | .error fault => .error fault

/-- Reads a plain scalar, whose further lines must be indented at least to the given column unless it
stands in a flow collection. Returns also whether a break was the last thing passed over. -/
def readPlain (inFlow : Bool) (indent : Int) : (bound : Nat) → (text : List Char) → Gap → Cursor →
    Except Fault (List Char × Bool × Cursor)
  | 0, text, gap, c => .ok (text, gap.broken, c)
  | bound + 1, text, gap, c =>
    if c.atDocumentMark || c.rest.head? == some '#' then .ok (text, gap.broken, c)
    else
      match plainRun inFlow c.rest with
      | .error fault => .error fault
      | .ok run =>
        let text := if run.isEmpty then text else text ++ gap.text ++ run
        let gap := if run.isEmpty then gap else {}
        let c := c.skip run.length
        if c.atEnd || !startsBlank c.rest then .ok (text, gap.broken, c)
        else
          match readGap indent (c.rest.length + 1) gap c with
          | .error fault => .error fault
          | .ok (gap, c) =>
            if !inFlow && (c.column : Int) < indent then .ok (text, gap.broken, c)
            else readPlain inFlow indent bound text gap c

/-! ### Quoted scalars -/

def hexDigit? (c : Char) : Option Nat :=
  if '0' ≤ c ∧ c ≤ '9' then some (c.toNat - 48)
  else if 'a' ≤ c ∧ c ≤ 'f' then some (c.toNat - 87)
  else if 'A' ≤ c ∧ c ≤ 'F' then some (c.toNat - 55)
  else none

/-- The number that a given count of hexadecimal digits in front writes. -/
def hexNumber? (count : Nat) (cs : List Char) : Option Nat :=
  if (cs.take count).length < count then none
  else (cs.take count).foldl (fun n c => return 16 * (← n) + (← hexDigit? c)) (some 0)

/-- The character for an escape of one letter. -/
def shortEscape? : Char → Option Char
  | '0' => some '\x00'
  | 'a' => some '\x07'
  | 'b' => some '\x08'
  | 't' => some '\t'
  | '\t' => some '\t'
  | 'n' => some '\n'
  | 'v' => some '\x0b'
  | 'f' => some '\x0c'
  | 'r' => some '\r'
  | 'e' => some '\x1b'
  | ' ' => some ' '
  | '"' => some '"'
  | '/' => some '/'
  | '\\' => some '\\'
  | 'N' => some '\u0085'
  | '_' => some '\u00a0'
  | 'L' => some '\u2028'
  | 'P' => some '\u2029'
  | _ => none

/-- The number of digits that follow an escape by number. -/
def escapeDigits? : Char → Option Nat
  | 'x' => some 2
  | 'u' => some 4
  | 'U' => some 8
  | _ => none

/-- The character of an escape behind its backslash, and the characters that it takes up there. -/
def readEscape (cs : List Char) : Except Fault (Char × Nat) :=
  match cs with
  | [] => .error .malformed
  | c :: rest =>
    match shortEscape? c with
    | some d => .ok (d, 1)
    | none =>
      match escapeDigits? c with
      | none => .error .malformed
      | some count =>
        match hexNumber? count rest with
        | none => .error .malformed
        | some n => if n.isValidChar then .ok (Char.ofNat n, count + 1) else .error .malformed

/-- What ends a run of characters in a quoted scalar. -/
inductive RunEnd
  | closingQuote
  | blank
  /-- A backslash at the end of a line, which joins it to the next one. -/
  | escapedBreak

/-- Reads the characters of a quoted scalar up to a blank or the closing quote. -/
def quotedRun (single : Bool) : (bound : Nat) → (run : List Char) → Cursor →
    Except Fault (List Char × RunEnd × Cursor)
  | 0, _, _ => .error .malformed
  | bound + 1, run, c =>
    match c.rest with
    | [] => .ok (run.reverse, .blank, c)
    | d :: rest =>
      if isSpaceOrTab d || isBreak d then .ok (run.reverse, .blank, c)
      else if single then
        if d = '\'' then
          if rest.head? = some '\'' then quotedRun single bound ('\'' :: run) (c.skip 2)
          else .ok (run.reverse, .closingQuote, c)
        else quotedRun single bound (d :: run) (c.skip 1)
      else if d = '"' then .ok (run.reverse, .closingQuote, c)
      else if d = '\\' then
        match (c.skip 1).lineBreak? with
        | some (_, next) => .ok (run.reverse, .escapedBreak, next)
        | none =>
          match readEscape rest with
          | .error fault => .error fault
          | .ok (e, width) => quotedRun single bound (e :: run) (c.skip (width + 1))
      else quotedRun single bound (d :: run) (c.skip 1)

/-- Reads a quoted scalar behind its opening quote. -/
def readQuoted (single : Bool) : (bound : Nat) → (text : List Char) → Cursor →
    Except Fault (List Char × Cursor)
  | 0, _, _ => .error .malformed
  | bound + 1, text, c =>
    if c.atDocumentMark || c.atEnd then .error .malformed
    else
      match quotedRun single (c.rest.length + 1) [] c with
      | .error fault => .error fault
      | .ok (run, .closingQuote, c) => .ok (text ++ run, c.skip 1)
      | .ok (run, stop, c) =>
        let gap : Gap :=
          match stop with
          | .escapedBreak => { broken := true }
          | _ => {}
        -- A double quote right behind an escaped break closes the scalar.
        if c.rest.head? = some (if single then '\'' else '"') then .ok (text ++ run, c.skip 1)
        else
          match readGap (-1) (c.rest.length + 1) gap c with
          | .error fault => .error fault
          | .ok (gap, c) => readQuoted single bound (text ++ run ++ gap.text) c

/-! ### Block scalars -/

/-- What happens to the breaks at the end of a block scalar. -/
inductive Chomping
  | strip
  | clip
  | keep
  deriving DecidableEq, Repr

/-- The header of a block scalar behind its indicator: how it is chomped, and how far it is indented,
if that is given. -/
def readBlockHeader (cs : List Char) : Except Fault (Chomping × Option Nat × Nat) :=
  let chomping? : Option Char → Option Chomping
    | some '+' => some .keep
    | some '-' => some .strip
    | _ => none
  let digit? : Option Char → Option Nat
    | some d => if d.isDigit then some (d.toNat - 48) else none
    | none => none
  let checked (chomping : Chomping) (indent : Nat) (width : Nat) :
      Except Fault (Chomping × Option Nat × Nat) :=
    if indent = 0 then .error .malformed else .ok (chomping, some indent, width)
  match chomping? cs.head? with
  | some chomping =>
    match digit? (cs.drop 1).head? with
    | some indent => checked chomping indent 2
    | none => .ok (chomping, none, 1)
  | none =>
    match digit? cs.head? with
    | some indent =>
      match chomping? (cs.drop 1).head? with
      | some chomping => checked chomping indent 2
      | none => checked .clip indent 1
    | none => .ok (.clip, none, 0)

/-- Passes over the empty lines and the indentation before a line of a block scalar, and returns the
breaks and the greatest column met. Where the indentation is not known yet all spaces belong to it; a
tab in it is a fault. -/
def readBlockGap (indent : Option Nat) : (bound : Nat) → (breaks : List Char) → (widest : Nat) →
    Cursor → Except Fault (List Char × Nat × Cursor)
  | 0, breaks, widest, c => .ok (breaks, widest, c)
  | bound + 1, breaks, widest, c =>
    let spaces := (c.rest.takeWhile (· == ' ')).length
    let c :=
      match indent with
      | some indent => c.skip (min spaces (indent - c.column))
      | none => c.skip spaces
    let widest := max widest c.column
    let before :=
      match indent with
      | some indent => decide (c.column < indent)
      | none => true
    if before && c.rest.head? == some '\t' then .error .malformed
    else
      match c.lineBreak? with
      | some (b, next) => readBlockGap indent bound (breaks ++ [b]) widest next
      | none => .ok (breaks, widest, c)

/-- Reads the lines of a block scalar that are indented to the given column. The text comes with its last
character first. `leading` is the break behind the line before, `further` are the breaks of the empty
lines after it, and `spaced` tells whether the line before began with a blank. -/
def readBlockLines (literal : Bool) (indent : Nat) : (bound : Nat) → (text : List Char) →
    (leading further : List Char) → (spaced : Bool) → Cursor →
    Except Fault (List Char × List Char × List Char × Cursor)
  | 0, text, leading, further, _, c => .ok (text, leading, further, c)
  | bound + 1, text, leading, further, spaced, c =>
    if c.column ≠ indent ∨ c.atEnd then .ok (text, leading, further, c)
    else
      let indented := c.rest.head?.any isSpaceOrTab
      let folds := !literal && leading.head? == some '\n' && !spaced && !indented
      let joint := if folds then if further.isEmpty then [' '] else [] else leading
      let (line, next) := c.takeWhile fun d => !isBreak d
      let text := (joint ++ further ++ line).reverse ++ text
      let (leading, next) :=
        match next.lineBreak? with
        | some (b, next) => ([b], next)
        | none => ([], next)
      match readBlockGap (some indent) bound [] 0 next with
      | .error fault => .error fault
      | .ok (further, _, next) =>
        readBlockLines literal indent bound text leading further indented next

/-- Reads a block scalar behind its indicator; `parent` is the column of the collection around it, or
-1. -/
def readBlock (literal : Bool) (parent : Int) (c : Cursor) : Except Fault (List Char × Cursor) := do
  let (chomping, increment, width) ← readBlockHeader c.rest
  let c := (((c.skip width).skipWhile isSpaceOrTab).skipComment)
  if !startsBreak c.rest then .error .malformed
  let c := (c.lineBreak?.map (·.2)).getD c
  let known : Option Nat := increment.map fun n => if 0 ≤ parent then parent.toNat + n else n
  let (further, widest, c) ← readBlockGap known (c.rest.length + 1) [] 0 c
  let indent : Nat := known.getD (max (max widest (parent + 1).toNat) 1)
  let (text, leading, further, c) ←
    readBlockLines literal indent (c.rest.length + 1) [] [] further false c
  let text := text.reverse
  match chomping with
  | .strip => .ok (text, c)
  | .clip => .ok (text ++ leading, c)
  | .keep => .ok (text ++ leading ++ further, c)

end SecretRefs.Yaml

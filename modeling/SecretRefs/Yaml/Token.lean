import SecretRefs.Yaml.Tag

/-! The tokens of a YAML text. Indentation and the place of a colon decide where block collections begin
and end, so a scalar may turn out to be a key only when the colon behind it is met; the tokens that
say so are then put in front of it.

Reading goes on up to the first fault. What was found before it is kept, but for the tokens from the
first possible key on, whose role is not settled. -/

namespace SecretRefs.Yaml

inductive Token
  | version (major minor : Nat)
  | tagHandle (handle : String) (lead : List UInt8)
  | documentStart
  | documentEnd
  | blockSequenceStart
  | blockMappingStart
  | blockEnd
  | flowSequenceStart
  | flowSequenceEnd
  | flowMappingStart
  | flowMappingEnd
  | blockEntry
  | flowEntry
  | key
  | value
  | alias (name : String)
  | anchor (name : String)
  | tag (handle : String) (suffix : List UInt8)
  | scalar (style : ScalarStyle) (text : String)
  | streamEnd
  deriving DecidableEq, Repr

/-! ### Tokens without context -/

/-- Reads an anchor or alias name behind its indicator. -/
def readName (c : Cursor) : Except Fault (String × Cursor) :=
  let (name, next) := c.takeWhile isWordChar
  let closes :=
    match next.rest with
    | [] => true
    | d :: _ => startsBlank next.rest || "?:,]\x7d%@`".toList.contains d
  if name.isEmpty || !closes then .error .malformed else .ok (String.ofList name, next)

def isUriChar (verbatim : Bool) (c : Char) : Bool :=
  isWordChar c || ";/?:@&=+$.%!~*'()".toList.contains c || (verbatim && ",[]".toList.contains c)

/-- Reads the part of a tag that is a URI. It must not be empty unless something stands before it. A
zero byte ends the part, though not the URI. -/
def readUri (verbatim : Bool) (lead : List Char) (c : Cursor) :
    Except Fault (List UInt8 × Cursor) :=
  let (uri, next) := c.takeWhile (isUriChar verbatim)
  if uri.isEmpty && lead.isEmpty then .error .malformed
  else
    match uriBytes? 0 uri with
    | none => .error .malformed
    | some bytes =>
      let bytes := (lead.drop 1).flatMap String.utf8EncodeChar ++ bytes
      .ok (bytes.takeWhile (· ≠ 0), next)

/-- Reads a tag handle: a word between exclamation marks, or one such mark. Outside of a directive the
second mark may be missing. -/
def readHandle (inDirective : Bool) (c : Cursor) : Except Fault (List Char × Cursor) :=
  match c.rest with
  | '!' :: _ =>
    let (word, next) := (c.skip 1).takeWhile isWordChar
    if next.rest.head? = some '!' then .ok ('!' :: word ++ ['!'], next.skip 1)
    else if inDirective && !word.isEmpty then .error .malformed
    else .ok ('!' :: word, next)
  | _ => .error .malformed

def readTag (inFlow : Bool) (c : Cursor) : Except Fault (Token × Cursor) := do
  let (token, next) ←
    if (c.rest.drop 1).head? = some '<' then do
      let (suffix, next) ← readUri true [] (c.skip 2)
      if next.rest.head? = some '>' then Except.ok (Token.tag "" suffix, next.skip 1)
      else .error .malformed
    else do
      let (handle, next) ← readHandle false c
      if 2 ≤ handle.length ∧ handle.getLast? = some '!' then do
        let (suffix, next) ← readUri false [] next
        .ok (Token.tag (String.ofList handle) suffix, next)
      else do
        let (suffix, next) ← readUri false handle next
        .ok (if suffix.isEmpty then Token.tag "" [0x21] else Token.tag "!" suffix, next)
  if startsBlank next.rest || (inFlow && next.rest.head? == some ',') then .ok (token, next)
  else .error .malformed

/-- Reads a version number of at most nine digits. -/
def readVersionNumber (c : Cursor) : Except Fault (Nat × Cursor) :=
  let (digits, next) := c.takeWhile Char.isDigit
  if digits.isEmpty || 9 < digits.length then .error .malformed
  else .ok (digits.foldl (fun n d => 10 * n + (d.toNat - 48)) 0, next)

/-- Reads a directive behind its percent sign, and the rest of its line. -/
def readDirective (c : Cursor) : Except Fault (Token × Cursor) := do
  let (name, next) := c.takeWhile isWordChar
  if name.isEmpty || !startsBlank next.rest then .error .malformed
  let next := next.skipWhile isSpaceOrTab
  let (token, next) ←
    if name = "YAML".toList then do
      let (major, next) ← readVersionNumber next
      if next.rest.head? ≠ some '.' then .error .malformed
      let (minor, next) ← readVersionNumber (next.skip 1)
      Except.ok (Token.version major minor, next)
    else if name = "TAG".toList then do
      let (handle, next) ← readHandle true next
      if !(next.rest.head?.any isSpaceOrTab) then .error .malformed
      let (lead, next) ← readUri true [] (next.skipWhile isSpaceOrTab)
      if !startsBlank next.rest then .error .malformed
      .ok (Token.tagHandle (String.ofList handle) lead, next)
    else .error .malformed
  let next := (next.skipWhile isSpaceOrTab).skipComment
  if !startsBreak next.rest then .error .malformed
  .ok (token, (next.lineBreak?.map (·.2)).getD next)

/-! ### Tokens in context -/

/-- A place where a key may begin. -/
structure PossibleKey where
  /-- Whether nothing but a key may stand here. -/
  required : Bool
  /-- The number of tokens before it. -/
  position : Nat
  place : Cursor

namespace PossibleKey

/-- A key ends on its line, and within 1024 bytes. -/
def isStale (k : PossibleKey) (c : Cursor) : Bool :=
  k.place.line < c.line || k.place.offset + 1024 < c.offset

end PossibleKey

structure Scanner where
  cursor : Cursor
  /-- The tokens found so far, the last one first. -/
  tokens : List Token := []
  /-- The column of the innermost block collection, and those around it. -/
  indent : Int := -1
  indents : List Int := []
  /-- The possible key on the level of the flow collection, and those on the levels around it. -/
  possibleKey : Option PossibleKey := none
  outerKeys : List (Option PossibleKey) := []
  /-- Whether a key may begin at the next token. -/
  keyAllowed : Bool := true

namespace Scanner

def inFlow (s : Scanner) : Bool := !s.outerKeys.isEmpty

def push (s : Scanner) (t : Token) : Scanner := { s with tokens := t :: s.tokens }

/-- Puts a token in front of all but the given number of tokens. -/
def insertAt (s : Scanner) (position : Nat) (t : Token) : Scanner :=
  let later := s.tokens.length - position
  { s with tokens := s.tokens.take later ++ t :: s.tokens.drop later }

def possibleKeys (s : Scanner) : List PossibleKey := (s.possibleKey :: s.outerKeys).filterMap id

/-- Gives up the possible keys that are stale; a required one is a fault. -/
def dropStaleKeys (s : Scanner) : Except Fault Scanner :=
  if s.possibleKeys.any fun k => k.isStale s.cursor && k.required then .error .malformed
  else
    let keep (k : Option PossibleKey) := k.filter fun k => !k.isStale s.cursor
    .ok { s with possibleKey := keep s.possibleKey, outerKeys := s.outerKeys.map keep }

/-- Gives up the possible key on this level; a required one is a fault. -/
def dropKey (s : Scanner) : Except Fault Scanner :=
  if s.possibleKey.any (·.required) then .error .malformed else .ok { s with possibleKey := none }

/-- Notes that a key may begin here. -/
def noteKey (s : Scanner) : Except Fault Scanner :=
  if s.keyAllowed then do
    let required := !s.inFlow && s.indent == (s.cursor.column : Int)
    let s ← s.dropKey
    .ok { s with possibleKey := some ⟨required, s.tokens.length, s.cursor⟩ }
  else .ok s

/-- Opens a block collection at a column that lies further in than the one around it. -/
def openBlock (s : Scanner) (column : Nat) (position : Option Nat) (t : Token) : Scanner :=
  if s.inFlow || (column : Int) ≤ s.indent then s
  else
    let s := { s with indents := s.indent :: s.indents, indent := column }
    match position with
    | some position => s.insertAt position t
    | none => s.push t

/-- Closes the block collections that lie further in than a column. -/
def closeBlocks (s : Scanner) (column : Int) : Scanner :=
  if s.inFlow then s
  else
    let closed := (s.indent :: s.indents).takeWhile (column < ·)
    let left := (s.indent :: s.indents).drop closed.length
    { s with
      tokens := List.replicate closed.length Token.blockEnd ++ s.tokens
      indent := left.head?.getD (-1)
      indents := left.tail }

/-- Passes over blanks, comments and breaks before a token. In block context a tab does not indent a
token that may be a key. -/
def skipToToken : (bound : Nat) → Scanner → Scanner
  | 0, s => s
  | bound + 1, s =>
    let c := s.cursor
    let c := if c.column == 0 && c.rest.head? == some '\ufeff' then c.skip 1 else c
    let tabs := s.inFlow || !s.keyAllowed
    let c := (c.skipWhile fun d => d == ' ' || (tabs && d == '\t')).skipComment
    match c.lineBreak? with
    | some (_, next) =>
      skipToToken bound { s with cursor := next, keyAllowed := !s.inFlow || s.keyAllowed }
    | none => { s with cursor := c }

/-- Moves over an indicator of some characters and adds its token. -/
def take (s : Scanner) (width : Nat) (t : Token) : Scanner :=
  { s.push t with cursor := s.cursor.skip width }

/-- The end of the text closes all that is open. -/
def fetchEnd (s : Scanner) : Except Fault Scanner := do
  let s ← (s.closeBlocks (-1)).dropKey
  .ok { s.push .streamEnd with keyAllowed := false }

def fetchDirective (s : Scanner) : Except Fault Scanner := do
  let s ← (s.closeBlocks (-1)).dropKey
  let (token, cursor) ← readDirective (s.cursor.skip 1)
  .ok { s.push token with cursor, keyAllowed := false }

def fetchDocumentMark (s : Scanner) (t : Token) : Except Fault Scanner := do
  let s ← (s.closeBlocks (-1)).dropKey
  .ok { s.take 3 t with keyAllowed := false }

def fetchFlowStart (s : Scanner) (t : Token) : Except Fault Scanner := do
  let s ← s.noteKey
  .ok
    { s.take 1 t with
      possibleKey := none, outerKeys := s.possibleKey :: s.outerKeys, keyAllowed := true }

def fetchFlowEnd (s : Scanner) (t : Token) : Except Fault Scanner := do
  let s ← s.dropKey
  let s :=
    match s.outerKeys with
    | [] => s
    | k :: outer => { s with possibleKey := k, outerKeys := outer }
  .ok { s.take 1 t with keyAllowed := false }

def fetchFlowEntry (s : Scanner) : Except Fault Scanner := do
  let s ← s.dropKey
  .ok { s.take 1 .flowEntry with keyAllowed := true }

def fetchBlockEntry (s : Scanner) : Except Fault Scanner := do
  if !s.inFlow && !s.keyAllowed then .error .malformed
  let s ← (s.openBlock s.cursor.column none .blockSequenceStart).dropKey
  .ok { s.take 1 .blockEntry with keyAllowed := true }

def fetchKey (s : Scanner) : Except Fault Scanner := do
  if !s.inFlow && !s.keyAllowed then .error .malformed
  let s ← (s.openBlock s.cursor.column none .blockMappingStart).dropKey
  .ok { s.take 1 .key with keyAllowed := !s.inFlow }

/-- A colon makes a key of the possible key before it; without one it begins the value of a key that
was announced, or of an empty one. -/
def fetchValue (s : Scanner) : Except Fault Scanner :=
  match s.possibleKey with
  | some k =>
    let s := s.insertAt k.position .key
    let s := s.openBlock k.place.column (some k.position) .blockMappingStart
    .ok { s.take 1 .value with possibleKey := none, keyAllowed := false }
  | none =>
    if !s.inFlow && !s.keyAllowed then .error .malformed
    else
      let s := s.openBlock s.cursor.column none .blockMappingStart
      .ok { s.take 1 .value with keyAllowed := !s.inFlow }

def fetchName (s : Scanner) (token : String → Token) : Except Fault Scanner := do
  let s ← s.noteKey
  let (name, cursor) ← readName (s.cursor.skip 1)
  .ok { s.push (token name) with cursor, keyAllowed := false }

def fetchTag (s : Scanner) : Except Fault Scanner := do
  let s ← s.noteKey
  let (token, cursor) ← readTag s.inFlow s.cursor
  .ok { s.push token with cursor, keyAllowed := false }

def fetchBlockScalar (s : Scanner) (literal : Bool) : Except Fault Scanner := do
  let s ← s.dropKey
  let (text, cursor) ← readBlock literal s.indent (s.cursor.skip 1)
  let style := if literal then ScalarStyle.literal else .folded
  .ok { s.push (.scalar style (String.ofList text)) with cursor, keyAllowed := true }

def fetchQuoted (s : Scanner) (single : Bool) : Except Fault Scanner := do
  let s ← s.noteKey
  let (text, cursor) ← readQuoted single (s.cursor.rest.length + 1) [] (s.cursor.skip 1)
  let style := if single then ScalarStyle.singleQuoted else .doubleQuoted
  .ok { s.push (.scalar style (String.ofList text)) with cursor, keyAllowed := false }

def fetchPlain (s : Scanner) : Except Fault Scanner := do
  let s ← s.noteKey
  let (text, broken, cursor) ←
    readPlain s.inFlow (s.indent + 1) (s.cursor.rest.length + 1) [] {} s.cursor
  .ok { s.push (.scalar .plain (String.ofList text)) with cursor, keyAllowed := broken }

/-- Reads the next token. -/
def fetch (s : Scanner) : Except Fault Scanner := do
  let s ← (s.skipToToken (s.cursor.rest.length + 1)).dropStaleKeys
  let s := s.closeBlocks s.cursor.column
  match s.cursor.rest with
  | [] => s.fetchEnd
  | c :: rest =>
    let blankNext := startsBlank rest
    if s.cursor.column == 0 && c == '%' then s.fetchDirective
    else if s.cursor.atDocumentMark then
      s.fetchDocumentMark (if c == '-' then .documentStart else .documentEnd)
    else if c == '[' then s.fetchFlowStart .flowSequenceStart
    else if c == '{' then s.fetchFlowStart .flowMappingStart
    else if c == ']' then s.fetchFlowEnd .flowSequenceEnd
    else if c == '}' then s.fetchFlowEnd .flowMappingEnd
    else if c == ',' then s.fetchFlowEntry
    else if c == '-' && blankNext then s.fetchBlockEntry
    else if c == '?' && (s.inFlow || blankNext) then s.fetchKey
    else if c == ':' && (s.inFlow || blankNext) then s.fetchValue
    else if c == '*' then s.fetchName .alias
    else if c == '&' then s.fetchName .anchor
    else if c == '!' then s.fetchTag
    else if c == '|' && !s.inFlow then s.fetchBlockScalar true
    else if c == '>' && !s.inFlow then s.fetchBlockScalar false
    else if c == '\'' then s.fetchQuoted true
    else if c == '"' then s.fetchQuoted false
    else if isSpaceOrTab c || isBreak c || "#|>%@`".toList.contains c then .error .malformed
    else s.fetchPlain

/-- The tokens whose role is settled: those before the first possible key. -/
def settled (s : Scanner) : List Token :=
  let bound := (s.possibleKeys.map (·.position)).foldl min s.tokens.length
  s.tokens.reverse.take bound

/-- Reads all tokens, up to the end or to the first fault. Behind each token some characters must be
left. -/
def run (margin : Nat) : (bound : Nat) → Scanner → List Token × Option Fault
  | 0, s => (s.settled, some .malformed)
  | bound + 1, s =>
    match (s.fetch).bind dropStaleKeys with
    | .error fault => (s.settled, some fault)
    | .ok next =>
      if (next.cursor.rest.take margin).length < margin then (s.settled, some .malformed)
      else if next.tokens.head? = some .streamEnd then (next.tokens.reverse, none)
      else run margin bound next

end Scanner

/-- The tokens of a text, with the fault that ends them if there is one. A character that is not allowed
spoils its piece of the text and what follows it; reading a token looks up to four characters ahead. -/
def Token.scan (text : String) : List Token × Option Fault :=
  let cs := text.toList
  match lengthBeforeFlaw? 0 0 0 cs with
  | none => Scanner.run 0 (cs.length + 2) { cursor := { rest := cs } }
  | some n =>
    if n = 0 then ([], some .malformed)
    else Scanner.run 4 (n + 2) { cursor := { rest := cs.take n } }

end SecretRefs.Yaml

/-! Places in a YAML text. A cursor holds the text that is left and where it begins; the readers of
tokens move it on. -/

namespace SecretRefs.Yaml

/-- What a YAML text may hold: printable characters, tabs and line breaks. -/
def isAllowed (c : Char) : Bool :=
  let n := c.toNat
  n == 0x09 || n == 0x0A || n == 0x0D || (0x20 ≤ n && n ≤ 0x7E) || n == 0x85 ||
    (0xA0 ≤ n && n ≤ 0xFFFD) || 0x10000 ≤ n

/-- A text is taken in by pieces, each as long as possible with at most this many bytes. -/
def pieceSize : Nat := 16384

/-- The number of characters before the piece with the first character that is not allowed, if there
is one. The first `index` characters are allowed, and of them those from `start` on, `size` bytes, are
in one piece. -/
def lengthBeforeFlaw? (start size index : Nat) : List Char → Option Nat
  | [] => none
  | c :: cs =>
    let fits := size + c.utf8Size ≤ pieceSize
    let start := if fits then start else index
    let size := if fits then size + c.utf8Size else c.utf8Size
    if isAllowed c then lengthBeforeFlaw? start size (index + 1) cs else some start

def isBreak (c : Char) : Bool :=
  c == '\n' || c == '\r' || c == '\u0085' || c == '\u2028' || c == '\u2029'

def isSpaceOrTab (c : Char) : Bool := c == ' ' || c == '\t'

/-- The characters of anchors, tag handles and directive names. -/
def isWordChar (c : Char) : Bool := c.isAlphanum || c == '_' || c == '-'

/-- Whether a text begins with a space, a tab or a line break, or is at its end. -/
def startsBlank : List Char → Bool
  | [] => true
  | c :: _ => isSpaceOrTab c || isBreak c

/-- Whether a text is at the end of a line. -/
def startsBreak : List Char → Bool
  | [] => true
  | c :: _ => isBreak c

structure Cursor where
  rest : List Char
  /-- The number of bytes before the place. -/
  offset : Nat := 0
  line : Nat := 0
  column : Nat := 0
  deriving Repr

namespace Cursor

def atEnd (c : Cursor) : Bool := c.rest.isEmpty

/-- The place behind some characters, but for its line and column. -/
def drop (c : Cursor) (n : Nat) : Cursor :=
  { c with
    rest := c.rest.drop n
    offset := (c.rest.take n).foldl (fun bytes d => bytes + d.utf8Size) c.offset }

/-- Moves on by some characters of the same line. -/
def skip (c : Cursor) (n : Nat) : Cursor := { c.drop n with column := c.column + n }

/-- Moves over the characters in front that pass a test, and returns them. -/
def takeWhile (c : Cursor) (p : Char → Bool) : List Char × Cursor :=
  let taken := c.rest.takeWhile p
  (taken, c.skip taken.length)

def skipWhile (c : Cursor) (p : Char → Bool) : Cursor := (c.takeWhile p).2

/-- Moves over a line break, if there is one here. A carriage return and a line feed together are one
break. All breaks read as a line feed, but for the separators of lines and paragraphs, which stay. -/
def lineBreak? (c : Cursor) : Option (Char × Cursor) :=
  let next (n : Nat) : Cursor := { c.drop n with line := c.line + 1, column := 0 }
  match c.rest with
  | '\r' :: '\n' :: _ => some ('\n', next 2)
  | b :: _ =>
    if b == '\u2028' || b == '\u2029' then some (b, next 1)
    else if isBreak b then some ('\n', next 1)
    else none
  | [] => none

/-- Moves over a comment, up to the end of its line. -/
def skipComment (c : Cursor) : Cursor :=
  match c.rest with
  | '#' :: _ => c.skipWhile fun d => !isBreak d
  | _ => c

/-- Whether `---` or `...` stands here at the start of a line, followed by a blank. -/
def atDocumentMark (c : Cursor) : Bool :=
  c.column == 0 &&
    match c.rest with
    | '-' :: '-' :: '-' :: rest => startsBlank rest
    | '.' :: '.' :: '.' :: rest => startsBlank rest
    | _ => false

end Cursor

end SecretRefs.Yaml

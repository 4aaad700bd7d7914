import SecretRefs.Decimal.Shortest
import SecretRefs.Text.Quoted
import SecretRefs.Yaml.Document

/-! The values of YAML nodes. A plain scalar is null, a boolean, an integer, a decimal number or, if it
looks like none of them, a string; quoted and block scalars are strings. A tag of the core schema forces
the type, and a local tag stays with the value. -/

namespace SecretRefs.Yaml

inductive Number
  | integer (value : Int)
  | float (value : Float)

/-- Powers of ten without a sign are positive. -/
def decimals : Decimal.Notation where
  positiveMark := ""
  infinity := ".inf"
  notANumber := ".nan"

namespace Number

def render : Number → String
  | integer value => toString value
  | float value => decimals.render value

/-- Equality of numbers of one kind; a number that is none equals itself. -/
def same : Number → Number → Bool
  | integer a, integer b => a == b
  | float a, float b => a == b || (a.isNaN && b.isNaN)
  | _, _ => false

end Number

inductive Value
  | null
  | bool (value : Bool)
  | number (value : Number)
  | string (value : String)
  | sequence (items : List Value)
  | mapping (entries : List (Value × Value))
  | tagged (tag : String) (value : Value)
  deriving Inhabited

namespace Value

/-- The number of values that a value consists of. -/
def size : Value → Nat
  | sequence items => 1 + sizeItems items
  | mapping entries => 1 + sizeEntries entries
  | tagged _ value => 1 + size value
  | _ => 1
where
  sizeItems : List Value → Nat
    | [] => 0
    | v :: rest => size v + sizeItems rest
  sizeEntries : List (Value × Value) → Nat
    | [] => 0
    | (k, v) :: rest => size k + size v + sizeEntries rest

/-- The name of a tag without an exclamation mark in front, unless it is nothing else. -/
def bareTag (tag : String) : String :=
  match tag.toList with
  | '!' :: c :: rest => String.ofList (c :: rest)
  | _ => tag

/-- Equality of values. Mappings are equal if they have the same entries in any order, and tags if
they differ by an exclamation mark at most. -/
def sameWithin : (bound : Nat) → Value → Value → Bool
  | 0, _, _ => false
  | bound + 1, a, b =>
    match a, b with
    | null, null => true
    | bool a, bool b => a == b
    | number a, number b => a.same b
    | string a, string b => a == b
    | sequence a, sequence b =>
      a.length == b.length && (a.zip b).all fun pair => sameWithin bound pair.1 pair.2
    | mapping a, mapping b =>
      a.length == b.length &&
        a.all fun x => b.any fun y => sameWithin bound x.1 y.1 && sameWithin bound x.2 y.2
    | tagged t a, tagged u b => bareTag t == bareTag u && sameWithin bound a b
    | _, _ => false

def same (a b : Value) : Bool := sameWithin (a.size + 1) a b

/-- What a value is, where another was expected. -/
def found : Value → String
  | null => "unit value"
  | bool b => s!"boolean `{b}`"
  | number (.integer n) => s!"integer `{n}`"
  | number (.float x) => s!"floating point `{decimals.render x}`"
  | string text => "string " ++ Text.quoted text
  | sequence _ => "sequence"
  | mapping _ => "map"
  | tagged .. => "enum"

/-- What a value is as a key that comes twice. -/
def keyAccount : Value → String
  | null => "with null key"
  | bool b => s!"with key `{b}`"
  | number n => s!"with key {n.render}"
  | string text => "with key " ++ Text.quoted text
  | _ => "in YAML map"

end Value

/-! ### Plain scalars -/

def isNullText (text : String) : Bool := ["null", "Null", "NULL", "~"].contains text

def readBool? (text : String) : Option Bool :=
  if ["true", "True", "TRUE"].contains text then some true
  else if ["false", "False", "FALSE"].contains text then some false
  else none

/-- The digits of a number in a base up to sixteen, or nothing if there is none or another character
stands among them. -/
def digitsValue? (base : Nat) (cs : List Char) : Option Nat :=
  if cs.isEmpty then none
  else
    cs.foldl
      (fun n c => do
        let d ← hexDigit? c
        if d < base then return base * (← n) + d else none)
      (some 0)

/-- The digits behind a mark of the base, and the base. -/
def splitBase? : List Char → Option (Nat × List Char)
  | '0' :: 'x' :: cs => some (16, cs)
  | '0' :: 'o' :: cs => some (8, cs)
  | '0' :: 'b' :: cs => some (2, cs)
  | _ => none

/-- Zeros in front of further digits do not write a number. -/
def hasLeadingZero (cs : List Char) : Bool :=
  match cs with
  | '0' :: d :: rest => (d :: rest).all Char.isDigit
  | _ => false

/-- The absolute value of an integer, without its sign. -/
def magnitude? (cs : List Char) : Option Nat :=
  let based := (splitBase? cs).bind fun (base, digits) => digitsValue? base digits
  match based with
  | some n => some n
  | none => if hasLeadingZero cs then none else digitsValue? 10 cs

/-- The integer that a plain scalar writes, of any size. -/
def readInteger? (text : String) : Option Int :=
  match text.toList with
  | '+' :: cs => (magnitude? cs).map Int.ofNat
  | '-' :: cs => (magnitude? cs).map fun n => -(n : Int)
  | cs => (magnitude? cs).map Int.ofNat

/-- The decimal number that a text writes: digits with at most one point among them, and at most one
power of ten. -/
def readDecimal? (cs : List Char) : Option Float :=
  let (negative, cs) :=
    match cs with
    | '-' :: cs => (true, cs)
    | '+' :: cs => (false, cs)
    | cs => (false, cs)
  let whole := cs.takeWhile Char.isDigit
  let rest := cs.dropWhile Char.isDigit
  let (fraction, rest) :=
    match rest with
    | '.' :: rest => (rest.takeWhile Char.isDigit, rest.dropWhile Char.isDigit)
    | rest => ([], rest)
  let power? : Option Int :=
    match rest with
    | [] => some 0
    | e :: rest =>
      if e = 'e' ∨ e = 'E' then
        let (sign, digits) : Int × List Char :=
          match rest with
          | '-' :: digits => (-1, digits)
          | '+' :: digits => (1, digits)
          | digits => (1, digits)
        (digitsValue? 10 digits).map fun n => sign * n
      else none
  if whole.isEmpty && fraction.isEmpty then none
  else
    match power?, digitsValue? 10 (whole ++ fraction) with
    | some power, some digits =>
      let x := Decimal.toFloat digits (power - fraction.length)
      some (if negative then -x else x)
    | _, _ => none

/-- The decimal number of a plain scalar. A number out of range is none. -/
def readFloat? (text : String) : Option Float :=
  let infinity := Float.ofBits 0x7FF0000000000000
  if [".inf", ".Inf", ".INF", "+.inf", "+.Inf", "+.INF"].contains text then some infinity
  else if ["-.inf", "-.Inf", "-.INF"].contains text then some (-infinity)
  else if [".nan", ".NaN", ".NAN"].contains text then some (Float.ofBits 0x7FF8000000000000)
  else
    let cs :=
      match text.toList with
      | '+' :: '+' :: _ | '+' :: '-' :: _ => []
      | cs => cs
    (readDecimal? cs).filter Float.isFinite

/-- Whether an integer fits into some bits, with a sign or without one. -/
def fitsInto (bits : Nat) (n : Int) : Bool :=
  -(Decimal.pow2 (bits - 1) : Int) ≤ n && n < Decimal.pow2 bits

/-- The value of an integer that fits into 64 bits. One that fits only into 128 bits is not what is
expected anywhere, and a larger one is no integer. -/
def integerValue? (expected text : String) : Option (Except Mismatch Value) :=
  match readInteger? text with
  | none => none
  | some n =>
    if fitsInto 64 n then some (.ok (.number (.integer n)))
    else if fitsInto 128 n then
      let width := if n < 0 then "i128" else "u128"
      some (.error (.wrongType s!"integer `{n}` as {width}" expected))
    else none

def plainValue (expected text : String) : Except Mismatch Value :=
  if text.isEmpty || isNullText text then .ok .null
  else
    match readBool? text with
    | some b => .ok (.bool b)
    | none =>
      match integerValue? expected text with
      | some value => value
      | none =>
        let cs := text.toList
        let unsigned := match cs with
          | '+' :: cs | '-' :: cs => cs
          | cs => cs
        match if hasLeadingZero unsigned then none else readFloat? text with
        | some x => .ok (.number (.float x))
        | none => .ok (.string text)

/-- The value of a scalar where something is expected. A tag of the core schema forces the type; a plain
scalar whose tag is a local one gets the type that it looks like. -/
def scalarValue (expected : String) (tag : Option Tag) (style : ScalarStyle) (text : String) :
    Except Mismatch Value :=
  let forced (value : Option Value) (type : String) : Except Mismatch Value :=
    match value with
    | some value => .ok value
    | none => .error (.wrongValue (Value.string text).found type)
  if tag = some (.core "bool") then forced ((readBool? text).map .bool) "a boolean"
  else if tag = some (.core "int") then
    match integerValue? expected text with
    | some value => value
    | none => forced none "an integer"
  else if tag = some (.core "float") then forced ((readFloat? text).map (.number ∘ .float)) "a float"
  else if tag = some (.core "null") then forced (if isNullText text then some .null else none) "null"
  else if style = .plain ∧ tag.all Tag.isLocal then plainValue expected text
  else .ok (.string text)

/-- Why a scalar is not what is expected. -/
def scalarMismatch (expected : String) (tag : Option Tag) (style : ScalarStyle) (text : String) :
    Mismatch :=
  match scalarValue expected tag style text with
  | .ok value => .wrongType value.found expected
  | .error cause => cause

/-! ### Nodes -/

/-- How many containers may stand inside of each other. -/
def depthLimit : Nat := 128

/-- Work on a document, which counts the aliases that are followed. -/
abbrev Walk := StateT Nat (Except Fault)

/-- Leads from an alias to its node. Aliases may be followed a hundred times as often as there are
events. -/
def Document.follow (d : Document) (node : Node) : Walk Node :=
  match node with
  | .alias number => do
    let count ← get
    set (count + 1)
    if d.size * 100 < count + 1 then throw .tooManyAliases
    match d.anchored.lookup number with
    | some target => return target
    | none => throw (d.fault.getD .unknownAlias)
  | node => return node

/-- The fault of a node that is not what is expected. -/
def Document.unfit (d : Document) (path : Path) (expected : String) (node : Node) : Fault :=
  match node with
  | .missing => d.fault.getD .malformed
  | .alias _ => .unknownAlias
  | .scalar tag style text => .mismatch path (scalarMismatch expected tag style text)
  | .sequence .. => .mismatch path (.wrongType "sequence" expected)
  | .mapping .. => .mismatch path (.wrongType "map" expected)

/-- The name of the local tag of a node. -/
def Node.localTag? : Node → Option String
  | .scalar tag .. | .sequence tag _ | .mapping tag _ => tag.bind Tag.localName?
  | _ => none

/-- The path to the value of a key. -/
def Path.valueOf (path : Path) (key : Node) : Path :=
  match key with
  | .scalar _ _ text => .field path text
  | _ => path.unnamed

/-- The value of a node. Equal keys in one mapping are a fault. -/
def Document.value (d : Document) : (depth : Nat) → Path → Node → Walk Value
  | depth, path, node => do
    let node ← d.follow node
    let inner ←
      match node with
      | .missing => throw (d.fault.getD .malformed)
      | .alias _ => throw .unknownAlias
      | .scalar tag style text =>
        match scalarValue "any YAML value" tag style text with
        | .ok value => pure value
        | .error cause => throw (.mismatch path cause)
      | .sequence _ items =>
        match depth with
        | 0 => throw .tooDeep
        | depth + 1 =>
          .sequence <$> items.zipIdx.mapM fun item => d.value depth (.item path item.2) item.1
      | .mapping _ entries =>
        match depth with
        | 0 => throw .tooDeep
        | depth + 1 => do
          let entries ← entries.foldlM
            (fun done entry => do
              let key ← d.value depth path entry.1
              if done.any fun other => other.1.same key then
                throw (.duplicateKey path key.keyAccount)
              return (key, ← d.value depth (path.valueOf entry.1) entry.2) :: done)
            []
          pure (.mapping entries.reverse)
    return match node.localTag? with
      | some tag => .tagged tag inner
      | none => inner

/-- The text of a node that stands for a string; any scalar will do, whatever its tag. -/
def Document.text (d : Document) (path : Path) (node : Node) : Walk String := do
  match ← d.follow node with
  | .scalar _ _ text => return text
  | node => throw (d.unfit path "a string" node)

/-- The boolean of a plain scalar; a literal scalar has to be tagged as one. -/
def Document.bool (d : Document) (path : Path) (node : Node) : Walk Bool := do
  let node ← d.follow node
  let typed : Option String := match node with
    | .scalar tag style text =>
      if style = .plain ∨ (style = .literal ∧ tag = some (.core "bool")) then some text else none
    | _ => none
  match typed.bind readBool? with
  | some b => return b
  | none => throw (d.unfit path "a boolean" node)

/-- The entries of a node that stands for a record or map. Nothing, and a scalar that is plain and
empty, has no entries. -/
def Document.entries (d : Document) (path : Path) (expected : String) (node : Option Node) :
    Walk (List (Node × Node)) :=
  match node with
  | none => return []
  | some node => do
    match ← d.follow node with
    | .mapping _ entries => return entries
    | .scalar _ .plain "" => return []
    | node => throw (d.unfit path expected node)

/-- Whether a node can be passed over: nothing may be missing in it. -/
def Node.isWhole : Node → Bool
  | .missing => false
  | .alias _ => true
  | .scalar .. => true
  | .sequence _ items => wholeItems items
  | .mapping _ entries => wholeEntries entries
where
  wholeItems : List Node → Bool
    | [] => true
    | n :: rest => n.isWhole && wholeItems rest
  wholeEntries : List (Node × Node) → Bool
    | [] => true
    | (k, v) :: rest => k.isWhole && v.isWhole && wholeEntries rest

/-- Passes over a node. -/
def Document.skip (d : Document) (node : Node) : Walk Unit :=
  if node.isWhole then return () else throw (d.fault.getD .malformed)

/-- Does some work on the document of a text, all of which must be in order. -/
def Document.decode {α : Type} (text : String) (work : Document → Walk α) : Except Fault α := do
  let d := Document.read text
  let (value, _) ← (work d).run 0
  match d.fault.orElse fun _ => d.trailingFault with
  | some fault => .error fault
  | none => .ok value

/-- Reads a document that is a mapping, as its entries in order. Keys keep the text of their scalar. -/
def readMapping (text : String) : Except Fault (List (String × Value)) :=
  Document.decode text fun d => do
    let entries ← d.entries .root "a map" d.root
    entries.mapM fun entry => do
      let name ← d.text .root entry.1
      return (name, ← d.value (depthLimit - 1) (Path.root.valueOf entry.1) entry.2)

end SecretRefs.Yaml

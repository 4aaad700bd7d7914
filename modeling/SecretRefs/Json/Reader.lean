import SecretRefs.Fault
import SecretRefs.Json.Value
import SecretRefs.Text.Quoted

/-! Reading JSON. A document is read once from left to right, and the first fault met ends the
reading, be it one of form or one of type. A reader takes the text that is left and returns what it
read with the text behind it. -/

namespace SecretRefs.Json

/-- What takes something from the front of a text. -/
abbrev Reader (α : Type) := List Char → Except Fault (α × List Char)

def skipBlank (cs : List Char) : List Char :=
  cs.dropWhile fun c => c == ' ' || c == '\n' || c == '\t' || c == '\r'

/-- The fault of a text that goes on wrongly or not at all. -/
def faultAt : List Char → Fault
  | [] => .ended
  | _ => .malformed

/-- Takes the letters of a word; the first that differs is the fault. -/
def readWord : (word : List Char) → List Char → Except Fault (List Char)
  | [], cs => .ok cs
  | _ :: _, [] => .error .ended
  | w :: word, c :: cs => if w = c then readWord word cs else .error .malformed

/-! ### Strings -/

def hexDigit? (c : Char) : Option Nat :=
  if '0' ≤ c ∧ c ≤ '9' then some (c.toNat - 48)
  else if 'a' ≤ c ∧ c ≤ 'f' then some (c.toNat - 87)
  else if 'A' ≤ c ∧ c ≤ 'F' then some (c.toNat - 55)
  else none

def hexValue? (digits : List Char) : Option Nat :=
  digits.foldl (fun value c => return 16 * (← value) + (← hexDigit? c)) (some 0)

/-- The fault of an escape by number that is not followed by four digits: the text has ended if it
holds fewer than four bytes more. -/
def hexFault (cs : List Char) : Fault :=
  if (String.ofList cs).utf8ByteSize < 4 then .ended else .malformed

/-- The characters that an escape of one letter stands for. -/
def shortEscape? (c : Char) : Option Char :=
  if c = '"' ∨ c = '\\' ∨ c = '/' then some c
  else if c = 'b' then some '\x08'
  else if c = 'f' then some '\x0c'
  else if c = 'n' then some '\n'
  else if c = 'r' then some '\r'
  else if c = 't' then some '\t'
  else none

def isHighSurrogate (n : Nat) : Bool := 0xD800 ≤ n && n ≤ 0xDBFF

def isLowSurrogate (n : Nat) : Bool := 0xDC00 ≤ n && n ≤ 0xDFFF

def consChar (c : Char) (chars : Except Fault (List Char × List Char)) :
    Except Fault (List Char × List Char) :=
  chars.map fun (cs, rest) => (c :: cs, rest)

/-- The characters of a string up to its closing quote. Escapes by number give units of UTF-16, so a
character beyond the basic plane takes two of them, and half of one is a fault. -/
def readChars : List Char → Except Fault (List Char × List Char)
  | [] => .error .ended
  | '"' :: rest => .ok ([], rest)
  | '\\' :: 'u' :: a :: b :: c :: d :: rest =>
    match hexValue? [a, b, c, d] with
    | none => .error .malformed
    | some high =>
      if isLowSurrogate high then .error .malformed
      else if isHighSurrogate high then
        match rest with
        | '\\' :: 'u' :: a :: b :: c :: d :: rest =>
          match hexValue? [a, b, c, d] with
          | none => .error .malformed
          | some low =>
            if isLowSurrogate low then
              consChar (Char.ofNat (0x10000 + (high - 0xD800) * 0x400 + (low - 0xDC00)))
                (readChars rest)
            else .error .malformed
        | '\\' :: 'u' :: rest => .error (hexFault rest)
        | '\\' :: rest => .error (faultAt rest)
        | rest => .error (faultAt rest)
      else consChar (Char.ofNat high) (readChars rest)
  | '\\' :: 'u' :: rest => .error (hexFault rest)
  | '\\' :: c :: rest =>
    match shortEscape? c with
    | some e => consChar e (readChars rest)
    | none => .error .malformed
  | '\\' :: [] => .error .ended
  | c :: rest => if c.toNat < 0x20 then .error .malformed else consChar c (readChars rest)

/-- Passes over the characters of a string up to its closing quote. What the escapes by number stand
for does not matter. -/
def skipChars : List Char → Except Fault (List Char)
  | [] => .error .ended
  | '"' :: rest => .ok rest
  | '\\' :: 'u' :: a :: b :: c :: d :: rest =>
    if (hexValue? [a, b, c, d]).isSome then skipChars rest else .error .malformed
  | '\\' :: 'u' :: rest => .error (hexFault rest)
  | '\\' :: c :: rest => if (shortEscape? c).isSome then skipChars rest else .error .malformed
  | '\\' :: [] => .error .ended
  | c :: rest => if c.toNat < 0x20 then .error .malformed else skipChars rest

/-! ### Numbers -/

/-- The parts of a number as written, its sign apart. -/
structure NumberText where
  whole : List Char
  /-- The digits behind the point. -/
  fraction : Option (List Char) := none
  /-- Whether the power of ten is negative, and its digits. -/
  power : Option (Bool × List Char) := none
  deriving DecidableEq, Repr

def readDigits (cs : List Char) : Except Fault (List Char × List Char) :=
  let digits := cs.takeWhile Char.isDigit
  if digits.isEmpty then .error (faultAt cs) else .ok (digits, cs.dropWhile Char.isDigit)

/-- The digits of the whole part; a zero in front stands alone. -/
def readWhole (cs : List Char) : Except Fault (List Char × List Char) := do
  let (digits, rest) ← readDigits cs
  match digits with
  | '0' :: _ :: _ => .error .malformed
  | _ => .ok (digits, rest)

def readFraction : List Char → Except Fault (Option (List Char) × List Char)
  | '.' :: cs => do
    let (digits, rest) ← readDigits cs
    .ok (some digits, rest)
  | cs => .ok (none, cs)

def readPower : List Char → Except Fault (Option (Bool × List Char) × List Char)
  | c :: cs =>
    if c = 'e' ∨ c = 'E' then do
      let (negative, cs) :=
        match cs with
        | '-' :: cs => (true, cs)
        | '+' :: cs => (false, cs)
        | cs => (false, cs)
      let (digits, rest) ← readDigits cs
      .ok (some (negative, digits), rest)
    else .ok (none, c :: cs)
  | [] => .ok (none, [])

def readNumberText (cs : List Char) : Except Fault (NumberText × List Char) := do
  let (whole, cs) ← readWhole cs
  let (fraction, cs) ← readFraction cs
  let (power, cs) ← readPower cs
  .ok (⟨whole, fraction, power⟩, cs)

private def greatestWord : Nat := Decimal.pow2 64 - 1

/-- Appends digits to a number as long as it fits into 64 bits, and returns the digits that are left
over. -/
def appendDigits : Nat → List Char → Nat × List Char
  | n, [] => (n, [])
  | n, c :: cs =>
    let next := 10 * n + (c.toNat - 48)
    if next ≤ greatestWord then appendDigits next cs else (n, c :: cs)

/-- Divides a number by powers of ten until the rest of the exponent is at hand. -/
private def scaleDown : (rounds : Nat) → Float → Int → Float
  | 0, x, _ => x
  | rounds + 1, x, exponent =>
    if -308 ≤ exponent then x / Decimal.toFloat 1 (-exponent)
    else if x == 0.0 then x
    else scaleDown rounds (x / Decimal.toFloat 1 308) (exponent + 308)

/-- `digits * 10 ^ exponent` as a double, computed by one multiplication or by divisions; a number out
of range is a fault. After three divisions by the greatest power nothing is left of 64 bits. -/
def floatOfParts (digits : Nat) (exponent : Int) : Except Fault Float :=
  let x := Decimal.toFloat digits 0
  if exponent < 0 then .ok (scaleDown 4 x exponent)
  else if 308 < exponent then if x == 0.0 then .ok x else .error .malformed
  else
    let y := x * Decimal.toFloat 1 exponent
    if y.isInf then .error .malformed else .ok y

/-- The exponent as a number; one that does not fit into 32 bits is beyond every bound. -/
private def powerValue (digits : List Char) : Option Nat :=
  let value := digits.foldl (fun n c => 10 * n + (c.toNat - 48)) 0
  if value < Decimal.pow2 31 then some value else none

/-- The absolute value of a number that is no integer. The digits are collected in 64 bits; those that
do not fit are dropped, and only those before the point raise the exponent. -/
def NumberText.magnitude (t : NumberText) : Except Fault Float :=
  let (leading, dropped) := appendDigits 0 t.whole
  let fraction := t.fraction.getD []
  let (digits, unused) := appendDigits leading fraction
  let exponent : Int := dropped.length - (fraction.length - unused.length)
  match t.power with
  | none => floatOfParts digits exponent
  | some (negative, power) =>
    match powerValue power with
    | some value => floatOfParts digits (if negative then exponent - value else exponent + value)
    | none => if digits ≠ 0 ∧ !negative then .error .malformed else .ok 0.0

/-- The value of a number. Integers that fit into 64 bits stay integers; the negative zero is none. -/
def NumberText.value (negative : Bool) (t : NumberText) : Except Fault Number :=
  let (n, dropped) := appendDigits 0 t.whole
  if dropped.isEmpty ∧ t.fraction.isNone ∧ t.power.isNone then
    if !negative then .ok (.integer n)
    else if n ≠ 0 ∧ n ≤ Decimal.pow2 63 then .ok (.integer (-n))
    else .ok (.float (-Decimal.toFloat n 0))
  else do
    let x ← t.magnitude
    .ok (.float (if negative then -x else x))

/-- Reads a number behind its sign. -/
def readNumber (negative : Bool) (cs : List Char) : Except Fault (Number × List Char) := do
  let (text, rest) ← readNumberText cs
  .ok (← text.value negative, rest)

/-- Passes over a number behind its sign. Where digits are missing the form is broken, also at the end
of the text. -/
def skipNumber (cs : List Char) : Except Fault (List Char) :=
  match readNumberText cs with
  | .ok (_, rest) => .ok rest
  | .error _ => .error .malformed

/-! ### Arrays and objects -/

/-- Takes a string of the document, which has to begin here. -/
def readKey : List Char → Except Fault (String × List Char)
  | '"' :: cs => do
    let (chars, rest) ← readChars cs
    .ok (String.ofList chars, rest)
  | cs => .error (faultAt cs)

def skipKey : List Char → Except Fault (Unit × List Char)
  | '"' :: cs => do .ok ((), ← skipChars cs)
  | cs => .error (faultAt cs)

/-- Takes the colon between a key and its value. -/
def readColon (cs : List Char) : Except Fault (List Char) :=
  match skipBlank cs with
  | ':' :: rest => .ok rest
  | cs => .error (faultAt cs)

/-- Reads the items of an array behind its opening bracket, and folds them. The bound is on the number
of items. -/
def foldItems {σ : Type} (item : σ → Reader σ) :
    (bound : Nat) → (first : Bool) → σ → List Char → Except Fault (σ × List Char)
  | 0, _, _, _ => .error .malformed
  | bound + 1, first, state, cs =>
    match skipBlank cs with
    | ']' :: rest => .ok (state, rest)
    | ',' :: rest =>
      if first then .error .malformed
      else
        match skipBlank rest with
        | ']' :: _ => .error .malformed
        | rest => do
          let (state, rest) ← item state rest
          foldItems item bound false state rest
    | cs =>
      if first then do
        let (state, rest) ← item state cs
        foldItems item bound false state rest
      else .error (faultAt cs)

/-- Reads the members of an object behind its opening brace, and folds them. The fold step gets the
text right behind the key. -/
def foldMembers {κ σ : Type} (key : Reader κ) (member : κ → σ → Reader σ) :
    (bound : Nat) → (first : Bool) → σ → List Char → Except Fault (σ × List Char)
  | 0, _, _, _ => .error .malformed
  | bound + 1, first, state, cs =>
    match skipBlank cs with
    | '\x7d' :: rest => .ok (state, rest)
    | ',' :: rest =>
      if first then .error .malformed
      else do
        let (k, rest) ← key (skipBlank rest)
        let (state, rest) ← member k state rest
        foldMembers key member bound false state rest
    | cs =>
      if first then do
        let (k, rest) ← key cs
        let (state, rest) ← member k state rest
        foldMembers key member bound false state rest
      else .error (faultAt cs)

/-! ### Values -/

/-- Reads a value with at most `depth` containers inside of each other. -/
def readValue : (depth : Nat) → List Char → Except Fault (Value × List Char)
  | depth, cs =>
    match skipBlank cs with
    | 'n' :: rest => do .ok (.null, ← readWord ['u', 'l', 'l'] rest)
    | 't' :: rest => do .ok (.bool true, ← readWord ['r', 'u', 'e'] rest)
    | 'f' :: rest => do .ok (.bool false, ← readWord ['a', 'l', 's', 'e'] rest)
    | '-' :: rest => do
      let (n, rest) ← readNumber true rest
      .ok (.number n, rest)
    | '"' :: rest => do
      let (chars, rest) ← readChars rest
      .ok (.string (String.ofList chars), rest)
    | '[' :: rest =>
      match depth with
      | 0 => .error .malformed
      | depth + 1 => do
        let item (items : List Value) (cs : List Char) : Except Fault (List Value × List Char) := do
          let (v, rest) ← readValue depth cs
          .ok (v :: items, rest)
        let (items, rest) ← foldItems item (rest.length + 1) true [] rest
        .ok (.array items.reverse, rest)
    | '\x7b' :: rest =>
      match depth with
      | 0 => .error .malformed
      | depth + 1 => do
        let member (name : String) (members : List (String × Value)) (cs : List Char) :
            Except Fault (List (String × Value) × List Char) := do
          let (v, rest) ← readValue depth (← readColon cs)
          .ok ((name, v) :: members, rest)
        let (members, rest) ← foldMembers readKey member (rest.length + 1) true [] rest
        .ok (.object members.reverse, rest)
    | c :: rest =>
      if c.isDigit then do
        let (n, rest) ← readNumber false (c :: rest)
        .ok (.number n, rest)
      else .error .malformed
    | [] => .error .ended

/-- Passes over a value, however deep. -/
def skipValueWithin : (depth : Nat) → List Char → Except Fault (List Char)
  | depth, cs =>
    match skipBlank cs with
    | 'n' :: rest => readWord ['u', 'l', 'l'] rest
    | 't' :: rest => readWord ['r', 'u', 'e'] rest
    | 'f' :: rest => readWord ['a', 'l', 's', 'e'] rest
    | '-' :: rest => skipNumber rest
    | '"' :: rest => skipChars rest
    | '[' :: rest =>
      match depth with
      | 0 => .error .malformed
      | depth + 1 => do
        let item (_ : Unit) (cs : List Char) : Except Fault (Unit × List Char) := do
          .ok ((), ← skipValueWithin depth cs)
        let (_, rest) ← foldItems item (rest.length + 1) true () rest
        .ok rest
    | '\x7b' :: rest =>
      match depth with
      | 0 => .error .malformed
      | depth + 1 => do
        let member (_ _ : Unit) (cs : List Char) : Except Fault (Unit × List Char) := do
          .ok ((), ← skipValueWithin depth (← readColon cs))
        let (_, rest) ← foldMembers skipKey member (rest.length + 1) true () rest
        .ok rest
    | c :: rest => if c.isDigit then skipNumber (c :: rest) else .error .malformed
    | [] => .error .ended

def skipValue (cs : List Char) : Except Fault (List Char) := skipValueWithin cs.length cs

/-- The number of containers that may stand inside of each other. -/
def depthLimit : Nat := 127

/-- Only blanks may follow the document. -/
def finish {α : Type} (x : Except Fault (α × List Char)) : Except Fault α := do
  let (value, rest) ← x
  if (skipBlank rest).isEmpty then .ok value else .error .malformed

/-! ### Typed parts -/

/-- The fault of a value that is not of the expected type. The value is read as far as it takes to
name it. -/
def wrongType (expected : String) (cs : List Char) : Fault :=
  let fault (found : String) : Fault := .mismatch (.wrongType found expected)
  let named (read : Except Fault String) : Fault :=
    match read with
    | .ok found => fault found
    | .error f => f
  let number (read : Except Fault (Number × List Char)) : Fault :=
    named do
      match ← read with
      | (.integer n, _) => .ok s!"integer `{n}`"
      | (.float x, _) => .ok s!"floating point `{decimals.render x}`"
  match cs with
  | 'n' :: rest => named do
    let _ ← readWord ['u', 'l', 'l'] rest
    .ok "null"
  | 't' :: rest => named do
    let _ ← readWord ['r', 'u', 'e'] rest
    .ok "boolean `true`"
  | 'f' :: rest => named do
    let _ ← readWord ['a', 'l', 's', 'e'] rest
    .ok "boolean `false`"
  | '-' :: rest => number (readNumber true rest)
  | '"' :: rest => named do
    let (chars, _) ← readChars rest
    .ok s!"string {Text.quoted (String.ofList chars)}"
  | '[' :: _ => fault "sequence"
  | '\x7b' :: _ => fault "map"
  | c :: rest => if c.isDigit then number (readNumber false (c :: rest)) else .malformed
  | [] => .ended

def readString (expected : String) (cs : List Char) : Except Fault (String × List Char) :=
  match skipBlank cs with
  | '"' :: rest => do
    let (chars, rest) ← readChars rest
    .ok (String.ofList chars, rest)
  | cs => .error (wrongType expected cs)

def readBool (cs : List Char) : Except Fault (Bool × List Char) :=
  match skipBlank cs with
  | 't' :: rest => do .ok (true, ← readWord ['r', 'u', 'e'] rest)
  | 'f' :: rest => do .ok (false, ← readWord ['a', 'l', 's', 'e'] rest)
  | cs => .error (wrongType "a boolean" cs)

/-- Reads a null, where nothing else may stand. -/
def readUnit (cs : List Char) : Except Fault (Unit × List Char) :=
  match skipBlank cs with
  | 'n' :: rest => do .ok ((), ← readWord ['u', 'l', 'l'] rest)
  | cs => .error (wrongType "unit" cs)

/-- Reads the fields of a record from the items of an array, in order, behind its opening bracket. The
last ones may be missing, and there may be no more. -/
def foldFields {σ : Type} :
    (fields : List (σ → Reader σ)) → (first : Bool) → σ → List Char → Except Fault (σ × List Char)
  | [], _, state, cs =>
    match skipBlank cs with
    | ']' :: rest => .ok (state, rest)
    | ',' :: _ => .error .malformed
    | cs => .error (faultAt cs)
  | field :: fields, first, state, cs =>
    match skipBlank cs with
    | ']' :: rest => .ok (state, rest)
    | ',' :: rest =>
      if first then .error .malformed
      else
        match skipBlank rest with
        | ']' :: _ => .error .malformed
        | rest => do
          let (state, rest) ← field state rest
          foldFields fields false state rest
    | cs =>
      if first then do
        let (state, rest) ← field state cs
        foldFields fields false state rest
      else .error (faultAt cs)

/-- Reads a record, written as an object or as an array of its fields. -/
def readRecord {σ : Type} (expected : String) (member : String → σ → Reader σ)
    (fields : List (σ → Reader σ)) (start : σ) (cs : List Char) : Except Fault (σ × List Char) :=
  match skipBlank cs with
  | '\x7b' :: rest => foldMembers readKey member (rest.length + 1) true start rest
  | '[' :: rest => foldFields fields true start rest
  | cs => .error (wrongType expected cs)

/-- Reads a document that is an object, as its members in order. -/
def readObject (text : String) : Except Fault (List (String × Value)) :=
  finish <|
    match skipBlank text.toList with
    | '\x7b' :: rest => do
      let member (name : String) (members : List (String × Value)) (cs : List Char) :
          Except Fault (List (String × Value) × List Char) := do
        let (v, rest) ← readValue (depthLimit - 1) (← readColon cs)
        .ok ((name, v) :: members, rest)
      let (members, rest) ← foldMembers readKey member (rest.length + 1) true [] rest
      .ok (members.reverse, rest)
    | cs => .error (wrongType "a map" cs)

end SecretRefs.Json

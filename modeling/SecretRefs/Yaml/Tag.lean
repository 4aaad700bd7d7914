import SecretRefs.Yaml.Scalar

/-! The tags of YAML nodes. A tag is written as a URI, whose escapes stand for bytes. The bytes are grouped
as those of characters are, but a group need not encode one, so a tag is kept as bytes; it has a name
only if they are a text. -/

namespace SecretRefs.Yaml

/-- The number of bytes of a character, by the first of them. -/
def sequenceLength? (lead : Nat) : Option Nat :=
  if lead < 0x80 then some 1
  else if lead / 0x20 = 0x06 then some 2
  else if lead / 0x10 = 0x0E then some 3
  else if lead / 0x08 = 0x1E then some 4
  else none

/-- The bytes that a URI writes. Escapes come in groups: a first byte, which tells how many follow it,
and bytes that continue it; `pending` of them are still to come. -/
def uriBytes? : (pending : Nat) → List Char → Option (List UInt8)
  | 0, [] => some []
  | _ + 1, [] => none
  | pending, '%' :: high :: low :: cs => do
    let byte := 16 * (← hexDigit? high) + (← hexDigit? low)
    let pending ←
      match pending with
      | 0 => (sequenceLength? byte).map (· - 1)
      | pending + 1 => if byte / 0x40 = 0x02 then some pending else none
    return UInt8.ofNat byte :: (← uriBytes? pending cs)
  | 0, c :: cs => if c = '%' then none else (uriBytes? 0 cs).map (String.utf8EncodeChar c ++ ·)
  | _ + 1, _ :: _ => none

structure Tag where
  bytes : List UInt8
  deriving DecidableEq, Repr

namespace Tag

/-- What stands before the name of a tag of the core schema. -/
def coreLead : List UInt8 := "tag:yaml.org,2002:".toList.flatMap String.utf8EncodeChar

/-- A tag of the core schema. -/
def core (name : String) : Tag := ⟨coreLead ++ name.toList.flatMap String.utf8EncodeChar⟩

/-- A local tag begins with an exclamation mark. -/
def isLocal (t : Tag) : Bool := t.bytes.head? = some 0x21

/-- The name of a local tag: its text without the exclamation mark, which stays only where nothing
follows it. -/
def localName? (t : Tag) : Option String :=
  match t.bytes with
  | [] => none
  | [0x21] => some "!"
  | b :: rest => if b = 0x21 then String.fromUTF8? ⟨rest.toArray⟩ else none

end Tag

end SecretRefs.Yaml

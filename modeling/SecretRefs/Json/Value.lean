import SecretRefs.Decimal.Shortest

/-! JSON values and their texts. -/

namespace SecretRefs.Json

/-- A number keeps whether it was read as an integer. -/
inductive Number
  | integer (value : Int)
  | float (value : Float)

/-- Powers of ten carry their sign, and numbers out of the range of doubles have no text. -/
def decimals : Decimal.Notation where
  positiveMark := "+"
  infinity := "null"
  notANumber := "null"

def Number.render : Number → String
  | integer value => toString value
  | float value => decimals.render value

inductive Value
  | null
  | bool (value : Bool)
  | number (value : Number)
  | string (value : String)
  | array (items : List Value)
  | object (members : List (String × Value))
  deriving Inhabited

def hexDigit (n : Nat) : Char := Char.ofNat (if n < 10 then n + 48 else n + 87)

/-- How one character is written between the quotes of a string. -/
def escapeChar (c : Char) : List Char :=
  if c = '"' then ['\\', '"']
  else if c = '\\' then ['\\', '\\']
  else if c = '\n' then ['\\', 'n']
  else if c = '\r' then ['\\', 'r']
  else if c = '\t' then ['\\', 't']
  else if c = '\x08' then ['\\', 'b']
  else if c = '\x0c' then ['\\', 'f']
  else if c.toNat < 0x20 then
    ['\\', 'u', '0', '0', hexDigit (c.toNat / 16), hexDigit (c.toNat % 16)]
  else [c]

def quote (s : String) : String := String.ofList ('"' :: s.toList.flatMap escapeChar ++ ['"'])

private def boolText (b : Bool) : String := if b then "true" else "false"

namespace Value

mutual

/-- The text of a value without any blank. -/
def compact : Value → String
  | null => "null"
  | bool b => boolText b
  | number n => n.render
  | string s => quote s
  | array items => "[" ++ String.intercalate "," (compactItems items) ++ "]"
  | object members => "\x7b" ++ String.intercalate "," (compactMembers members) ++ "\x7d"

def compactItems : List Value → List String
  | [] => []
  | v :: rest => compact v :: compactItems rest

def compactMembers : List (String × Value) → List String
  | [] => []
  | (name, v) :: rest => (quote name ++ ":" ++ compact v) :: compactMembers rest

end

def lineStart (depth : Nat) : String := "\n" ++ String.ofList (List.replicate (2 * depth) ' ')

/-- Puts the parts on lines of their own, one level further in; without parts the brackets meet. -/
def block (opening closing : String) (depth : Nat) (parts : List String) : String :=
  if parts.isEmpty then opening ++ closing
  else
    let inner := parts.map (lineStart (depth + 1) ++ ·)
    opening ++ String.intercalate "," inner ++ lineStart depth ++ closing

mutual

/-- The text of a value with every item and member on a line of its own, indented by two spaces. -/
def prettyAt (depth : Nat) : Value → String
  | null => "null"
  | bool b => boolText b
  | number n => n.render
  | string s => quote s
  | array items => block "[" "]" depth (prettyItems (depth + 1) items)
  | object members => block "\x7b" "\x7d" depth (prettyMembers (depth + 1) members)

def prettyItems (depth : Nat) : List Value → List String
  | [] => []
  | v :: rest => prettyAt depth v :: prettyItems depth rest

def prettyMembers (depth : Nat) : List (String × Value) → List String
  | [] => []
  | (name, v) :: rest => (quote name ++ ": " ++ prettyAt depth v) :: prettyMembers depth rest

end

def pretty (v : Value) : String := prettyAt 0 v

def strings (texts : List String) : Value := array (texts.map string)

end Value

end SecretRefs.Json

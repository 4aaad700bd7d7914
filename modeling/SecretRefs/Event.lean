import SecretRefs.Text.Quoted

/-! Log records. Operations that report what they do return their records, in order, beside their
result; printing them is left to the caller. The audit record of a parameter names its secrets and never
shows them. -/

namespace SecretRefs

inductive Level
  | debug
  | info
  | warn
  deriving DecidableEq, Repr

namespace Level

def label : Level → String
  | debug => "DEBUG"
  | info => "INFO"
  | warn => "WARN"

end Level

/-- The value of a field of a log record. -/
inductive FieldValue
  /-- A text that a log line quotes. -/
  | text (value : String)
  /-- A text that a log line shows as it is. -/
  | shown (value : String)
  | count (value : Nat)
  | flag (value : Bool)
  deriving DecidableEq, Repr

namespace FieldValue

def render : FieldValue → String
  | text value => Text.quoted value
  | shown value => value
  | count value => toString value
  | flag value => if value then "true" else "false"

end FieldValue

structure Event where
  level : Level
  message : String
  fields : List (String × FieldValue) := []
  deriving DecidableEq, Repr

namespace Event

/-- How a character of a message is shown in a log. Those on which a terminal would act are spelled. -/
def messageChar (c : Char) : List Char :=
  if c = '\x1b' ∨ c = '\x07' ∨ c = '\x08' ∨ c = '\x0c' ∨ c = '\x7f' then
    let digits := Text.hexDigits c.toNat
    ['\\', 'x'] ++ List.replicate (2 - digits.length) '0' ++ digits
  else if 0x80 ≤ c.toNat ∧ c.toNat ≤ 0x9F then
    ['\\', 'u', '\x7b'] ++ Text.hexDigits c.toNat ++ ['\x7d']
  else [c]

def messageText (e : Event) : String := String.ofList (e.message.toList.flatMap messageChar)

/-- The line of a log that shows the record. -/
def line (e : Event) : String :=
  String.intercalate " "
    (e.level.label :: e.messageText :: e.fields.map fun field => field.1 ++ "=" ++ field.2.render)

end Event

/-- What became of the references in a parameter. -/
structure AuditRecord where
  operation : String
  parameter : String
  /-- The names of the secrets put into the parameter. -/
  resolved : List String := []
  /-- The names of the secrets that its final text still asks for. -/
  unresolved : List String := []
  deriving DecidableEq, Repr

namespace AuditRecord

def success (r : AuditRecord) : Bool := r.unresolved.isEmpty

/-- A parameter without a leftover is routine; a leftover is worth a warning. -/
def level (r : AuditRecord) : Level := if r.success then .debug else .warn

def event (r : AuditRecord) : Event :=
  let fields := [("operation", FieldValue.shown r.operation), ("parameter", .shown r.parameter),
    ("resolved", .shown (Text.quotedList r.resolved))]
  if r.success then
    { level := r.level, message := "Parameter resolved", fields }
  else
    { level := r.level, message := "Parameter has unresolved secret references",
      fields := fields ++ [("unresolved", .shown (Text.quotedList r.unresolved))] }

end AuditRecord

/-- A result, with the log records of the work that led to it. -/
structure Logged (α : Type) where
  events : List Event := []
  value : α

namespace Logged

instance : Monad Logged where
  pure a := { value := a }
  bind x f :=
    let y := f x.value
    { events := x.events ++ y.events, value := y.value }

/-- Writes one record. -/
def log (e : Event) : Logged Unit := { events := [e], value := () }

end Logged

end SecretRefs

import SecretRefs.Dict
import SecretRefs.Text.Quoted

/-! Secrets. The value of a secret is read when it is put into a text and shown nowhere else: its
diagnostic form gives its length only, its display form not even that. -/

namespace SecretRefs

/-- A text whose diagnostic and display forms are redacted. -/
structure SecretText where
  reveal : String
  deriving DecidableEq

/-- What is shown in place of a text that is not to be seen. -/
def redacted (text : String) : String := s!"[REDACTED {text.utf8ByteSize} bytes]"

namespace SecretText

/-- The number of bytes of the text in UTF-8. -/
def byteLength (s : SecretText) : Nat := s.reveal.utf8ByteSize

def isEmpty (s : SecretText) : Bool := s.byteLength == 0

def diagnostic (s : SecretText) : String := s!"SecureString({redacted s.reveal})"

def display (_ : SecretText) : String := "[REDACTED]"

/-- The secret after its memory has been wiped. -/
def wiped (_ : SecretText) : SecretText := ⟨""⟩

end SecretText

/-- The secrets at hand, by name. -/
abbrev Secrets := Dict String SecretText

namespace Secrets

def ofTexts (entries : List (String × String)) : Secrets :=
  Dict.ofList (entries.map fun e => (e.1, ⟨e.2⟩))

/-- The secrets of a mapping that has been loaded. -/
def ofDict (texts : Dict String String) : Secrets := texts.mapValues fun _ text => ⟨text⟩

/-- The text that takes the place of a reference to `name`. -/
def lookup? (secrets : Secrets) (name : String) : Option String :=
  (Dict.get? secrets name).map SecretText.reveal

/-- The mapping without the texts. -/
def diagnostic (secrets : Secrets) : String :=
  let entries := secrets.entries.map fun e => Text.quoted e.1 ++ ": " ++ e.2.diagnostic
  "SecretMapping \x7b secrets: \x7b" ++ String.intercalate ", " entries ++ "\x7d \x7d"

end Secrets

end SecretRefs

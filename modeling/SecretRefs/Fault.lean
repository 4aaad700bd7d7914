/-! Why a text is not the document asked for. It breaks the rules of its format, or it is well formed and of the
wrong shape, which is told in the same words for every format. -/

namespace SecretRefs

/-- A document that is well formed and still not what was asked for. -/
inductive Mismatch
  /-- A value of one type stands where another is expected. -/
  | wrongType (found expected : String)
  /-- A value does not say what its own type asks for. -/
  | wrongValue (found expected : String)
  | unknownField (name : String) (known : List String)
  | unknownVariant (name : String) (known : List String)
  | duplicateField (name : String)
  /-- A value of the right type that does not make a valid object, with the reason. -/
  | refused (reason : String)
  deriving DecidableEq, Repr

namespace Mismatch

private def ticked (name : String) : String := "`" ++ name ++ "`"

private def oneOf (names : List String) : String :=
  "expected one of " ++ String.intercalate ", " (names.map ticked)

def message : Mismatch → String
  | wrongType found expected => s!"invalid type: {found}, expected {expected}"
  | wrongValue found expected => s!"invalid value: {found}, expected {expected}"
  | unknownField name known => "unknown field " ++ ticked name ++ ", " ++ oneOf known
  | unknownVariant name known => "unknown variant " ++ ticked name ++ ", " ++ oneOf known
  | duplicateField name => "duplicate field " ++ ticked name
  | refused reason => reason

end Mismatch

namespace Json

/-- Why a text is not the JSON document asked for. -/
inductive Fault
  /-- The text breaks the rules of JSON. -/
  | malformed
  /-- The text ends too early. -/
  | ended
  /-- The text is JSON of the wrong shape. -/
  | mismatch (cause : Mismatch)
  deriving DecidableEq, Repr

/-- The account of a fault. -/
def Fault.message : Fault → String
  | malformed => "malformed text"
  | ended => "unexpected end of the text"
  | mismatch cause => cause.message

end Json

namespace Yaml

/-- The way from the root of a document to a node. -/
inductive Path
  | root
  | field (parent : Path) (name : String)
  | item (parent : Path) (index : Nat)
  deriving DecidableEq, Repr

namespace Path

/-- The value of a key that has no text of its own. -/
def unnamed (parent : Path) : Path := .field parent "?"

def text : Path → String
  | root => "."
  | field root name => name
  | field parent name => s!"{parent.text}.{name}"
  | item parent index => s!"{parent.text}[{index}]"

end Path

/-- Why a text is not the YAML document asked for. -/
inductive Fault
  /-- The text breaks the rules of YAML. -/
  | malformed
  /-- An alias for which there is no anchor before it. -/
  | unknownAlias
  /-- The text goes on with another document. -/
  | furtherDocument
  /-- Containers are nested too deeply. -/
  | tooDeep
  /-- Aliases are followed too often. -/
  | tooManyAliases
  /-- A mapping holds equal keys; the account tells which. -/
  | duplicateKey (path : Path) (account : String)
  /-- The document is of the wrong shape. -/
  | mismatch (path : Path) (cause : Mismatch)
  deriving DecidableEq, Repr

/-- What is wrong at a place, behind the path that leads there. -/
def Path.tell (path : Path) (message : String) : String :=
  if path.text = "." then message else s!"{path.text}: {message}"

/-- The account of a fault. -/
def Fault.message : Fault → String
  | malformed => "malformed document"
  | unknownAlias => "unknown anchor"
  | furtherDocument => "more than one document"
  | tooDeep => "recursion limit exceeded"
  | tooManyAliases => "repetition limit exceeded"
  | duplicateKey path account => path.tell s!"duplicate entry {account}"
  | mismatch path cause => path.tell cause.message

end Yaml

end SecretRefs

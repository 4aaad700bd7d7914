import SecretRefs.Config
import SecretRefs.Json.Reader

/-! Reading the types of the configuration from JSON. -/

namespace SecretRefs

open Json (Fault readString readBool readUnit readColon readRecord skipValue skipBlank)

namespace Json

/-- A fault of type. -/
def fit {α : Type} : Except Mismatch α → Except Fault α
  | .ok value => .ok value
  | .error cause => .error (.mismatch cause)

end Json

open Json (fit)

namespace Namespace

def readJson (cs : List Char) : Except Fault (Namespace × List Char) := do
  let (text, rest) ← readString "a string" cs
  .ok (← fit (ofDocumentText text), rest)

def ofJson (text : String) : Except Fault Namespace := Json.finish (readJson text.toList)

end Namespace

namespace ParameterKind

/-- A kind is its name, or an object with its name as the only key and null as the value. -/
def readJson (cs : List Char) : Except Fault (ParameterKind × List Char) :=
  match skipBlank cs with
  | '"' :: _ => do
    let (text, rest) ← readString "variant identifier" cs
    .ok (← fit (ofDocumentText text), rest)
  | '\x7b' :: rest => do
    let (text, rest) ← readString "variant identifier" rest
    let kind ← fit (ofDocumentText text)
    let (_, rest) ← readUnit (← readColon rest)
    match skipBlank rest with
    | '\x7d' :: rest => .ok (kind, rest)
    | rest => .error (Json.faultAt rest)
  | cs => .error (Json.faultAt cs)

def ofJson (text : String) : Except Fault ParameterKind := Json.finish (readJson text.toList)

end ParameterKind

namespace ExposureFlags

def readFlag (field : Field) (d : Draft) (cs : List Char) : Except Fault (Draft × List Char) := do
  let (value, rest) ← readBool cs
  .ok (d.set value field, rest)

def readMember (name : String) (d : Draft) (cs : List Char) : Except Fault (Draft × List Char) := do
  match ← fit (d.newField name) with
  | some field => readFlag field d (← readColon cs)
  | none => .ok (d, ← skipValue (← readColon cs))

def readJson (cs : List Char) : Except Fault (ExposureFlags × List Char) := do
  let (d, rest) ← readRecord "struct BehaviourFlags" readMember
    [readFlag .exposeEnv, readFlag .exposeConfig] {} cs
  .ok (d.complete, rest)

def ofJson (text : String) : Except Fault ExposureFlags := Json.finish (readJson text.toList)

end ExposureFlags

namespace Config

def readField (field : Field) (d : Draft) (cs : List Char) : Except Fault (Draft × List Char) :=
  match field with
  | .secretNamespace => do
    let (ns, rest) ← Namespace.readJson cs
    .ok ({ d with secretNamespace := some ns }, rest)
  | .behaviour => do
    let (flags, rest) ← ExposureFlags.readJson cs
    .ok ({ d with behaviour := some flags }, rest)
  | .failOnUnresolved => do
    let (value, rest) ← readBool cs
    .ok ({ d with failOnUnresolved := some value }, rest)

def readMember (name : String) (d : Draft) (cs : List Char) : Except Fault (Draft × List Char) := do
  let field ← fit (d.newField name)
  readField field d (← readColon cs)

def readJson (cs : List Char) : Except Fault (Config × List Char) := do
  let (d, rest) ← readRecord "struct VaultRefConfigFile" readMember (fields.map readField) {} cs
  .ok (d.complete, rest)

def ofJson (text : String) : Except Fault Config := Json.finish (readJson text.toList)

end Config

end SecretRefs

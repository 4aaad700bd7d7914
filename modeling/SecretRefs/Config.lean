import SecretRefs.Fault
import SecretRefs.Json.Value
import SecretRefs.Namespace
import SecretRefs.Parameter

/-! The configuration, and its names in documents. -/

namespace SecretRefs

/-- What the message about a defective namespace says. -/
def namespaceRefusal (text reason : String) : String :=
  s!"Invalid secret namespace prefix '{text}': {reason}"

/-- The namespace that a document gives as a text. -/
def Namespace.ofDocumentText (text : String) : Except Mismatch Namespace :=
  match Namespace.ofText text with
  | .ok ns => .ok ns
  | .error defect => .error (.refused (namespaceRefusal text defect.reason))

/-- The kind that a document names. -/
def ParameterKind.ofDocumentText (text : String) : Except Mismatch ParameterKind :=
  match ParameterKind.ofDocumentName? text with
  | some kind => .ok kind
  | none =>
    .error (.unknownVariant text
      ([environment, system, config].map ParameterKind.documentName))

def ExposureFlags.document (flags : ExposureFlags) : Json.Value :=
  .object [("expose_env", .bool flags.exposeEnv), ("expose_config", .bool flags.exposeConfig)]

structure Config where
  /-- What a key must begin with to address the secret store. -/
  secretNamespace : Namespace := .standard
  /-- The flags where the parameters do not set them. -/
  behaviour : ExposureFlags := {}
  /-- Whether a reference that is left makes the resolution fail. -/
  failOnUnresolved : Bool := false
  deriving DecidableEq

namespace Config

def document (c : Config) : Json.Value :=
  .object
    [("namespace", .string c.secretNamespace.text), ("behaviour", c.behaviour.document),
      ("fail_on_unresolved", .bool c.failOnUnresolved)]

/-- A configuration of which some fields have been read. -/
structure Draft where
  secretNamespace : Option Namespace := none
  behaviour : Option ExposureFlags := none
  failOnUnresolved : Option Bool := none

/-- The fields that are missing have their defaults. -/
def Draft.complete (d : Draft) : Config where
  secretNamespace := d.secretNamespace.getD .standard
  behaviour := d.behaviour.getD {}
  failOnUnresolved := d.failOnUnresolved.getD false

inductive Field
  | secretNamespace
  | behaviour
  | failOnUnresolved
  deriving DecidableEq, Repr

def Field.name : Field → String
  | secretNamespace => "namespace"
  | behaviour => "behaviour"
  | failOnUnresolved => "fail_on_unresolved"

def fields : List Field := [.secretNamespace, .behaviour, .failOnUnresolved]

def Draft.has (d : Draft) : Field → Bool
  | .secretNamespace => d.secretNamespace.isSome
  | .behaviour => d.behaviour.isSome
  | .failOnUnresolved => d.failOnUnresolved.isSome

/-- The field of a name; there are no others, and none may come twice. -/
def Draft.newField (d : Draft) (name : String) : Except Mismatch Field :=
  match fields.find? (·.name == name) with
  | none => .error (.unknownField name (fields.map Field.name))
  | some field => if d.has field then .error (.duplicateField name) else .ok field

end Config

namespace ExposureFlags

/-- Flags of which some have been read. -/
structure Draft where
  exposeEnv : Option Bool := none
  exposeConfig : Option Bool := none

def Draft.complete (d : Draft) : ExposureFlags where
  exposeEnv := d.exposeEnv.getD false
  exposeConfig := d.exposeConfig.getD false

inductive Field
  | exposeEnv
  | exposeConfig
  deriving DecidableEq, Repr

def Field.name : Field → String
  | exposeEnv => "expose_env"
  | exposeConfig => "expose_config"

def Draft.has (d : Draft) : Field → Bool
  | .exposeEnv => d.exposeEnv.isSome
  | .exposeConfig => d.exposeConfig.isSome

def Draft.set (d : Draft) (value : Bool) : Field → Draft
  | .exposeEnv => { d with exposeEnv := some value }
  | .exposeConfig => { d with exposeConfig := some value }

/-- The flag of a name, which must not come twice. Other names are passed over. -/
def Draft.newField (d : Draft) (name : String) : Except Mismatch (Option Field) :=
  match [Field.exposeEnv, .exposeConfig].find? (·.name == name) with
  | none => .ok none
  | some field => if d.has field then .error (.duplicateField name) else .ok (some field)

end ExposureFlags

end SecretRefs

import SecretRefs.Config
import SecretRefs.Json.Reader

/-! What can go wrong, and the messages that say so. -/

namespace SecretRefs

inductive Error
  | fileNotFound (path : String)
  | invalidConfig (message : String)
  | invalidNamespace (text reason : String)
  | yaml (fault : Yaml.Fault)
  | json (fault : Json.Fault)
  /-- A file that cannot be read, with the reason. -/
  | io (reason : String)
  deriving DecidableEq, Repr

namespace Error

/-- A parameter or secret whose value is a collection. -/
def collectionValue (name : String) : Error := invalidConfig s!"value of '{name}' must be a scalar"

def ofDefect (text : String) (defect : NamespaceDefect) : Error :=
  invalidNamespace text defect.reason

def message : Error → String
  | fileNotFound path => s!"File not found: {path}"
  | invalidConfig message => s!"Invalid configuration: {message}"
  | invalidNamespace text reason => namespaceRefusal text reason
  | yaml fault => s!"YAML parsing error: {fault.message}"
  | json fault => s!"JSON parsing error: {fault.message}"
  | io reason => s!"IO error: {reason}"

/-- The fault that an error passes on, in its own words. -/
def cause? : Error → Option String
  | yaml fault => some fault.message
  | json fault => some fault.message
  | io reason => some reason
  | fileNotFound _ | invalidConfig _ | invalidNamespace .. => none

/-- The message of an error, and that of its cause. -/
def chain (error : Error) : List String := error.message :: error.cause?.toList

end Error

/-- The namespace of a text given by the user. -/
def Namespace.parse (text : String) : Except Error Namespace :=
  match Namespace.ofText text with
  | .ok ns => .ok ns
  | .error defect => .error (.ofDefect text defect)

end SecretRefs

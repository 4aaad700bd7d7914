import SecretRefs.Files
import SecretRefs.Properties
import SecretRefs.Secret
import SecretRefs.Yaml.Value

/-! Sources of parameters and secrets: files that map names to texts, in one of three formats. A document
in JSON or YAML must be a mapping to scalars, each of which is taken as a text; it is read as a whole or
not at all. -/

namespace SecretRefs

inductive FileFormat
  | json
  | yaml
  | properties
  deriving DecidableEq, Repr

namespace FileFormat

/-- The part of a file name behind its last point, unless the name begins with that point. -/
def extension? (name : String) : Option String :=
  let reversed := name.toList.reverse
  let tail := reversed.takeWhile (· ≠ '.')
  match reversed.drop tail.length with
  | _ :: _ :: _ => some (String.ofList tail.reverse)
  | _ => none

/-- The last name of a path, past slashes and single points at its end. -/
def fileName? (path : String) : Option String :=
  let parts := (path.toList.splitOn '/').map String.ofList
  match (parts.filter fun part => part ≠ "" ∧ part ≠ ".").getLast? with
  | some ".." => none
  | name => name

/-- The format that the extension of a path tells, in any mix of ASCII cases; without a known one it is
properties. -/
def ofPath (path : String) : FileFormat :=
  match ((fileName? path).bind extension?).map fun e => String.ofList (e.toList.map Char.toLower) with
  | some "json" => json
  | some "yaml" | some "yml" => yaml
  | _ => properties

end FileFormat

/-- The text of a scalar; null is the empty text. -/
def Json.Value.scalarText? : Json.Value → Option String
  | .null => some ""
  | .bool b => some (if b then "true" else "false")
  | .number n => some n.render
  | .string s => some s
  | .array _ | .object _ => none

/-- The text of a scalar; null is the empty text. A local tag makes a value none. -/
def Yaml.Value.scalarText? : Yaml.Value → Option String
  | .null => some ""
  | .bool b => some (if b then "true" else "false")
  | .number n => some n.render
  | .string s => some s
  | .sequence _ | .mapping _ | .tagged .. => none

/-- Takes the values of a document as texts. Members are merged first, the last one of a name staying;
then the first name in order whose value is no scalar is the error. -/
def mappingOf {α : Type} (scalarText? : α → Option String) (members : List (String × α)) :
    Except Error (Dict String String) := do
  let entries ← (Dict.ofList members).entries.mapM fun (name, value) =>
    match scalarText? value with
    | some text => Except.ok (name, text)
    | none => .error (.collectionValue name)
  .ok (.ofList entries)

def jsonMapping (content : String) : Except Error (Dict String String) :=
  match Json.readObject content with
  | .ok members => mappingOf Json.Value.scalarText? members
  | .error fault => .error (.json fault)

/-- A blank YAML text is the empty mapping. -/
def yamlMapping (content : String) : Except Error (Dict String String) :=
  if Text.isBlankText content then .ok ∅
  else
    match Yaml.readMapping content with
    | .ok members => mappingOf Yaml.Value.scalarText? members
    | .error fault => .error (.yaml fault)

/-- The mapping that a content holds. -/
def parseContent (format : FileFormat) (content : String) : Logged (Except Error (Dict String String)) :=
  match format with
  | .json => pure (jsonMapping content)
  | .yaml => pure (yamlMapping content)
  | .properties => do return .ok (← Properties.parse content)

/-- Loads a mapping from a file. The record of a success counts the entries under the given name. -/
def loadMapping (files : Files) (what path : String) : Logged (Except Error (Dict String String)) :=
  match files.read path with
  | .error fault => pure (.error (.ofRead path fault))
  | .ok content => do
    let mapping ← parseContent (.ofPath path) content
    match mapping with
    | .error error => return .error error
    | .ok mapping =>
      Logged.log { level := .debug, message := s!"Loaded {mapping.size} {what} from {path}" }
      return .ok mapping

def loadParameters (files : Files) (path : String) : Logged (Except Error (Dict String String)) :=
  loadMapping files "parameters" path

def loadSecrets (files : Files) (path : String) : Logged (Except Error Secrets) := do
  let mapping ← loadMapping files "secrets" path
  return mapping.map Secrets.ofDict

end SecretRefs

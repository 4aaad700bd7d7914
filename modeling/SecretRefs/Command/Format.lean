import SecretRefs.Exposure
import SecretRefs.Json.Value
import SecretRefs.Pass
import SecretRefs.Properties

/-! Output formats of resolved parameters. Each of them shows what the exposure plan exposes; JSON names
the withheld parameters and the leftover references as well. In a script for a POSIX shell a value stands
between single quotes, where every character is taken as it is; a single quote is written by closing the
quotes, escaping it, and opening them again. -/

namespace SecretRefs.Shell

def quoteChar (c : Char) : List Char :=
  if c = '\'' then ['\'', '\\', '\'', '\''] else [c]

/-- The text as one shell word. -/
def quote (text : String) : String :=
  String.ofList ('\'' :: text.toList.flatMap quoteChar ++ ['\''])

end SecretRefs.Shell

namespace SecretRefs.Command

inductive OutputFormat
  | properties
  | json
  /-- One `export` command per environment variable, for a shell. -/
  | env
  deriving DecidableEq, Repr

namespace OutputFormat

def name : OutputFormat → String
  | properties => "properties"
  | json => "json"
  | env => "env"

/-- The format of a name, which is in lower case. -/
def ofName? (name : String) : Option OutputFormat :=
  [properties, json, env].find? fun format => format.name == name

end OutputFormat

/-- A properties entry on one line. -/
def propertyLine (name value : String) : String :=
  Properties.escape name ++ "=" ++ Properties.escape value

/-- The command by which a shell exports a variable. -/
def exportLine (entry : String × String) : String :=
  "export " ++ entry.1 ++ "=" ++ Shell.quote entry.2

/-- The entries of a plan, first those for the environment. -/
def propertyLines (plan : ExposurePlan) : List String :=
  (plan.environment.entries.map fun e =>
      ParameterKind.environmentLead ++ propertyLine e.1 e.2) ++
    plan.parameters.entries.map fun e => propertyLine e.1 e.2

def exportLines (plan : ExposurePlan) : List String := plan.environment.entries.map exportLine

/-- A mapping as a JSON object. -/
def textsDocument (texts : Dict String String) : Json.Value :=
  .object (texts.entries.map fun e => (e.1, .string e.2))

/-- Leftover references as a JSON object that lists the keys by parameter. -/
def unresolvedDocument (unresolved : Dict String (List StoreKey)) : Json.Value :=
  .object (unresolved.entries.map fun e => (e.1, .strings (e.2.map StoreKey.key)))

/-- The JSON form of what a pass found, without the new values. -/
def passDocument (result : PassResult) : Json.Value :=
  .object [("unresolved", unresolvedDocument result.unresolved)]

def resolutionDocument (plan : ExposurePlan) (unresolved : Dict String (List StoreKey)) :
    Json.Value :=
  .object
    [("environment", textsDocument plan.environment), ("parameters", textsDocument plan.parameters),
      ("withheld", .strings plan.withheld.members), ("unresolved", unresolvedDocument unresolved)]

/-- What a format prints of a plan, line by line. -/
def OutputFormat.lines (format : OutputFormat) (plan : ExposurePlan)
    (unresolved : Dict String (List StoreKey)) : List String :=
  match format with
  | properties => propertyLines plan
  | json => [(resolutionDocument plan unresolved).pretty]
  | env => exportLines plan

end SecretRefs.Command

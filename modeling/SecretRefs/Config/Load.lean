import SecretRefs.Config.FromYaml
import SecretRefs.Event
import SecretRefs.Files
import SecretRefs.Text.Blank

/-! Loading the configuration. It comes from the file that the user names or else from the nearest one
above the working directory; an environment variable overrides its namespace. -/

namespace SecretRefs

/-- The names of configuration files; in one directory the first is preferred. -/
def configNames : List String := ["vaultref.yaml", "vaultref.yml"]

/-- The environment variable that overrides the namespace. -/
def namespaceVariable : String := "VAULTREF_NAMESPACE"

/-- An empty text counts as none. -/
def unlessEmpty (text : Option String) : Option String := text.filter (· ≠ "")

/-- A place and the directories around it, the nearest first. -/
def ancestors (place : Place) : List Place :=
  (List.range (place.length + 1)).reverse.map (place.take ·)

/-- A configuration with the path of the file that it comes from, if there is one. -/
structure LoadedConfig where
  config : Config := {}
  path : Option String := none
  deriving DecidableEq

namespace Config

/-- The configuration that a content holds; a blank one has the defaults. -/
def parse (content : String) : Except Error Config :=
  if Text.isBlankText content then .ok {}
  else
    match ofYaml content with
    | .ok config => .ok config
    | .error fault => .error (.yaml fault)

/-- The places where a configuration file is looked for, in order. -/
def candidates (start : Place) : List Place :=
  (ancestors start).flatMap fun place => configNames.map fun name => place ++ [name]

/-- What is at a candidate: nothing, a file with its path and text, or something that cannot be read. -/
def inspect (files : Files) (place : Place) : Option (Except Error (String × String)) :=
  match files.readAt place with
  | .ok text => some (.ok (files.pathOf place, text))
  | .error fault => if fault.isThere then some (.error (.io fault.reason)) else none

/-- The nearest configuration file at or above a directory, with its text. The search ends at the first
candidate that exists, whether it can be read or not. -/
def nearest (files : Files) (start : Place) : Except Error (Option (String × String)) :=
  match (candidates start).findSome? (inspect files) with
  | none => .ok none
  | some (.ok found) => .ok (some found)
  | some (.error error) => .error error

/-- The file to take: the one that is named, which must exist, or the nearest one. -/
def choose (files : Files) (path : Option String) : Except Error (Option (String × String)) :=
  match path with
  | some path =>
    match files.read path with
    | .ok text => .ok (some (path, text))
    | .error fault => .error (.ofRead path fault)
  | none => nearest files files.workingDirectory

/-- Lets a text override the namespace, unless it is empty. -/
def overrideNamespace (override : Option String) (loaded : LoadedConfig) :
    Logged (Except Error LoadedConfig) :=
  match unlessEmpty override with
  | none => pure (.ok loaded)
  | some text => do
    Logged.log { level := .debug, message := s!"Namespace overridden by {namespaceVariable}" }
    return (Namespace.parse text).map fun ns =>
      { loaded with config := { loaded.config with secretNamespace := ns } }

def load (files : Files) (path override : Option String) : Logged (Except Error LoadedConfig) :=
  match choose files path with
  | .error error => pure (.error error)
  | .ok none => do
    Logged.log { level := .debug, message := "No configuration file found, using defaults" }
    overrideNamespace override {}
  | .ok (some (path, content)) => do
    Logged.log { level := .debug, message := s!"Loading configuration from {path}" }
    match parse content with
    | .error error => return .error error
    | .ok config => overrideNamespace override { config, path := some path }

end Config

end SecretRefs

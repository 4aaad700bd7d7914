import SecretRefs.Namespace

/-! Kinds of parameters, and the flags that allow them. The name of a parameter tells where its value goes: `env.NAME` to
the environment variable `NAME`, `system.NAME` to a system property, any other to the configuration. The behaviour
flags say what kinds of resolved parameters may be written out; the configuration gives defaults, and two
parameters of reserved names override them. -/

namespace SecretRefs

inductive ParameterKind
  | environment
  | system
  | config
  deriving DecidableEq, Repr

namespace ParameterKind

def environmentLead : String := "env."

def systemLead : String := "system."

def ofName (name : String) : ParameterKind :=
  if environmentLead.toList.isPrefixOf name.toList then environment
  else if systemLead.toList.isPrefixOf name.toList then system
  else config

/-- The kind as messages to the user name it. -/
def display : ParameterKind → String
  | environment => "env"
  | system => "system"
  | config => "config"

/-- The kind as documents name it. -/
def documentName : ParameterKind → String
  | environment => "environment"
  | system => "system"
  | config => "config"

/-- The kinds by their name in documents. -/
def ofDocumentName? (name : String) : Option ParameterKind :=
  [environment, system, config].find? fun kind => kind.documentName == name

end ParameterKind

/-- The environment variable that an `env.` parameter sets; the bare `env.` sets none. -/
def environmentVariable? (name : String) : Option String :=
  match stripLead ParameterKind.environmentLead.toList name.toList with
  | none | some [] => none
  | some rest => some (String.ofList rest)

structure ExposureFlags where
  /-- Whether resolved `env.` parameters are exposed. -/
  exposeEnv : Bool := false
  /-- Whether resolved configuration and system parameters are exposed. -/
  exposeConfig : Bool := false
  deriving DecidableEq, Repr, Inhabited

namespace ExposureFlags

def exposeEnvParameter : String := "vaultref.set.env"

def exposeConfigParameter : String := "vaultref.set.config"

/-- The word `true` in any mix of ASCII cases is on, and every other text is off. -/
def isOn (value : String) : Bool := value.toList.map Char.toLower == "true".toList

/-- Lets one parameter override its flag. -/
def override (flags : ExposureFlags) (parameter : String × String) : ExposureFlags :=
  if parameter.1 = exposeEnvParameter then { flags with exposeEnv := isOn parameter.2 }
  else if parameter.1 = exposeConfigParameter then { flags with exposeConfig := isOn parameter.2 }
  else flags

/-- The flags that some parameters set, over the defaults. -/
def ofParameters (defaults : ExposureFlags) (parameters : List (String × String)) : ExposureFlags :=
  parameters.foldl override defaults

/-- Whether resolved parameters of a kind may be written out. -/
def allows (flags : ExposureFlags) : ParameterKind → Bool
  | .environment => flags.exposeEnv
  | .system | .config => flags.exposeConfig

/-- The reserved parameter that allows a kind. -/
def parameterFor : ParameterKind → String
  | .environment => exposeEnvParameter
  | .system | .config => exposeConfigParameter

/-- Everything is exposed. -/
def all : ExposureFlags := { exposeEnv := true, exposeConfig := true }

end ExposureFlags

end SecretRefs

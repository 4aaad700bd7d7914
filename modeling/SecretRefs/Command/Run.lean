import SecretRefs.Command.Transcript
import SecretRefs.Config.Load
import SecretRefs.Scan
import SecretRefs.Source

/-! Running a command. Apart from `version`, every command loads the configuration first. -/

namespace SecretRefs.Command

def programVersion : String := "0.1.0"

def usage : String := "usage: vaultref [-v] [-q] [-c FILE] (scan | extract | resolve | version) ..."

/-! ### Scanning and extraction -/

def scanDocument (report : ReferenceReport) : Json.Value :=
  .object
    [("secrets", .strings report.secretNames), ("parameters", .strings report.parameters.members)]

/-- What a scan shows of its report on some parameters. -/
def scanItems (ns : Namespace) (json : Bool) (parameters : Dict String String) (report : ReferenceReport) :
    List Item :=
  if json then [.result (scanDocument report).pretty]
  else if report.isEmpty then [.info s!"No '{ns.text}' references in {parameters.size} parameters"]
  else
    let names := report.secretNames
    .heading s!"{names.length} secrets referenced by {report.parameters.size} parameters" ::
      (report.parameters.members.map (.entry "parameter") ++ names.map .result)

def loadParameterFile (files : Files) (path : String) : CommandM (Dict String String) :=
  attempt s!"Failed to load parameters from {path}" (loadParameters files path)

def loadSecretFile (files : Files) (path : String) : CommandM Secrets :=
  attempt s!"Failed to load secrets from {path}" (loadSecrets files path)

def scanFile (files : Files) (ns : Namespace) (path : String) (json : Bool) : CommandM Unit := do
  let parameters ← loadParameterFile files path
  let report ← attend (scan ns parameters.entries)
  write (scanItems ns json parameters report)

def keyDocument (k : StoreKey) : Json.Value :=
  .object [("key", .string k.key), ("name", .string k.name)]

/-- What an extraction shows of the keys it found. -/
def extractItems (ns : Namespace) (json : Bool) (keys : List StoreKey) : List Item :=
  if json then [.result (Json.Value.array (keys.map keyDocument)).pretty]
  else if keys.isEmpty then [.info s!"No '{ns.text}' references found"]
  else keys.map fun k => .result k.name

/-! ### Resolution -/

/-- The hint for a parameter that is held back. -/
def withheldItem (name : String) : Item :=
  let kind := ParameterKind.ofName name
  .info s!"Withheld {kind.display} parameter '{name}' (enable with {ExposureFlags.parameterFor kind})"

def unresolvedItem (entry : String × List StoreKey) : Item :=
  let references := String.intercalate ", " (entry.2.map StoreKey.reference)
  .warning s!"Parameter '{entry.1}' has unresolved references: {references}"

/-- What a format prints of a plan, and a hint about what it leaves out. -/
def planItems (format : OutputFormat) (plan : ExposurePlan)
    (unresolved : Dict String (List StoreKey)) : List Item :=
  (format.lines plan unresolved).map .result ++
    if format = .env ∧ !plan.parameters.isEmpty then
      [.info s!"{plan.parameters.size} non-environment parameters omitted from env output"]
    else []

/-- The behaviour flags of a pass. -/
def effectiveFlags (all : Bool) (defaults : ExposureFlags) (parameters : Dict String String) :
    ExposureFlags :=
  if all then .all else .ofParameters defaults parameters.entries

def resolvingEvent (ns : Namespace) (parameters : Dict String String) (secrets : Secrets) :
    Event where
  level := .debug
  message := "Resolving parameter set"
  fields := [("namespace", .shown ns.text), ("parameters", .count parameters.size),
    ("secrets", .count secrets.size)]

/-- The end of a resolution: a warning per parameter with leftover references, which are a failure on
demand, or else a word about the success. -/
def conclude (strict : Bool) (result : PassResult) : CommandM Unit := do
  if result.hasLeftovers then
    write (result.unresolved.entries.map unresolvedItem)
    if strict then
      throw { context := s!"{result.missingSecrets.length} secret references could not be resolved" }
  else if !result.updates.isEmpty then
    write [.success s!"Resolved secrets in {result.updates.size} parameters"]

def resolveFiles (files : Files) (config : Config) (request : ResolveRequest) : CommandM Unit := do
  let parameters ← loadParameterFile files request.parameters
  let secrets ← loadSecretFile files request.secrets
  write [.record (resolvingEvent config.secretNamespace parameters secrets)]
  let result ← attend (runPass config.secretNamespace secrets parameters.entries)
  let flags := effectiveFlags request.all config.behaviour parameters
  let plan ← attend (ExposurePlan.build flags result.updates)
  write (planItems request.format plan result.unresolved ++ plan.withheld.members.map withheldItem)
  conclude (request.strict || config.failOnUnresolved) result

/-! ### The program -/

def versionText (json : Bool) : String :=
  if json then
    (Json.Value.object [("version", .string programVersion), ("commit", .null)]).pretty
  else programName ++ " " ++ programVersion

def loadConfig (files : Files) (path override : Option String) : CommandM Config := do
  let loaded ← attempt "Failed to load configuration" (Config.load files path override)
  return loaded.config

/-- Does what the user asks for. The override is the namespace that the environment sets. -/
def Invocation.perform (files : Files) (override : Option String) (invocation : Invocation) :
    CommandM Unit :=
  match invocation.task with
  | .version json => write [.result (versionText json)]
  | .scan path json => do
    let config ← loadConfig files invocation.config override
    scanFile files config.secretNamespace path json
  | .extract value json => do
    let config ← loadConfig files invocation.config override
    let ns := config.secretNamespace
    write (extractItems ns json (extract ns value))
  | .resolve request => do
    let config ← loadConfig files invocation.config override
    resolveFiles files config request

/-- The paths of the files that a task reads. -/
def Task.paths : Task → List String
  | .scan path _ => [path]
  | .resolve request => [request.parameters, request.secrets]
  | .extract .. | .version _ => []

/-- The whole run of the program on some arguments. -/
def run (files : Files) (override : Option String) (arguments : List String) : Outcome :=
  match Invocation.ofArguments arguments with
  | .ok invocation => .ofCommand invocation.verbosity (invocation.perform files override)
  | .error .misuse => { exitCode := 2, diagnostics := [.notice usage] }
  | .error (.versionOf name) => { output := Outcome.textOf [name ++ " " ++ programVersion] }
  | .error .help => { output := Outcome.textOf [usage] }

end SecretRefs.Command

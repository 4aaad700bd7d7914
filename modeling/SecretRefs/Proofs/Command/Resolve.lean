import SecretRefs.Command.Run
import SecretRefs.Proofs.Command.Transcript

/-! Runs of `resolve` whose configuration and files load. Everything up to the end of such a run only writes, so
the exit code tells of leftover references alone, and only where they are a failure; what is on standard output tells
of the plan, and in JSON of the leftover references. -/

namespace SecretRefs.Command

/-- A run of `resolve` with what it has loaded. -/
structure ResolveRun (files : Files) (override : Option String) (arguments : List String) where
  invocation : Invocation
  request : ResolveRequest
  loaded : LoadedConfig
  parameters : Dict String String
  secrets : Secrets
  understood : Invocation.ofArguments arguments = .ok invocation
  task : invocation.task = .resolve request
  configLoads : (Config.load files invocation.config override).value = .ok loaded
  parametersLoad : (loadParameters files request.parameters).value = .ok parameters
  secretsLoad : (loadSecrets files request.secrets).value = .ok secrets

namespace ResolveRun

variable {files : Files} {override : Option String} {arguments : List String}

def scope (r : ResolveRun files override arguments) : Namespace := r.loaded.config.secretNamespace

def result (r : ResolveRun files override arguments) : PassResult :=
  (runPass r.scope r.secrets r.parameters.entries).value

/-- Whether a leftover reference is a failure. -/
def strict (r : ResolveRun files override arguments) : Bool :=
  r.request.strict || r.loaded.config.failOnUnresolved

def flags (r : ResolveRun files override arguments) : ExposureFlags :=
  effectiveFlags r.request.all r.loaded.config.behaviour r.parameters

def plan (r : ResolveRun files override arguments) : ExposurePlan :=
  (ExposurePlan.build r.flags r.result.updates).value

/-- The lines that the run prints. -/
def lines (r : ResolveRun files override arguments) : List String :=
  r.request.format.lines r.plan r.result.unresolved

end ResolveRun

/-! ### The end of a resolution -/

/-- The failure over leftover references. -/
def leftoverFailure (result : PassResult) : Failure where
  context := s!"{result.missingSecrets.length} secret references could not be resolved"

/-- The line on standard error for a parameter with leftover references. -/
def warningLine (entry : String × List StoreKey) : String :=
  let references := String.intercalate ", " (entry.2.map StoreKey.reference)
  "⚠ " ++ s!"Parameter '{entry.1}' has unresolved references: {references}"

theorem fst_run_conclude (strict : Bool) (result : PassResult) (items : List Item) :
    ((conclude strict result).run.run items).1 =
      if result.hasLeftovers && strict then .error (leftoverFailure result) else .ok () := by
  rw [conclude]
  cases result.hasLeftovers with
  | true => cases strict <;> rfl
  | false => cases result.updates.isEmpty <;> rfl

/-- What the end of a resolution adds to the transcript. -/
theorem exists_snd_run_conclude (strict : Bool) (result : PassResult) (items : List Item) :
    ∃ added, ((conclude strict result).run.run items).2 = items ++ added ∧ results added = [] ∧
      warnings added = result.unresolved.entries.map warningLine := by
  have hresults := results_map_of_none unresolvedItem (fun _ => rfl) result.unresolved.entries
  have hwarnings : warnings (result.unresolved.entries.map unresolvedItem) =
      result.unresolved.entries.map warningLine := by
    rw [warnings, List.filterMap_map]
    exact congrFun List.filterMap_eq_map _
  have hleftovers : result.hasLeftovers = !result.unresolved.entries.isEmpty := rfl
  rw [conclude]
  cases h : result.hasLeftovers with
  | true => cases strict <;> exact ⟨_, rfl, hresults, hwarnings⟩
  | false =>
      rw [hleftovers, Bool.not_eq_false', List.isEmpty_iff] at h
      rw [h]
      cases result.updates.isEmpty with
      | true => exact ⟨[], (List.append_nil items).symm, rfl, rfl⟩
      | false => exact ⟨[_], rfl, rfl, rfl⟩

theorem results_conclude (strict : Bool) (result : PassResult) (items : List Item) :
    results ((conclude strict result).run.run items).2 = results items := by
  obtain ⟨added, hadded, hresults, -⟩ := exists_snd_run_conclude strict result items
  rw [hadded, results_append, hresults, List.append_nil]

theorem warnings_conclude (strict : Bool) (result : PassResult) (items : List Item) :
    warnings ((conclude strict result).run.run items).2 =
      warnings items ++ result.unresolved.entries.map warningLine := by
  obtain ⟨added, hadded, -, hwarnings⟩ := exists_snd_run_conclude strict result items
  rw [hadded, warnings_append, hwarnings]

/-! ### What comes before it -/

/-- A resolution up to its end. -/
def showPlan (files : Files) (config : Config) (request : ResolveRequest) : CommandM PassResult := do
  let parameters ← loadParameterFile files request.parameters
  let secrets ← loadSecretFile files request.secrets
  write [.record (resolvingEvent config.secretNamespace parameters secrets)]
  let result ← attend (runPass config.secretNamespace secrets parameters.entries)
  let flags := effectiveFlags request.all config.behaviour parameters
  let plan ← attend (ExposurePlan.build flags result.updates)
  write (planItems request.format plan result.unresolved ++ plan.withheld.members.map withheldItem)
  return result

theorem resolveFiles_eq (files : Files) (config : Config) (request : ResolveRequest) :
    resolveFiles files config request =
      showPlan files config request >>= conclude (request.strict || config.failOnUnresolved) := by
  simp only [resolveFiles, showPlan, bind_assoc, pure_bind]

theorem warnings_planItems (format : OutputFormat) (plan : ExposurePlan) (unresolved : Dict String (List StoreKey)) :
    warnings (planItems format plan unresolved) = [] := by
  rw [planItems, warnings_append, warnings_map_of_none _ fun _ => rfl]
  split <;> rfl

/-- It warns of nothing. -/
theorem unwarned_showPlan (files : Files) (config : Config) (request : ResolveRequest) :
    Unwarned (showPlan files config request) := by
  refine (Unwarned.attempt _ _).bind fun parameters _ => (Unwarned.attempt _ _).bind fun secrets _ => ?_
  refine (Unwarned.write rfl).bind fun _ _ => (Unwarned.attend _).bind fun result _ => ?_
  refine (Unwarned.attend _).bind fun plan _ => (Unwarned.write ?_).bind fun _ _ => Unwarned.pure _
  rw [warnings_append, warnings_planItems, warnings_map_of_none _ fun _ => rfl]
  rfl

/-- A resolution that comes to its end has loaded both files. -/
theorem exists_of_yields_showPlan {files : Files} {config : Config} {request : ResolveRequest} {result : PassResult}
    (h : Yields (showPlan files config request) result) :
    ∃ parameters secrets, (loadParameters files request.parameters).value = .ok parameters ∧
      (loadSecrets files request.secrets).value = .ok secrets := by
  obtain ⟨parameters, hparameters, h⟩ := h.of_bind
  obtain ⟨secrets, hsecrets, -⟩ := h.of_bind
  exact ⟨parameters, secrets, hparameters.of_attempt, hsecrets.of_attempt⟩

theorem results_planItems (format : OutputFormat) (plan : ExposurePlan) (unresolved : Dict String (List StoreKey)) :
    results (planItems format plan unresolved) = format.lines plan unresolved := by
  rw [planItems, results_append, results_map_result]
  split <;> exact List.append_nil _

variable {files : Files} {override : Option String} {arguments : List String}

theorem unwarned_loadConfig (files : Files) (path override : Option String) :
    Unwarned (loadConfig files path override) :=
  (Unwarned.attempt _ _).bind fun _ _ => Unwarned.pure _

theorem exists_run_loadConfig {path : Option String} {loaded : LoadedConfig}
    (h : (Config.load files path override).value = .ok loaded) (items : List Item) :
    ∃ items', (loadConfig files path override).run.run items = (.ok loaded.config, items') ∧
      results items' = results items := by
  rw [loadConfig, run_bind_ok (run_attempt_ok h _ _)]
  refine ⟨_, rfl, ?_⟩
  rw [results_append, results_records, List.append_nil]

theorem exists_run_showPlan (r : ResolveRun files override arguments) (items : List Item) :
    ∃ items', (showPlan files r.loaded.config r.request).run.run items = (.ok r.result, items') ∧
      results items' = results items ++ r.lines ∧ r.plan.withheld.members.map withheldItem <:+ items' := by
  rw [showPlan, loadParameterFile, run_bind_ok (run_attempt_ok r.parametersLoad _ _), loadSecretFile,
    run_bind_ok (run_attempt_ok r.secretsLoad _ _), run_bind_ok (run_write _ _), run_bind_ok (run_attend _ _)]
  dsimp only
  rw [run_bind_ok (run_attend _ _), run_bind_ok (run_write _ _)]
  refine ⟨_, rfl, ?_, (List.suffix_append _ _).trans (List.suffix_append _ _)⟩
  have hevent (event : Event) : results [.record event] = [] := rfl
  have hwithheld := results_map_of_none withheldItem (fun _ => rfl) r.plan.withheld.members
  simp only [results_append, results_records, results_planItems, hevent, List.append_nil]
  change _ ++ (r.lines ++ results (r.plan.withheld.members.map withheldItem)) = _
  rw [hwithheld, List.append_nil]

theorem run_of_understood {i : Invocation} (h : Invocation.ofArguments arguments = .ok i) :
    run files override arguments = .ofCommand i.verbosity (i.perform files override) := by
  rw [run, h]

section Run

variable (r : ResolveRun files override arguments)

/-- Such a run comes to its end, with the lines printed, nothing warned of, and the hints given. -/
theorem ResolveRun.exists_perform :
    ∃ items, (r.invocation.perform files override).run.run [] = (conclude r.strict r.result).run.run items ∧
      results items = r.lines ∧ warnings items = [] ∧ r.plan.withheld.members.map withheldItem <:+ items := by
  obtain ⟨items, hconfig, hloaded⟩ := exists_run_loadConfig r.configLoads []
  obtain ⟨items', hshow, hlines, hhints⟩ := exists_run_showPlan r items
  refine ⟨items', ?_, by rw [hlines, hloaded]; rfl, ?_, hhints⟩
  · rw [Invocation.perform, r.task]
    dsimp only
    rw [run_bind_ok hconfig, resolveFiles_eq, run_bind_ok hshow]
    rfl
  · have hwarned := unwarned_loadConfig files r.invocation.config override []
    have hwarned' := unwarned_showPlan files r.loaded.config r.request items
    rw [hconfig] at hwarned
    rw [hshow] at hwarned'
    exact hwarned'.trans hwarned

theorem ResolveRun.run_eq :
    run files override arguments = .ofCommand r.invocation.verbosity (r.invocation.perform files override) :=
  run_of_understood r.understood

/-- Such a run fails if a reference is left over and that is a failure. -/
theorem ResolveRun.exitCode_eq :
    (run files override arguments).exitCode = if r.result.hasLeftovers && r.strict then 1 else 0 := by
  obtain ⟨items, hperform, -⟩ := r.exists_perform
  rw [r.run_eq, exitCode_ofCommand, hperform, fst_run_conclude]
  cases r.result.hasLeftovers && r.strict <;> rfl

/-- Such a run prints what the format makes of the plan, however it ends. -/
theorem ResolveRun.output_eq : (run files override arguments).output = Outcome.textOf r.lines := by
  obtain ⟨items, hperform, hlines, -⟩ := r.exists_perform
  rw [r.run_eq, output_ofCommand, hperform, results_conclude, hlines]

end Run

/-! ### Runs on two files -/

theorem value_loadMapping {files : Files} {path content : String} (hread : files.read path = .ok content)
    (hformat : FileFormat.ofPath path = .properties) (what : String) :
    (loadMapping files what path).value = .ok (Properties.mapping content) := by
  rw [loadMapping, hread, hformat]
  rfl

theorem value_loadSecrets {files : Files} {path : String} {texts : Dict String String}
    (h : (loadMapping files "secrets" path).value = .ok texts) :
    (loadSecrets files path).value = .ok (.ofDict texts) := by
  change (loadMapping files "secrets" path).value.map Secrets.ofDict = _
  rw [h]
  rfl

/-- A directory with a file of parameters and one of secrets. -/
def twoFiles (parameters secrets : String) : Files where
  top := ""
  workingDirectory := []
  read path := if path = "p.env" then .ok parameters else if path = "s.env" then .ok secrets else .error .notFound
  readAt _ := .error .notFound

theorem loadParameters_twoFiles (parameters secrets : String) :
    (loadParameters (twoFiles parameters secrets) "p.env").value = .ok (Properties.mapping parameters) :=
  value_loadMapping rfl rfl "parameters"

theorem loadSecrets_twoFiles (parameters secrets : String) :
    (loadSecrets (twoFiles parameters secrets) "s.env").value = .ok (.ofDict (Properties.mapping secrets)) :=
  value_loadSecrets (value_loadMapping rfl rfl "secrets")

def twoFilesArguments (format : OutputFormat) : List String :=
  ["resolve", "p.env", "-s", "s.env", "-f", format.name]

/-- The run on two files, without any configuration. -/
def ResolveRun.onTwoFiles (parameters secrets : String) (format : OutputFormat) :
    ResolveRun (twoFiles parameters secrets) none (twoFilesArguments format) where
  invocation := ⟨.resolve { parameters := "p.env", secrets := "s.env", format }, {}, none⟩
  request := { parameters := "p.env", secrets := "s.env", format }
  loaded := {}
  parameters := Properties.mapping parameters
  secrets := .ofDict (Properties.mapping secrets)
  understood := by cases format <;> rfl
  task := rfl
  configLoads := rfl
  parametersLoad := loadParameters_twoFiles parameters secrets
  secretsLoad := loadSecrets_twoFiles parameters secrets

/-- What the run on two files prints. -/
def outputOnTwoFiles (parameters secrets : String) (format : OutputFormat) : String :=
  (run (twoFiles parameters secrets) none (twoFilesArguments format)).output

end SecretRefs.Command

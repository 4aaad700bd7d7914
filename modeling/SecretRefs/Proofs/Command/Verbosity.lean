import Mathlib.Data.List.Dedup
import SecretRefs.Proofs.Command.Arguments
import SecretRefs.Proofs.Command.Resolve
import SecretRefs.Proofs.Dict

/-! Verbosity and strictness. The task and the configuration settle what a run prints and how it ends, and strictness
has no part in what it prints. Quietness leaves the warnings, which only a resolution gives, and the message about a
failure. -/

namespace SecretRefs.Command

variable {files : Files} {override : Option String}

/-! ### What is printed -/

theorem perform_congr {i i' : Invocation} (htask : i.task = i'.task) (hconfig : i.config = i'.config) :
    i.perform files override = i'.perform files override := by
  rw [Invocation.perform, Invocation.perform, htask, hconfig]

/-- Strictness has its say at the end, where nothing is printed any more. -/
theorem results_perform_core (i : Invocation) :
    results ((i.perform files override).run.run []).2 =
      results (({ i with task := i.task.core false }.perform files override).run.run []).2 := by
  obtain ⟨task, verbosity, config⟩ := i
  cases task with
  | resolve request =>
      refine results_bind_congr (fun config items => ?_) _ _
      rw [resolveFiles_eq, resolveFiles_eq]
      refine results_bind_congr (fun result items => ?_) _ _
      rw [results_conclude, results_conclude]
  | _ => rfl

theorem results_perform_congr {i i' : Invocation} (htask : i.task.core false = i'.task.core false)
    (hconfig : i.config = i'.config) :
    results ((i.perform files override).run.run []).2 = results ((i'.perform files override).run.run []).2 := by
  have hcore : ({ i with task := i.task.core false } : Invocation).perform files override =
      ({ i' with task := i'.task.core false } : Invocation).perform files override := perform_congr htask hconfig
  rw [results_perform_core i, results_perform_core i', hcore]

theorem output_exitCode_congr {arguments arguments' : List String} {i i' : Invocation}
    (hi : Invocation.ofArguments arguments = .ok i) (hi' : Invocation.ofArguments arguments' = .ok i')
    (htask : i.task = i'.task) (hconfig : i.config = i'.config) :
    (run files override arguments).output = (run files override arguments').output ∧
      (run files override arguments).exitCode = (run files override arguments').exitCode := by
  rw [run_of_understood hi, run_of_understood hi', perform_congr htask hconfig, output_ofCommand, output_ofCommand,
    exitCode_ofCommand, exitCode_ofCommand]
  exact ⟨rfl, rfl⟩

/-! ### What is warned of -/

theorem warnings_scanItems (ns : Namespace) (json : Bool) (parameters : Dict String String)
    (report : ReferenceReport) : warnings (scanItems ns json parameters report) = [] := by
  unfold scanItems
  split
  · rfl
  split
  · rfl
  · change warnings (List.map _ _ ++ List.map _ _) = []
    rw [warnings_append, warnings_map_of_none _ fun _ => rfl, warnings_map_of_none _ fun _ => rfl]
    rfl

theorem warnings_extractItems (ns : Namespace) (json : Bool) (keys : List StoreKey) :
    warnings (extractItems ns json keys) = [] := by
  unfold extractItems
  split
  · rfl
  split
  · rfl
  · exact warnings_map_of_none _ (fun _ => rfl) _

theorem exists_of_yields_loadConfig {path : Option String} {config : Config}
    (h : Yields (loadConfig files path override) config) :
    ∃ loaded, (Config.load files path override).value = .ok loaded := by
  obtain ⟨loaded, hloaded, -⟩ := h.of_bind
  exact ⟨loaded, hloaded.of_attempt⟩

/-- Nothing else warns than a resolution that has loaded the configuration and the files. -/
theorem unwarned_perform {arguments : List String} {i : Invocation}
    (hi : Invocation.ofArguments arguments = .ok i) (h : IsEmpty (ResolveRun files override arguments)) :
    Unwarned (i.perform files override) := by
  unfold Invocation.perform
  split
  · exact .write rfl
  · next path json _ =>
    refine (unwarned_loadConfig files _ override).bind fun config _ => (Unwarned.attempt _ _).bind fun parameters _ => ?_
    exact (Unwarned.attend _).bind fun report _ => .write (warnings_scanItems _ _ _ _)
  · next value json _ =>
    exact (unwarned_loadConfig files _ override).bind fun config _ => .write (warnings_extractItems _ _ _)
  · next request htask =>
    refine (unwarned_loadConfig files _ override).bind fun config hconfig => ?_
    rw [resolveFiles_eq]
    refine (unwarned_showPlan files config request).bind fun result hresult => ?_
    obtain ⟨loaded, hloaded⟩ := exists_of_yields_loadConfig hconfig
    obtain ⟨parameters, secrets, hparameters, hsecrets⟩ := exists_of_yields_showPlan hresult
    exact (h.false ⟨i, request, loaded, parameters, secrets, hi, htask, hloaded, hparameters, hsecrets⟩).elim

theorem notices_of_isEmpty {arguments : List String} {i : Invocation}
    (hi : Invocation.ofArguments arguments = .ok i) (hquiet : i.verbosity.quiet = true)
    (h : IsEmpty (ResolveRun files override arguments)) :
    notices (run files override arguments).diagnostics =
      (failure? (i.perform files override)).toList.map Failure.text := by
  have hwarnings : warnings _ = [] := unwarned_perform hi h []
  rw [run_of_understood hi, notices_ofCommand hquiet, hwarnings, List.nil_append]

theorem isEmpty_resolveRun {arguments : List String} {i : Invocation}
    (hi : Invocation.ofArguments arguments = .ok i) (htask : ∀ request, i.task ≠ .resolve request) :
    IsEmpty (ResolveRun files override arguments) := by
  refine ⟨fun r => htask r.request ?_⟩
  rw [← r.task, Except.ok.inj (hi.symm.trans r.understood)]

/-! ### What the message about a failure counts -/

namespace ResolveRun

variable {arguments : List String} (r : ResolveRun files override arguments)

/-- How many secrets the leftover references ask for. -/
def missing : Nat := (r.result.unresolved.values.flatten.map StoreKey.name).dedup.length

theorem length_missingSecrets : r.result.missingSecrets.length = r.missing := by
  have hperm : r.result.missingSecrets.Perm (r.result.unresolved.values.flatten.map StoreKey.name).dedup := by
    refine (List.perm_ext_iff_of_nodup (nodup_distinctNames _) (List.nodup_dedup _)).2 fun name => ?_
    rw [List.mem_dedup]
    exact mem_distinctNames
  exact hperm.length_eq

/-- The message about leftover references. -/
def report : String := "Error: " ++ s!"{r.missing} secret references could not be resolved"

theorem text_leftoverFailure : (leftoverFailure r.result).text = r.report := by
  rw [leftoverFailure, r.length_missingSecrets]
  rfl

theorem failure?_perform :
    failure? (r.invocation.perform files override) =
      if r.result.hasLeftovers && r.strict then some (leftoverFailure r.result) else none := by
  obtain ⟨items, hperform, -⟩ := r.exists_perform
  rw [failure?, hperform, fst_run_conclude]
  cases r.result.hasLeftovers && r.strict <;> rfl

theorem exitCode_ne_zero_iff :
    (run files override arguments).exitCode ≠ 0 ↔ r.result.hasLeftovers = true ∧ r.strict = true := by
  rw [r.exitCode_eq, ← Bool.and_eq_true_iff]
  cases r.result.hasLeftovers && r.strict <;> decide

theorem notices_eq (hquiet : r.invocation.verbosity.quiet = true) :
    notices (run files override arguments).diagnostics =
      r.result.unresolved.entries.map warningLine ++
        if (run files override arguments).exitCode = 0 then [] else [r.report] := by
  obtain ⟨items, hperform, -, hitems, -⟩ := r.exists_perform
  have hwarnings := warnings_conclude r.strict r.result items
  rw [hitems, List.nil_append] at hwarnings
  have hmessage : (failure? (r.invocation.perform files override)).toList.map Failure.text =
      if (run files override arguments).exitCode = 0 then [] else [r.report] := by
    rw [r.failure?_perform, r.exitCode_eq]
    cases r.result.hasLeftovers && r.strict with
    | true => exact congrArg (fun text => [text]) r.text_leftoverFailure
    | false => rfl
  rw [← hmessage, r.run_eq, notices_ofCommand hquiet, hperform, hwarnings]

end ResolveRun

/-- The message about a failure comes last. -/
theorem getLast?_diagnostics_ofCommand (verbosity : Verbosity) {work : CommandM Unit} {failure : Failure}
    (h : failure? work = some failure) :
    (Outcome.ofCommand verbosity work).diagnostics.getLast? = some (.notice failure.text) := by
  rw [Outcome.ofCommand]
  rcases hrun : work.run.run [] with ⟨failure' | ⟨⟩, items⟩ <;> rw [failure?, hrun] at h
  · cases h
    exact List.getLast?_concat
  · cases h

/-! ### Every run -/

/-- What verbosity and strictness leave as it is, and what they decide, in the runs on some files. -/
structure ResultsStand (files : Files) (override : Option String) : Prop where
  /-- The task and the configuration settle what is printed and how the run ends. -/
  settled {arguments arguments' : List String} {i i' : Invocation} :
    Invocation.ofArguments arguments = .ok i → Invocation.ofArguments arguments' = .ok i' →
    i.task = i'.task → i.config = i'.config →
    (run files override arguments).output = (run files override arguments').output ∧
      (run files override arguments).exitCode = (run files override arguments').exitCode
  /-- Words for verbosity change none of the two, wherever and however often they are put in. -/
  verbosity {arguments padded : List String} {i i' : Invocation} :
    Padded VerbosityWord arguments padded →
    Invocation.ofArguments arguments = .ok i → Invocation.ofArguments padded = .ok i' →
    (run files override arguments).output = (run files override padded).output ∧
      (run files override arguments).exitCode = (run files override padded).exitCode
  /-- The word for strictness, too, leaves what is printed. -/
  strictness {arguments padded : List String} {i i' : Invocation} :
    Padded (fun word => word = "--strict" ∨ VerbosityWord word) arguments padded →
    Invocation.ofArguments arguments = .ok i → Invocation.ofArguments padded = .ok i' →
    (run files override arguments).output = (run files override padded).output
  /-- A quiet resolution says which references are left over, parameter by parameter, and why it has failed. -/
  quietResolution {arguments : List String} (r : ResolveRun files override arguments) :
    r.invocation.verbosity.quiet = true →
    notices (run files override arguments).diagnostics =
        r.result.unresolved.entries.map warningLine ++
          (if (run files override arguments).exitCode = 0 then [] else [r.report]) ∧
      r.result.unresolved.keys.Pairwise (fun a b => compare a b = .lt)
  /-- What is no resolution says, if it is quiet, why it has failed, and nothing more. -/
  quietOther {arguments : List String} {i : Invocation} :
    Invocation.ofArguments arguments = .ok i → i.verbosity.quiet = true →
    (∀ request, i.task ≠ .resolve request) →
    notices (run files override arguments).diagnostics =
      (failure? (i.perform files override)).toList.map Failure.text
  /-- So does a resolution that does not load everything. -/
  quietUnloaded {arguments : List String} {i : Invocation} :
    Invocation.ofArguments arguments = .ok i → i.verbosity.quiet = true →
    IsEmpty (ResolveRun files override arguments) →
    notices (run files override arguments).diagnostics =
      (failure? (i.perform files override)).toList.map Failure.text
  /-- The exit code tells whether there was a failure, and the message about it comes last. -/
  failure {arguments : List String} {i : Invocation} :
    Invocation.ofArguments arguments = .ok i →
    ((run files override arguments).exitCode = 0 ↔ failure? (i.perform files override) = none) ∧
      ∀ failure, failure? (i.perform files override) = some failure →
        (run files override arguments).diagnostics.getLast? = some (.notice failure.text)
  /-- With everything loaded, a resolution fails over leftover references alone, and says how many secrets they ask
  for. -/
  leftovers {arguments : List String} (r : ResolveRun files override arguments) :
    ((run files override arguments).exitCode ≠ 0 ↔ r.result.hasLeftovers = true ∧
      (r.request.strict = true ∨ r.loaded.config.failOnUnresolved = true)) ∧
    ((run files override arguments).exitCode ≠ 0 →
      (run files override arguments).diagnostics.getLast? = some (.notice r.report))

/-- **Verbosity and strictness do not touch the results.** -/
theorem resultsStand (files : Files) (override : Option String) : ResultsStand files override where
  settled := output_exitCode_congr
  verbosity hpadded hi hi' := by
    have hneutral {word : String} (hword : VerbosityWord word) : Neutral true word := hword.neutral
    obtain ⟨htask, hconfig⟩ := hpadded.core_eq hneutral hi hi'
    rw [Task.core_true, Task.core_true] at htask
    exact output_exitCode_congr hi hi' htask hconfig
  strictness hpadded hi hi' := by
    have hneutral {word : String} (hword : word = "--strict" ∨ VerbosityWord word) : Neutral false word :=
      hword.elim (fun h => h ▸ Neutral.strict) VerbosityWord.neutral
    obtain ⟨htask, hconfig⟩ := hpadded.core_eq hneutral hi hi'
    rw [run_of_understood hi, run_of_understood hi', output_ofCommand, output_ofCommand,
      results_perform_congr htask hconfig]
  quietResolution r hquiet := ⟨r.notices_eq hquiet, List.pairwise_map.2 r.result.unresolved.increasing⟩
  quietOther hi hquiet htask := notices_of_isEmpty hi hquiet (isEmpty_resolveRun hi htask)
  quietUnloaded hi hquiet hnone := notices_of_isEmpty hi hquiet hnone
  failure hi := by
    rw [run_of_understood hi]
    exact ⟨exitCode_ofCommand_eq_zero_iff _ _, fun failure h => getLast?_diagnostics_ofCommand _ h⟩
  leftovers r := by
    refine ⟨by rw [r.exitCode_ne_zero_iff, ResolveRun.strict, Bool.or_eq_true_iff], fun hcode => ?_⟩
    have hfailure := r.failure?_perform
    rw [if_pos (Bool.and_eq_true_iff.2 (r.exitCode_ne_zero_iff.1 hcode))] at hfailure
    rw [r.run_eq, getLast?_diagnostics_ofCommand _ hfailure, r.text_leftoverFailure]

example : run (twoFiles "a=%vault:db%\nb=%vault:ci%/%vault:db%" "ci=ok") none
      ["-q", "resolve", "p.env", "-s", "s.env", "--strict", "--all"] =
    { exitCode := 1
      output := "b=ok/%vault:db%\n"
      diagnostics := [.notice "⚠ Parameter 'a' has unresolved references: %vault:db%",
        .notice "⚠ Parameter 'b' has unresolved references: %vault:db%",
        .notice "Error: 1 secret references could not be resolved"] } := by
  decide +kernel

end SecretRefs.Command

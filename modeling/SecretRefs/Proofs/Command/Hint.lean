import SecretRefs.Proofs.Command.Resolve
import SecretRefs.Proofs.Exposure.Plan
import SecretRefs.Proofs.Pass.Stages

/-! The hint for a withheld parameter. It names the flag for the kind of the parameter, and with this flag set a
resolution lets the parameter out. There are two exceptions: no flag lets out the bare `env.`, and one of the flags
is named in its own hint, so that setting it overwrites the reference. -/

namespace SecretRefs

open ParameterKind (environmentLead)

namespace Command

variable {files : Files} {override : Option String} {arguments : List String}

/-! ### Plans for parameters -/

def updatesFor (config : Config) (secrets : Secrets) (parameters : Dict String String) : Dict String String :=
  (runPass config.secretNamespace secrets parameters.entries).value.updates

/-- The plan for some parameters, with or without the switch that lets everything out. -/
def planFor (config : Config) (all : Bool) (secrets : Secrets) (parameters : Dict String String) : ExposurePlan :=
  .ofUpdates (effectiveFlags all config.behaviour parameters) (updatesFor config secrets parameters)

/-- A run that resolves these parameters. -/
structure ResolveRun.Resolves (r : ResolveRun files override arguments) (config : Config) (all : Bool)
    (secrets : Secrets) (parameters : Dict String String) : Prop where
  config : r.loaded.config = config
  all : r.request.all = all
  secrets : r.secrets = secrets
  parameters : r.parameters = parameters

/-- The flag that the hint for a parameter names. -/
def hintedFlag (name : String) : String := ExposureFlags.parameterFor (.ofName name)

/-- The line on standard error with the hint for a parameter. -/
def hintLine (name : String) : String :=
  let kind := ParameterKind.ofName name
  "ℹ " ++ s!"Withheld {kind.display} parameter '{name}' (enable with {hintedFlag name})"

/-- The parameters after the hint for one of them has been followed. -/
def enabled (parameters : Dict String String) (name : String) : Dict String String :=
  parameters.insert (hintedFlag name) "true"

section Plan

variable {config : Config} {all : Bool} {secrets : Secrets} {parameters : Dict String String} {name : String}

theorem ResolveRun.Resolves.plan_eq {r : ResolveRun files override arguments}
    (h : r.Resolves config all secrets parameters) : r.plan = planFor config all secrets parameters := by
  rw [← h.config, ← h.all, ← h.secrets, ← h.parameters]
  rfl

/-- A run that is not quiet gives a hint for every withheld parameter. -/
theorem ResolveRun.hint_mem_diagnostics (r : ResolveRun files override arguments)
    (hloud : r.invocation.verbosity.quiet = false) (hname : name ∈ r.plan.withheld.members) :
    .notice (hintLine name) ∈ (run files override arguments).diagnostics := by
  obtain ⟨items, hperform, -, -, hhints⟩ := r.exists_perform
  obtain ⟨added, hadded, -⟩ := exists_snd_run_conclude r.strict r.result items
  have hitem : withheldItem name ∈ items ++ added :=
    List.mem_append_left _ (hhints.subset (List.mem_map_of_mem hname))
  rw [← hadded, ← hperform] at hitem
  rw [r.run_eq]
  refine mem_diagnostics_ofCommand hitem ?_ rfl
  change (!r.invocation.verbosity.quiet) = true
  rw [hloud]
  rfl

/-! ### The flag that is set -/

theorem allows_enabled (all : Bool) (defaults : ExposureFlags) (parameters : Dict String String) (name : String) :
    (effectiveFlags all defaults (enabled parameters name)).allows (.ofName name) = true := by
  have hon : ExposureFlags.isOn "true" = true := by decide
  cases all with
  | true => cases ParameterKind.ofName name <;> rfl
  | false =>
      change (ExposureFlags.ofParameters defaults (enabled parameters name).entries).allows _ = true
      rw [ExposureFlags.allows_ofParameters_entries, enabled, Dict.get?_insert, hintedFlag, if_pos rfl,
        Option.map_some, hon, Option.getD_some]

theorem exposes_enabled_iff :
    (effectiveFlags all config.behaviour (enabled parameters name)).Exposes name ↔ name ≠ environmentLead :=
  and_iff_right (allows_enabled all config.behaviour parameters name)

theorem hintedFlag_eq_self_iff : hintedFlag name = name ↔ name = ExposureFlags.exposeConfigParameter := by
  constructor
  · intro h
    cases hkind : ParameterKind.ofName name with
    | environment =>
        rw [hintedFlag, hkind] at h
        rw [← h] at hkind
        exact absurd hkind (by decide)
    | system | config =>
        rw [hintedFlag, hkind] at h
        exact h.symm
  · rintro rfl
    decide

/-- The flag that is set holds no reference, and all other parameters keep their values. -/
theorem get?_updatesFor_enabled :
    (updatesFor config secrets (enabled parameters name)).get? name =
      if name = ExposureFlags.exposeConfigParameter then none else (updatesFor config secrets parameters).get? name := by
  have hflag : resolve config.secretNamespace secrets "true" = .unchanged := if_neg (by decide)
  rw [updatesFor, updatesFor, get?_updates_entries, get?_updates_entries, enabled, Dict.get?_insert]
  by_cases hname : name = ExposureFlags.exposeConfigParameter
  · rw [if_pos hname, if_pos (hintedFlag_eq_self_iff.2 hname).symm, Option.bind_some, hflag]
    rfl
  · have hother : name ≠ hintedFlag name := fun h => hname (hintedFlag_eq_self_iff.1 h.symm)
    rw [if_neg hname, if_neg hother]

theorem letsOut_enabled_iff {value : String} (hvalue : (updatesFor config secrets parameters).get? name = some value) :
    (planFor config all secrets (enabled parameters name)).LetsOut name value ↔
      name ≠ environmentLead ∧ name ≠ ExposureFlags.exposeConfigParameter := by
  rw [planFor, ExposurePlan.letsOut_ofUpdates_iff, exposes_enabled_iff, get?_updatesFor_enabled, hvalue]
  by_cases hname : name = ExposureFlags.exposeConfigParameter <;> simp [hname]

end Plan

/-- The hint for a parameter is given, and it keeps what it promises. -/
structure HintWorks (config : Config) (all : Bool) (secrets : Secrets) (parameters : Dict String String)
    (name : String) : Prop where
  given {files : Files} {override : Option String} {arguments : List String}
    (r : ResolveRun files override arguments) : r.Resolves config all secrets parameters →
    r.invocation.verbosity.quiet = false → .notice (hintLine name) ∈ (run files override arguments).diagnostics
  /-- With the flag set that it names, the parameter is let out, with the value to which it resolves. -/
  letsOut : ∃ value, (updatesFor config secrets parameters).get? name = some value ∧
    (planFor config all secrets (enabled parameters name)).LetsOut name value
  /-- So it is in every run with the flag set. -/
  again {files : Files} {override : Option String} {arguments : List String}
    (r : ResolveRun files override arguments) : r.Resolves config all secrets (enabled parameters name) →
    ∃ value, (updatesFor config secrets parameters).get? name = some value ∧ r.plan.LetsOut name value

section Hint

variable {config : Config} {all : Bool} {secrets : Secrets} {parameters : Dict String String} {name : String}

/-- **The hint for a withheld parameter works**, unless the parameter is the bare `env.` or the flag that the hint
names. -/
theorem hintWorks_iff (h : name ∈ (planFor config all secrets parameters).withheld.members) :
    HintWorks config all secrets parameters name ↔
      name ≠ environmentLead ∧ name ≠ ExposureFlags.exposeConfigParameter := by
  constructor
  · intro hworks
    obtain ⟨value, hvalue, hout⟩ := hworks.letsOut
    exact (letsOut_enabled_iff hvalue).1 hout
  · intro hname
    obtain ⟨value, hvalue⟩ := (Dict.mem_keys_iff _).1 ((ExposurePlan.mem_withheld _ _).1 h).1
    have hout : (planFor config all secrets (enabled parameters name)).LetsOut name value :=
      (letsOut_enabled_iff hvalue).2 hname
    refine ⟨fun r hr hloud => ?_, ⟨value, hvalue, hout⟩, fun r hr => ⟨value, hvalue, ?_⟩⟩
    · rw [← hr.plan_eq] at h
      exact r.hint_mem_diagnostics hloud h
    · rwa [hr.plan_eq]

/-- A variable is let out once its flag is set. -/
theorem hintWorks_variable :
    "env.A" ∈ (planFor {} false (.ofTexts [("a", "x")]) (.ofList [("env.A", "%vault:a%")])).withheld.members ∧
      HintWorks {} false (.ofTexts [("a", "x")]) (.ofList [("env.A", "%vault:a%")]) "env.A" :=
  ⟨by decide +kernel, (hintWorks_iff (by decide +kernel)).2 (by decide)⟩

/-- The bare `env.` is not let out, though the flag is set that its hint names. -/
theorem not_hintWorks_environmentLead :
    environmentLead ∈ (planFor {} false (.ofTexts [("a", "x")]) (.ofList [("env.", "%vault:a%")])).withheld.members ∧
      (ResolveRun.onTwoFiles "env.=%vault:a%\nvaultref.set.env=true" "a=x" .properties).Resolves {} false
        (.ofTexts [("a", "x")]) (enabled (.ofList [("env.", "%vault:a%")]) environmentLead) ∧
      outputOnTwoFiles "env.=%vault:a%\nvaultref.set.env=true" "a=x" .properties = "" ∧
      ¬ HintWorks {} false (.ofTexts [("a", "x")]) (.ofList [("env.", "%vault:a%")]) environmentLead := by
  refine ⟨by decide +kernel, ⟨rfl, rfl, by decide +kernel, by decide +kernel⟩, by decide +kernel, fun hworks => ?_⟩
  obtain ⟨value, hvalue, hout⟩ := hworks.letsOut
  exact ((letsOut_enabled_iff hvalue).1 hout).1 rfl

end Hint

end Command

end SecretRefs

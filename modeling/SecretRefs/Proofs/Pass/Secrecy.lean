import Mathlib.Data.List.Forall2
import SecretRefs.Command.Format
import SecretRefs.Proofs.Pass.Outcome

/-! What a pass shows of its secrets. As long as no secret holds a percent sign, the names alone decide which keys
of a value get a text, which stay, and whether the value changes. Two runs whose secrets have the same names
therefore go the same way parameter by parameter and differ at most in the new values, which no record and no
printed form of the result holds. -/

namespace SecretRefs

variable {secrets others : Secrets}

/-! ### One parameter -/

/-- Two outcomes for a parameter that differ at most in its new value. -/
structure ParameterOutcome.Alike (o o' : ParameterOutcome) : Prop where
  parameter : o.parameter = o'.parameter
  resolvedNames : o.resolvedNames = o'.resolvedNames
  isUnchanged : o.resolution.isUnchanged = o'.resolution.isUnchanged
  leftover : o.leftover = o'.leftover

/-- Whether there is an update shows in the resolution without its text. -/
theorem ParameterOutcome.map_fst_update? (o : ParameterOutcome) :
    o.update?.map Prod.fst = if o.resolution.isUnchanged then none else some o.parameter := by
  rw [update?]
  cases o.resolution with
  | unchanged => rfl
  | resolved text => rfl

namespace ParameterOutcome.Alike

variable {o o' : ParameterOutcome}

theorem events (h : o.Alike o') : o.events = o'.events := by
  have haudit : o.audit = o'.audit := by
    rw [audit, audit, h.parameter, h.resolvedNames, h.leftover]
  rw [ParameterOutcome.events, ParameterOutcome.events, haudit, h.isUnchanged, h.parameter]

theorem unresolved? (h : o.Alike o') : o.unresolved? = o'.unresolved? := by
  rw [ParameterOutcome.unresolved?, ParameterOutcome.unresolved?, h.leftover, h.parameter]

theorem update? (h : o.Alike o') : o.update?.map Prod.fst = o'.update?.map Prod.fst := by
  rw [map_fst_update?, map_fst_update?, h.isUnchanged, h.parameter]

end ParameterOutcome.Alike

theorem contains_eq_of_keys (hnames : secrets.keys = others.keys) (name : String) :
    secrets.contains name = others.contains name := by
  rw [Bool.eq_iff_iff, Dict.contains_iff, Dict.contains_iff, ← Dict.mem_keys_iff, ← Dict.mem_keys_iff, hnames]

/-- Which keys get a text is a matter of the names, and what is left and what changes depends on that alone. -/
theorem alike_outcomeOf (hnames : secrets.keys = others.keys) (hfree : secrets.PercentFree)
    (hfree' : others.PercentFree) (ns : Namespace) (p : String × String) :
    (outcomeOf ns secrets p).Alike (outcomeOf ns others p) where
  parameter := rfl
  resolvedNames := by
    rw [outcomeOf, outcomeOf, funext (contains_eq_of_keys hnames)]
  isUnchanged := by
    rw [Bool.eq_iff_iff, outcomeOf, outcomeOf, isUnchanged_resolve_iff hfree, isUnchanged_resolve_iff hfree']
    simp only [contains_eq_of_keys hnames]
  leftover := by
    rw [outcomeOf, outcomeOf, extract_finalText hfree, extract_finalText hfree']
    simp only [contains_eq_of_keys hnames]

/-! ### One parameter after the other -/

/-- Both runs skip the same parameters, and each outcome of the one is like that of the other. -/
theorem alike_outcomes (hnames : secrets.keys = others.keys) (hfree : secrets.PercentFree)
    (hfree' : others.PercentFree) (ns : Namespace) (parameters : List (String × String)) :
    List.Forall₂ ParameterOutcome.Alike (outcomes ns secrets parameters) (outcomes ns others parameters) := by
  rw [outcomes_eq_map, outcomes_eq_map, List.forall₂_map_left_iff, List.forall₂_map_right_iff, List.forall₂_same]
  exact fun p _ => alike_outcomeOf hnames hfree hfree' ns p

/-- Over like outcomes, a function that does not see the new value lists the same. -/
theorem map_eq_of_alike {α : Type} {f : ParameterOutcome → α} {os os' : List ParameterOutcome}
    (h : List.Forall₂ ParameterOutcome.Alike os os') (hf : ∀ o o', o.Alike o' → f o = f o') :
    os.map f = os'.map f := by
  rw [← List.forall₂_eq_eq_eq, List.forall₂_map_left_iff, List.forall₂_map_right_iff]
  exact h.imp hf

theorem filterMap_eq_of_alike {α : Type} {f : ParameterOutcome → Option α} {os os' : List ParameterOutcome}
    (h : List.Forall₂ ParameterOutcome.Alike os os') (hf : ∀ o o', o.Alike o' → f o = f o') :
    os.filterMap f = os'.filterMap f := by
  calc
    os.filterMap f = (os.map f).filterMap id := by rw [List.filterMap_map]; rfl
    _ = (os'.map f).filterMap id := by rw [map_eq_of_alike h hf]
    _ = os'.filterMap f := by rw [List.filterMap_map]; rfl

section Alike

variable {os os' : List ParameterOutcome} (h : List.Forall₂ ParameterOutcome.Alike os os')
include h

theorem events_eq_of_alike : os.flatMap ParameterOutcome.events = os'.flatMap ParameterOutcome.events := by
  rw [List.flatMap_def, List.flatMap_def, map_eq_of_alike h fun _ _ => ParameterOutcome.Alike.events]

theorem unresolved_ofOutcomes_eq_of_alike :
    (PassResult.ofOutcomes os).unresolved = (PassResult.ofOutcomes os').unresolved := by
  rw [PassResult.ofOutcomes, PassResult.ofOutcomes,
    filterMap_eq_of_alike h fun _ _ => ParameterOutcome.Alike.unresolved?]

theorem keys_updates_ofOutcomes_eq_of_alike :
    (PassResult.ofOutcomes os).updates.keys = (PassResult.ofOutcomes os').updates.keys := by
  apply Dict.keys_ofList_eq
  rw [List.map_filterMap, List.map_filterMap]
  exact filterMap_eq_of_alike h fun _ _ => ParameterOutcome.Alike.update?

end Alike

/-! ### Two runs -/

/-- Two runs that show the same: their records, the keys left, the names of the parameters that changed, and both
printed forms of the result. -/
structure SameReport (run run' : Logged PassResult) : Prop where
  events : run.events = run'.events
  unresolved : run.value.unresolved = run'.value.unresolved
  updated : run.value.updates.keys = run'.value.updates.keys
  diagnostic : run.value.diagnostic = run'.value.diagnostic
  serialized : (Command.passDocument run.value).compact = (Command.passDocument run'.value).compact

theorem PassResult.warnings_eq_of_unresolved {r r' : PassResult} (h : r.unresolved = r'.unresolved) :
    r.warnings = r'.warnings := by
  rw [warnings, warnings, missingSecrets, missingSecrets, h]

theorem PassResult.diagnostic_eq_of_unresolved {r r' : PassResult} (hkeys : r.updates.keys = r'.updates.keys)
    (h : r.unresolved = r'.unresolved) : r.diagnostic = r'.diagnostic := by
  unfold diagnostic
  rw [hkeys, h]

theorem events_runPass (ns : Namespace) (secrets : Secrets) (parameters : List (String × String)) :
    (runPass ns secrets parameters).events =
      (outcomes ns secrets parameters).flatMap ParameterOutcome.events ++
        (runPass ns secrets parameters).value.warnings := rfl

theorem value_runPass (ns : Namespace) (secrets : Secrets) (parameters : List (String × String)) :
    (runPass ns secrets parameters).value = .ofOutcomes (outcomes ns secrets parameters) := rfl

/-- **A pass does not show its secrets.** Runs whose secrets have the same names, and hold no percent sign, report
the same. -/
theorem sameReport_runPass (ns : Namespace) {secrets others : Secrets} (parameters : List (String × String))
    (hnames : secrets.keys = others.keys) (hfree : secrets.PercentFree) (hfree' : others.PercentFree) :
    SameReport (runPass ns secrets parameters) (runPass ns others parameters) := by
  have halike := alike_outcomes hnames hfree hfree' ns parameters
  have hunresolved := unresolved_ofOutcomes_eq_of_alike halike
  have hupdated := keys_updates_ofOutcomes_eq_of_alike halike
  rw [← value_runPass, ← value_runPass] at hunresolved hupdated
  exact
    { events := by
        rw [events_runPass, events_runPass, events_eq_of_alike halike,
          PassResult.warnings_eq_of_unresolved hunresolved]
      unresolved := hunresolved
      updated := hupdated
      diagnostic := PassResult.diagnostic_eq_of_unresolved hupdated hunresolved
      serialized := by rw [Command.passDocument, Command.passDocument, hunresolved] }

/-- A parameter comes twice, one value keeps a key, and a secret reads like that key. -/
theorem sameReport_runPass_partial :
    SameReport
      (runPass .standard (Secrets.ofTexts [("a", "x y"), ("c", "")])
        [("p", "5% %vault:a%%vault:b%"), ("p", "%vault:c%"), ("q", "%env.HOME%")])
      (runPass .standard (Secrets.ofTexts [("c", "vault:b"), ("a", "")])
        [("p", "5% %vault:a%%vault:b%"), ("p", "%vault:c%"), ("q", "%env.HOME%")]) :=
  sameReport_runPass .standard _ (by decide) (by decide) (by decide)

end SecretRefs

import SecretRefs.Proofs.Exposure.Plan
import SecretRefs.Proofs.Pass.Scope
import SecretRefs.Proofs.Pass.Secrecy
import SecretRefs.Proofs.Pass.Stages

/-! What is seen of secrets that only withheld parameters ask for. Two mappings that agree on all other secrets make
the same of the exposed parameters. Of a withheld one there is a trace: whether it has changed, and the references in
its final text, which is where the text of a secret can show. -/

namespace SecretRefs

variable {ns : Namespace} {secrets others : Secrets}

/-! ### One value -/

section Value

variable {value : String}

/-- What is seen of a value that is not shown. -/
@[ext]
structure Trace where
  unchanged : Bool
  /-- The keys in the final text. -/
  leftover : List StoreKey
  deriving DecidableEq

def trace (ns : Namespace) (secrets : Secrets) (value : String) : Trace where
  unchanged := (resolve ns secrets value).isUnchanged
  leftover := extract ns ((resolve ns secrets value).finalText value)

theorem unchanged_trace : (trace ns secrets value).unchanged = (resolve ns secrets value).isUnchanged := by
  rw [trace]

theorem leftover_trace :
    (trace ns secrets value).leftover = extract ns ((resolve ns secrets value).finalText value) := by
  rw [trace]

theorem trace_congr (h : ∀ k ∈ extract ns value, secrets.lookup? k.name = others.lookup? k.name) :
    trace ns secrets value = trace ns others value := by
  rw [trace, trace, resolve_congr h]

theorem exists_text?_eq_some_iff :
    (∃ text, (resolve ns secrets value).text? = some text) ↔ (trace ns secrets value).unchanged = false := by
  rw [unchanged_trace]
  cases resolve ns secrets value <;> simp [Resolution.text?, Resolution.isUnchanged]

theorem leftover?_eq_iff :
    leftover? ns secrets value = leftover? ns others value ↔
      (trace ns secrets value).leftover = (trace ns others value).leftover := by
  constructor
  · intro h
    rw [leftover_trace, leftover_trace, ← getD_leftover?, ← getD_leftover?, h]
  · intro h
    rw [leftover_trace, leftover_trace] at h
    rw [leftover?, leftover?, h]

/-- The texts of the keys are enough to tell them. -/
theorem leftover?_key_inj
    (h : ((leftover? ns secrets value).map fun keys => keys.map StoreKey.key) =
      (leftover? ns others value).map fun keys => keys.map StoreKey.key) :
    leftover? ns secrets value = leftover? ns others value := by
  have hgetD (keys? : Option (List StoreKey)) :
      (keys?.getD []).map StoreKey.key = (keys?.map fun keys => keys.map StoreKey.key).getD [] := by
    cases keys? <;> rfl
  have htexts : (extract ns ((resolve ns secrets value).finalText value)).map StoreKey.key =
      (extract ns ((resolve ns others value).finalText value)).map StoreKey.key := by
    rw [← getD_leftover?, ← getD_leftover?, hgetD, hgetD, h]
  rw [leftover?_eq_iff, leftover_trace, leftover_trace, extract_key_inj htexts]

/-- Without a percent sign in any secret, the trace is a matter of the names alone. -/
theorem trace_eq_of_percentFree (hnames : secrets.keys = others.keys) (hfree : secrets.PercentFree)
    (hfree' : others.PercentFree) (ns : Namespace) (value : String) :
    trace ns secrets value = trace ns others value := by
  have halike := alike_outcomeOf hnames hfree hfree' ns ("", value)
  exact Trace.ext halike.isUnchanged halike.leftover

end Value

/-! ### A pass and its plan -/

/-- Two mappings give the same text to every secret that an exposed parameter asks for. -/
def AgreeOnExposed (ns : Namespace) (flags : ExposureFlags) (parameters : Dict String String)
    (secrets others : Secrets) : Prop :=
  ∀ p ∈ parameters.entries, flags.Exposes p.1 → ∀ k ∈ extract ns p.2, secrets.lookup? k.name = others.lookup? k.name

/-- No withheld parameter has different traces under two mappings. -/
def SameTraces (ns : Namespace) (flags : ExposureFlags) (parameters : Dict String String)
    (secrets others : Secrets) : Prop :=
  ∀ p ∈ parameters.entries, ¬ flags.Exposes p.1 → trace ns secrets p.2 = trace ns others p.2

instance (ns : Namespace) (flags : ExposureFlags) (parameters : Dict String String) (secrets others : Secrets) :
    Decidable (AgreeOnExposed ns flags parameters secrets others) :=
  inferInstanceAs (Decidable (∀ p ∈ parameters.entries, _ → ∀ k ∈ extract ns p.2, _))

instance (ns : Namespace) (flags : ExposureFlags) (parameters : Dict String String) (secrets others : Secrets) :
    Decidable (SameTraces ns flags parameters secrets others) :=
  inferInstanceAs (Decidable (∀ p ∈ parameters.entries, _ → _))

section Plan

variable {flags : ExposureFlags} {parameters : Dict String String}

theorem get?_updates_of_exposes (h : AgreeOnExposed ns flags parameters secrets others) {name : String}
    (hname : flags.Exposes name) :
    (runPass ns secrets parameters.entries).value.updates.get? name =
      (runPass ns others parameters.entries).value.updates.get? name := by
  rw [get?_updates_entries, get?_updates_entries]
  apply Option.bind_congr
  intro value hget
  rw [resolve_congr (h _ (parameters.get?_eq_some_iff.1 hget) hname)]

theorem mem_keys_updates_iff {name : String} :
    name ∈ (runPass ns secrets parameters.entries).value.updates.keys ↔
      ∃ value, parameters.get? name = some value ∧ (trace ns secrets value).unchanged = false := by
  rw [Dict.mem_keys_iff, get?_updates_entries]
  cases parameters.get? name with
  | none => simp
  | some value => simp [exists_text?_eq_some_iff]

theorem mem_withheld_iff {name value : String} (hget : parameters.get? name = some value)
    (hname : ¬ flags.Exposes name) :
    name ∈ (ExposurePlan.ofUpdates flags (runPass ns secrets parameters.entries).value.updates).withheld.members ↔
      (trace ns secrets value).unchanged = false := by
  rw [ExposurePlan.mem_withheld, and_iff_left hname, mem_keys_updates_iff]
  simp [hget]

/-- A plan and the leftover references show of the withheld parameters what their traces are. -/
theorem sameTraces_iff (h : AgreeOnExposed ns flags parameters secrets others) :
    SameTraces ns flags parameters secrets others ↔
      (ExposurePlan.ofUpdates flags (runPass ns secrets parameters.entries).value.updates).withheld =
          (ExposurePlan.ofUpdates flags (runPass ns others parameters.entries).value.updates).withheld ∧
        (runPass ns secrets parameters.entries).value.unresolved =
          (runPass ns others parameters.entries).value.unresolved := by
  constructor
  · intro htraces
    -- an exposed parameter leaves the same trace anyway
    have htrace {name value : String} (hget : parameters.get? name = some value) :
        trace ns secrets value = trace ns others value := by
      have hp := parameters.get?_eq_some_iff.1 hget
      by_cases hname : flags.Exposes name
      · exact trace_congr (h (name, value) hp hname)
      · exact htraces (name, value) hp hname
    constructor
    · apply ExposurePlan.withheld_ofUpdates_congr
      intro name _
      rw [mem_keys_updates_iff, mem_keys_updates_iff]
      apply exists_congr
      intro value
      apply and_congr_right
      intro hget
      rw [htrace hget]
    · apply Dict.ext_get?
      intro name
      rw [get?_unresolved_entries, get?_unresolved_entries]
      apply Option.bind_congr
      intro value hget
      rw [leftover?_eq_iff, htrace hget]
  · rintro ⟨hwithheld, hunresolved⟩ ⟨name, value⟩ hp hname
    have hget := parameters.get?_eq_some_iff.2 hp
    have hunchanged : (trace ns secrets value).unchanged = (trace ns others value).unchanged := by
      rw [← Bool.not_inj_iff, Bool.eq_iff_iff, Bool.not_eq_true', Bool.not_eq_true', ← mem_withheld_iff hget hname,
        hwithheld, mem_withheld_iff hget hname]
    have hleftover : leftover? ns secrets value = leftover? ns others value := by
      have hentry := congrArg (fun unresolved => unresolved.get? name) hunresolved
      simpa only [get?_unresolved_entries, hget, Option.bind_some] using hentry
    exact Trace.ext hunchanged (leftover?_eq_iff.1 hleftover)

end Plan

end SecretRefs

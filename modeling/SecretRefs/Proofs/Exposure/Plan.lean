import SecretRefs.Proofs.Dict
import SecretRefs.Proofs.Exposure.Destination

/-! What an exposure plan makes of some updates. Each of them is at its destination with the value that it has, and
from its place the name of an exposed one can be told. A plan depends on the exposed updates and on the names
of the others. -/

namespace SecretRefs

open ParameterKind (environmentLead)

/-! ### The parts of a plan -/

namespace ExposurePlan

variable (flags : ExposureFlags) (updates : Dict String String)

theorem foldl_add (updates : List (String × String)) (plan : ExposurePlan) :
    updates.foldl (add flags) plan =
      { environment := plan.environment.insertAll
          (updates.filterMap fun u => (Destination.ofName flags u.1).target?.map fun target => (target, u.2))
        parameters := plan.parameters.insertAll (updates.filter fun u => Destination.ofName flags u.1 = .parameter)
        withheld := plan.withheld.insertAll
          (((updates.map Prod.fst).filter fun name => Destination.ofName flags name = .withheld).map
            fun name => (name, ())) } := by
  induction updates generalizing plan with
  | nil => rfl
  | cons update rest ih =>
      rw [List.foldl_cons, ih]
      cases h : Destination.ofName flags update.1 <;> simp [add, Destination.target?, h, Dict.insertAll]

theorem ofUpdates_eq :
    ofUpdates flags updates =
      { environment := updates.rekeyed fun name => (Destination.ofName flags name).target?
        parameters := updates.filter fun name _ => Destination.ofName flags name = .parameter
        withheld := .ofMembers (updates.keys.filter fun name => Destination.ofName flags name = .withheld) } := by
  rw [ofUpdates, foldl_add, ← Dict.ofList_filter]
  rfl

theorem get?_environment {target value : String} :
    (ofUpdates flags updates).environment.get? target = some value ↔
      updates.get? (environmentLead ++ target) = some value ∧ target ≠ "" ∧ flags.exposeEnv = true := by
  rw [ofUpdates_eq, Dict.get?_rekeyed fun _ _ _ => Destination.eq_of_target?_ofName]
  simp only [Destination.target?_ofName_eq_some_iff, Destination.ofName_eq_environment_iff]
  constructor
  · rintro ⟨name, ⟨rfl, hne, henv⟩, hget⟩
    exact ⟨hget, hne, henv⟩
  · rintro ⟨hget, hne, henv⟩
    exact ⟨_, ⟨rfl, hne, henv⟩, hget⟩

theorem get?_parameters {name value : String} :
    (ofUpdates flags updates).parameters.get? name = some value ↔
      updates.get? name = some value ∧ ParameterKind.ofName name ≠ .environment ∧ flags.exposeConfig = true := by
  rw [ofUpdates_eq, Dict.get?_filter, Option.filter_eq_some_iff, decide_eq_true_iff,
    Destination.ofName_eq_parameter_iff]

theorem mem_withheld {name : String} :
    name ∈ (ofUpdates flags updates).withheld.members ↔ name ∈ updates.keys ∧ ¬ flags.Exposes name := by
  rw [ofUpdates_eq, KeySet.mem_members_ofMembers, List.mem_filter, decide_eq_true_iff,
    Destination.ofName_eq_withheld_iff]

theorem size_add_size_add_size :
    (ofUpdates flags updates).environment.size + (ofUpdates flags updates).parameters.size +
      (ofUpdates flags updates).withheld.size = updates.size := by
  have hparameters : (updates.filter fun name _ => Destination.ofName flags name = .parameter).size =
      (updates.keys.filter fun name => Destination.ofName flags name = .parameter).length := by
    rw [Dict.keys, List.filter_map, List.length_map]
    rfl
  have hwithheld : (KeySet.ofMembers (updates.keys.filter fun name => Destination.ofName flags name = .withheld)).size =
      (updates.keys.filter fun name => Destination.ofName flags name = .withheld).length :=
    KeySet.size_ofMembers (List.Nodup.filter _ updates.nodup_keys)
  rw [ofUpdates_eq]
  dsimp only
  rw [Dict.size_rekeyed fun _ _ _ => Destination.eq_of_target?_ofName, hparameters, hwithheld,
    Destination.length_add_length_add_length, Dict.keys, List.length_map, Dict.size]

/-! ### Two plans -/

variable {flags updates} {others : Dict String String}

theorem environment_ofUpdates_congr (h : ∀ name, flags.Exposes name → updates.get? name = others.get? name) :
    (ofUpdates flags updates).environment = (ofUpdates flags others).environment := by
  apply Dict.ext_get?
  intro target
  ext value
  rw [get?_environment, get?_environment]
  apply and_congr_left
  rintro ⟨htarget, henv⟩
  rw [h _ ((flags.exposes_append htarget).2 henv)]

theorem parameters_ofUpdates_congr (h : ∀ name, flags.Exposes name → updates.get? name = others.get? name) :
    (ofUpdates flags updates).parameters = (ofUpdates flags others).parameters := by
  apply Dict.ext_get?
  intro name
  ext value
  rw [get?_parameters, get?_parameters]
  apply and_congr_left
  rintro ⟨hkind, hconfig⟩
  rw [h _ ((flags.exposes_of_ne_environment hkind).2 hconfig)]

theorem withheld_ofUpdates_congr
    (h : ∀ name, ¬ flags.Exposes name → (name ∈ updates.keys ↔ name ∈ others.keys)) :
    (ofUpdates flags updates).withheld = (ofUpdates flags others).withheld := by
  apply KeySet.ext_members
  intro name
  rw [mem_withheld, mem_withheld]
  exact and_congr_left (h name)

theorem ofUpdates_congr (hkeys : updates.keys = others.keys)
    (hvalues : ∀ name, flags.Exposes name → updates.get? name = others.get? name) :
    ofUpdates flags updates = ofUpdates flags others := by
  have hwithheld : (ofUpdates flags updates).withheld = (ofUpdates flags others).withheld :=
    withheld_ofUpdates_congr fun name _ => by rw [hkeys]
  change ExposurePlan.mk (ofUpdates flags updates).environment (ofUpdates flags updates).parameters
    (ofUpdates flags updates).withheld = ofUpdates flags others
  rw [environment_ofUpdates_congr hvalues, parameters_ofUpdates_congr hvalues, hwithheld]

/-! ### Updates in their places -/

/-- A plan has an update at a destination; of one that is withheld it has the name. -/
def Holds (plan : ExposurePlan) (name value : String) : Destination → Prop
  | .environment target => name = environmentLead ++ target ∧ plan.environment.get? target = some value
  | .parameter => plan.parameters.get? name = some value
  | .withheld => name ∈ plan.withheld.members

/-- An update is at its destination, and nothing else is in a plan. -/
theorem holds_ofUpdates_iff {name value : String} {d : Destination} :
    (ofUpdates flags updates).Holds name value d ↔
      Destination.ofName flags name = d ∧
        (updates.get? name = some value ∨ d = .withheld ∧ name ∈ updates.keys) := by
  cases d with
  | environment target =>
      rw [Holds, get?_environment, Destination.ofName_eq_environment_iff]
      constructor
      · rintro ⟨rfl, hget, htarget, henv⟩
        exact ⟨⟨rfl, htarget, henv⟩, .inl hget⟩
      · rintro ⟨⟨rfl, htarget, henv⟩, hget | ⟨hd, -⟩⟩
        · exact ⟨rfl, hget, htarget, henv⟩
        · cases hd
  | parameter =>
      rw [Holds, get?_parameters, Destination.ofName_eq_parameter_iff]
      constructor
      · rintro ⟨hget, hname⟩
        exact ⟨hname, .inl hget⟩
      · rintro ⟨hname, hget | ⟨hd, -⟩⟩
        · exact ⟨hget, hname⟩
        · cases hd
  | withheld =>
      rw [Holds, mem_withheld, Destination.ofName_eq_withheld_iff]
      constructor
      · rintro ⟨hmem, hname⟩
        exact ⟨hname, .inr ⟨rfl, hmem⟩⟩
      · rintro ⟨hname, hget | ⟨-, hmem⟩⟩
        · exact ⟨(Dict.mem_keys_iff _).2 ⟨value, hget⟩, hname⟩
        · exact ⟨hmem, hname⟩

/-- A plan lets a value out under the name of its parameter. -/
def LetsOut (plan : ExposurePlan) (name value : String) : Prop := ∃ d, d ≠ .withheld ∧ plan.Holds name value d

theorem letsOut_ofUpdates_iff {name value : String} :
    (ofUpdates flags updates).LetsOut name value ↔ updates.get? name = some value ∧ flags.Exposes name := by
  rw [LetsOut, ← Decidable.not_not (p := flags.Exposes name), ← Destination.ofName_eq_withheld_iff]
  simp only [holds_ofUpdates_iff]
  constructor
  · rintro ⟨d, hd, rfl, hget | ⟨hwithheld, -⟩⟩
    · exact ⟨hget, hd⟩
    · exact absurd hwithheld hd
  · rintro ⟨hget, hd⟩
    exact ⟨_, hd, rfl, .inl hget⟩

/-- The updates that can be read from a plan, under their own names. -/
def exposed (plan : ExposurePlan) : Dict String String :=
  (plan.environment.rekeyed fun target => some (environmentLead ++ target)).overriddenBy plan.parameters

theorem get?_rekeyed_environment {name value : String} :
    ((ofUpdates flags updates).environment.rekeyed fun target => some (environmentLead ++ target)).get? name =
        some value ↔
      updates.get? name = some value ∧ flags.Exposes name ∧ ParameterKind.ofName name = .environment := by
  rw [Dict.get?_rekeyed (by simp [String.append_right_inj])]
  simp only [get?_environment, Option.some.injEq]
  constructor
  · rintro ⟨target, rfl, hget, htarget, henv⟩
    exact ⟨hget, (flags.exposes_append htarget).2 henv, ParameterKind.ofName_append target⟩
  · rintro ⟨hget, hexposes, hkind⟩
    obtain ⟨target, rfl⟩ := ParameterKind.ofName_eq_environment_iff.1 hkind
    have htarget : target ≠ "" := mt environmentLead_append_eq_self.2 hexposes.2
    exact ⟨target, rfl, hget, htarget, (flags.exposes_append htarget).1 hexposes⟩

theorem exposed_ofUpdates : (ofUpdates flags updates).exposed = updates.filter fun name _ => flags.Exposes name := by
  apply Dict.ext_get?
  intro name
  ext value
  rw [exposed, Dict.get?_overriddenBy, Dict.get?_filter, Option.filter_eq_some_iff, decide_eq_true_iff]
  by_cases hkind : ParameterKind.ofName name = .environment
  · have hnone : (ofUpdates flags updates).parameters.get? name = none := by
      rw [Option.eq_none_iff_forall_ne_some]
      intro other hother
      exact ((get?_parameters flags updates).1 hother).2.1 hkind
    rw [hnone, Option.none_or, get?_rekeyed_environment]
    simp [hkind]
  · have hnone : ((ofUpdates flags updates).environment.rekeyed
        fun target => some (environmentLead ++ target)).get? name = none := by
      rw [Option.eq_none_iff_forall_ne_some]
      intro other hother
      exact hkind (get?_rekeyed_environment.1 hother).2.2
    rw [hnone, Option.or_none, get?_parameters, flags.exposes_of_ne_environment hkind]
    simp [hkind]

end ExposurePlan

open ExposurePlan in
/-- How the plan for some updates has them. -/
structure PlanAccounts (flags : ExposureFlags) (updates : Dict String String) : Prop where
  /-- Each update is at one destination. -/
  placed (name value : String) : updates.get? name = some value →
    ∃! d, (build flags updates).value.Holds name value d
  /-- Nothing but the updates is in the plan, each with its own value. -/
  updated (name value : String) (d : Destination) : (build flags updates).value.Holds name value d →
    updates.get? name = some value ∨ d = .withheld ∧ name ∈ updates.keys
  /-- A variable has the value of the update under `env.` and its name. -/
  environment (target value : String) : (build flags updates).value.environment.get? target = some value ↔
    updates.get? ("env." ++ target) = some value ∧ target ≠ "" ∧ flags.exposeEnv = true
  /-- The other updates are among the parameters, under their own names. -/
  parameters (name value : String) : (build flags updates).value.parameters.get? name = some value ↔
    updates.get? name = some value ∧ (∀ target, name ≠ "env." ++ target) ∧ flags.exposeConfig = true
  sizes : (build flags updates).value.environment.size + (build flags updates).value.parameters.size +
    (build flags updates).value.withheld.size = updates.size
  /-- No two updates share a variable. -/
  distinct (name other value value' target : String) : (build flags updates).value.Holds name value (.environment target) →
    (build flags updates).value.Holds other value' (.environment target) → name = other ∧ value = value'
  readBack : (build flags updates).value.exposed = updates.filter fun name _ => flags.Exposes name
  withheld (name : String) : name ∈ (build flags updates).value.withheld.members ↔
    name ∈ updates.keys ∧ ¬ flags.Exposes name
  /-- Of a withheld update nothing but its name matters. -/
  unseen (others : Dict String String) : updates.keys = others.keys →
    (∀ name, flags.Exposes name → updates.get? name = others.get? name) → build flags updates = build flags others
  /-- With more allowed, what is exposed stays where it is, and what is new was withheld. -/
  widened (wider : ExposureFlags) : flags.Within wider → ∀ name value d,
    ((build flags updates).value.Holds name value d → d ≠ .withheld → (build wider updates).value.Holds name value d) ∧
    ((build wider updates).value.Holds name value d → (build flags updates).value.Holds name value d ∨
      name ∈ (build flags updates).value.withheld.members)

/-- **A plan loses, doubles and confuses no update.** -/
theorem planAccounts_build (flags : ExposureFlags) (updates : Dict String String) : PlanAccounts flags updates where
  placed _ _ hget := ⟨_, ExposurePlan.holds_ofUpdates_iff.2 ⟨rfl, .inl hget⟩,
    fun _ hd => (ExposurePlan.holds_ofUpdates_iff.1 hd).1.symm⟩
  updated _ _ _ h := (ExposurePlan.holds_ofUpdates_iff.1 h).2
  environment target value := ExposurePlan.get?_environment flags updates
  parameters name value := by
    have hkind : (∀ target, name ≠ "env." ++ target) ↔ ParameterKind.ofName name ≠ .environment :=
      not_exists.symm.trans (not_congr ParameterKind.ofName_eq_environment_iff.symm)
    rw [hkind]
    exact ExposurePlan.get?_parameters flags updates
  sizes := ExposurePlan.size_add_size_add_size flags updates
  distinct name other value value' target h h' := by
    obtain ⟨rfl, hvalue⟩ := h
    obtain ⟨rfl, hvalue'⟩ := h'
    exact ⟨rfl, Option.some.inj (hvalue.symm.trans hvalue')⟩
  readBack := ExposurePlan.exposed_ofUpdates
  withheld name := ExposurePlan.mem_withheld flags updates
  unseen others hkeys hvalues := by
    rw [ExposurePlan.build, ExposurePlan.build, ExposurePlan.ofUpdates_congr hkeys hvalues]
  widened wider hwithin name value d := by
    constructor
    · intro hholds hd
      obtain ⟨rfl, hupdate⟩ := ExposurePlan.holds_ofUpdates_iff.1 hholds
      exact ExposurePlan.holds_ofUpdates_iff.2 ⟨Destination.ofName_of_within hwithin hd, hupdate⟩
    · intro hholds
      obtain ⟨rfl, hupdate⟩ := ExposurePlan.holds_ofUpdates_iff.1 hholds
      by_cases hname : Destination.ofName flags name = .withheld
      · refine .inr ((ExposurePlan.mem_withheld flags updates).2 ⟨?_, Destination.ofName_eq_withheld_iff.1 hname⟩)
        rcases hupdate with hget | ⟨-, hmem⟩
        · exact (Dict.mem_keys_iff _).2 ⟨value, hget⟩
        · exact hmem
      · exact .inl (ExposurePlan.holds_ofUpdates_iff.2 ⟨(Destination.ofName_of_within hwithin hname).symm, hupdate⟩)

end SecretRefs

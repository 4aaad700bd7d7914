import SecretRefs.Exposure
import SecretRefs.Proofs.Dict
import SecretRefs.Proofs.StoreKey

/-! Where an update goes. That depends on its name and the flags alone: what the flags do not let out is withheld,
and a parameter of the environment goes under what follows `env.` in its name, so no two of them meet. Each kind has a
reserved name; the last parameter of that name sets the flag of the kind, and the default where there is none. -/

namespace SecretRefs

open ParameterKind (environmentLead)

/-! ### Names -/

theorem ParameterKind.ofName_eq_environment_iff {name : String} :
    ofName name = environment ↔ ∃ target, name = environmentLead ++ target := by
  have hlead : environmentLead.toList.isPrefixOf name.toList = true ↔ ∃ target, name = environmentLead ++ target := by
    rw [List.isPrefixOf_iff_prefix]
    constructor
    · rintro ⟨rest, hrest⟩
      exact ⟨String.ofList rest, String.toList_injective (by rw [String.toList_append, String.toList_ofList, hrest])⟩
    · rintro ⟨target, rfl⟩
      exact ⟨target.toList, String.toList_append.symm⟩
  rw [← hlead, ofName]
  split
  · next h => simp [h]
  · next h => split <;> simp [h]

theorem ParameterKind.ofName_append (target : String) : ofName (environmentLead ++ target) = environment :=
  ofName_eq_environment_iff.2 ⟨target, rfl⟩

theorem environmentLead_append_eq_self {target : String} : environmentLead ++ target = environmentLead ↔ target = "" :=
  String.append_eq_left_iff

/-- Every name is the bare `env.`, `env.` with a variable behind it, or of another kind. -/
theorem ParameterKind.name_cases (name : String) :
    name = environmentLead ∨ (∃ target, target ≠ "" ∧ name = environmentLead ++ target) ∨ ofName name ≠ environment := by
  by_cases hkind : ofName name = environment
  · obtain ⟨target, rfl⟩ := ofName_eq_environment_iff.1 hkind
    by_cases htarget : target = ""
    · exact .inl (environmentLead_append_eq_self.2 htarget)
    · exact .inr (.inl ⟨target, htarget, rfl⟩)
  · exact .inr (.inr hkind)

theorem environmentVariable?_append {target : String} (htarget : target ≠ "") :
    environmentVariable? (environmentLead ++ target) = some target := by
  have hne : target.toList ≠ [] := by simpa using htarget
  rw [environmentVariable?, String.toList_append, stripLead_eq_some_iff.2 rfl]
  split
  · next h => cases h
  · next h => exact absurd (Option.some.inj h) hne
  · next h =>
    obtain rfl := Option.some.inj h
    rw [String.ofList_toList]

theorem environmentVariable?_environmentLead : environmentVariable? environmentLead = none := by decide

namespace ExposureFlags

/-- The flags let out a parameter of this name: its kind is allowed, and it is not the bare `env.`. -/
def Exposes (flags : ExposureFlags) (name : String) : Prop :=
  flags.allows (.ofName name) = true ∧ name ≠ environmentLead

instance (flags : ExposureFlags) (name : String) : Decidable (flags.Exposes name) :=
  inferInstanceAs (Decidable (_ ∧ _))

theorem not_exposes_environmentLead (flags : ExposureFlags) : ¬ flags.Exposes environmentLead := fun h => h.2 rfl

theorem exposes_append (flags : ExposureFlags) {target : String} (htarget : target ≠ "") :
    flags.Exposes (environmentLead ++ target) ↔ flags.exposeEnv = true := by
  rw [Exposes, ParameterKind.ofName_append]
  exact and_iff_left (mt environmentLead_append_eq_self.1 htarget)

theorem allows_of_ne_environment (flags : ExposureFlags) {kind : ParameterKind} (hkind : kind ≠ .environment) :
    flags.allows kind = flags.exposeConfig := by
  cases kind with
  | environment => exact absurd rfl hkind
  | system => rfl
  | config => rfl

theorem exposes_of_ne_environment (flags : ExposureFlags) {name : String}
    (hkind : ParameterKind.ofName name ≠ .environment) : flags.Exposes name ↔ flags.exposeConfig = true := by
  rw [Exposes, flags.allows_of_ne_environment hkind]
  refine and_iff_left ?_
  rintro rfl
  exact hkind (by decide)

/-- Whatever kind these flags allow, the others allow too. -/
def Within (flags wider : ExposureFlags) : Prop :=
  ∀ kind, flags.allows kind = true → wider.allows kind = true

/-! ### Flags that parameters set -/

theorem allows_override (flags : ExposureFlags) (p : String × String) (kind : ParameterKind) :
    (flags.override p).allows kind = if parameterFor kind = p.1 then isOn p.2 else flags.allows kind := by
  have hne : exposeEnvParameter ≠ exposeConfigParameter := by decide
  rw [override]
  by_cases henv : p.1 = exposeEnvParameter
  · rw [if_pos henv, henv]
    cases kind <;> simp [parameterFor, allows, hne.symm]
  · rw [if_neg henv]
    by_cases hconfig : p.1 = exposeConfigParameter
    · rw [if_pos hconfig, hconfig]
      cases kind <;> simp [parameterFor, allows, hne]
    · rw [if_neg hconfig]
      cases kind <;> simp [parameterFor, Ne.symm henv, Ne.symm hconfig]

theorem allows_ofParameters (defaults : ExposureFlags) (parameters : List (String × String)) (kind : ParameterKind) :
    (ofParameters defaults parameters).allows kind =
      ((parameters.reverse.lookup (parameterFor kind)).map isOn).getD (defaults.allows kind) := by
  rw [ofParameters]
  induction parameters generalizing defaults with
  | nil => rfl
  | cons p rest ih =>
      obtain ⟨name, value⟩ := p
      rw [List.foldl_cons, ih, List.reverse_cons, List.lookup_append, allows_override]
      cases rest.reverse.lookup (parameterFor kind) with
      | some last => rfl
      | none => by_cases hname : parameterFor kind = name <;> simp [hname, Dict.lookup_cons_of_ne]

/-- Where no name is repeated, the parameter of the reserved name decides. -/
theorem allows_ofParameters_entries (defaults : ExposureFlags) (parameters : Dict String String) (kind : ParameterKind) :
    (ofParameters defaults parameters.entries).allows kind =
      ((parameters.get? (parameterFor kind)).map isOn).getD (defaults.allows kind) := by
  rw [allows_ofParameters, Dict.lookup_reverse_entries]

end ExposureFlags

/-! ### Destinations -/

namespace Destination

variable {flags : ExposureFlags} {name : String}

theorem ofName_environmentLead (flags : ExposureFlags) : ofName flags environmentLead = withheld := by
  rw [ofName, show ParameterKind.ofName environmentLead = .environment by decide, environmentVariable?_environmentLead]
  cases flags.allows .environment <;> rfl

theorem ofName_append (flags : ExposureFlags) {target : String} (htarget : target ≠ "") :
    ofName flags (environmentLead ++ target) = if flags.exposeEnv = true then environment target else withheld := by
  rw [ofName, ParameterKind.ofName_append, environmentVariable?_append htarget]
  rfl

theorem ofName_of_ne_environment (hkind : ParameterKind.ofName name ≠ .environment) :
    ofName flags name = if flags.exposeConfig = true then parameter else withheld := by
  rw [ofName, flags.allows_of_ne_environment hkind]
  cases h : ParameterKind.ofName name with
  | environment => exact absurd h hkind
  | system => rfl
  | config => rfl

theorem ofName_eq_environment_iff {target : String} :
    ofName flags name = environment target ↔
      name = environmentLead ++ target ∧ target ≠ "" ∧ flags.exposeEnv = true := by
  constructor
  · intro h
    rcases ParameterKind.name_cases name with rfl | ⟨other, hother, rfl⟩ | hkind
    · rw [ofName_environmentLead] at h
      cases h
    · rw [ofName_append flags hother] at h
      split at h
      · next henv =>
        obtain rfl := environment.inj h
        exact ⟨rfl, hother, henv⟩
      · cases h
    · rw [ofName_of_ne_environment hkind] at h
      split at h <;> cases h
  · rintro ⟨rfl, htarget, henv⟩
    rw [ofName_append flags htarget, if_pos henv]

theorem ofName_eq_parameter_iff :
    ofName flags name = parameter ↔ ParameterKind.ofName name ≠ .environment ∧ flags.exposeConfig = true := by
  constructor
  · intro h
    rcases ParameterKind.name_cases name with rfl | ⟨other, hother, rfl⟩ | hkind
    · rw [ofName_environmentLead] at h
      cases h
    · rw [ofName_append flags hother] at h
      split at h <;> cases h
    · rw [ofName_of_ne_environment hkind] at h
      split at h
      · next hconfig => exact ⟨hkind, hconfig⟩
      · cases h
  · rintro ⟨hkind, hconfig⟩
    rw [ofName_of_ne_environment hkind, if_pos hconfig]

/-- Withheld is what the flags do not let out. -/
theorem ofName_eq_withheld_iff : ofName flags name = withheld ↔ ¬ flags.Exposes name := by
  rcases ParameterKind.name_cases name with rfl | ⟨target, htarget, rfl⟩ | hkind
  · exact iff_of_true (ofName_environmentLead flags) flags.not_exposes_environmentLead
  · rw [ofName_append flags htarget, flags.exposes_append htarget]
    split <;> simp_all
  · rw [ofName_of_ne_environment hkind, flags.exposes_of_ne_environment hkind]
    split <;> simp_all

/-- With more allowed, what is exposed keeps its destination. -/
theorem ofName_of_within {wider : ExposureFlags} (h : flags.Within wider)
    (hname : ofName flags name ≠ .withheld) : ofName wider name = ofName flags name := by
  have hexposes : flags.Exposes name := by
    rwa [ne_eq, ofName_eq_withheld_iff, Decidable.not_not] at hname
  rw [ofName, ofName, hexposes.1, h _ hexposes.1]

/-- The environment variable at a destination. -/
def target? : Destination → Option String
  | environment target => some target
  | parameter | withheld => none

theorem target?_ofName_eq_some_iff {target : String} :
    (ofName flags name).target? = some target ↔ ofName flags name = environment target := by
  cases ofName flags name <;> simp [target?]

/-- The name of an update is told by its variable. -/
theorem eq_of_target?_ofName {other target : String} (h : (ofName flags name).target? = some target)
    (h' : (ofName flags other).target? = some target) : name = other := by
  rw [target?_ofName_eq_some_iff, ofName_eq_environment_iff] at h h'
  rw [h.1, h'.1]

/-- Each name counts once, at its destination. -/
theorem length_add_length_add_length (flags : ExposureFlags) (names : List String) :
    (names.filterMap fun name => (ofName flags name).target?).length +
        (names.filter fun name => ofName flags name = parameter).length +
        (names.filter fun name => ofName flags name = withheld).length = names.length := by
  induction names with
  | nil => rfl
  | cons name rest ih =>
      rw [List.filterMap_cons, List.filter_cons, List.filter_cons, List.length_cons, ← ih]
      cases ofName flags name <;> simp [target?] <;> omega

end Destination

end SecretRefs

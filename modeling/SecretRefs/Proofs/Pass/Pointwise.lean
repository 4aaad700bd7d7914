import SecretRefs.Proofs.Pass.Outcome

/-! A pass name by name. Under a name it keeps what the last parameter of that name gives that gives anything: for the
updates that is the last one that changes, for the leftover keys the last one that still asks for a secret, and
these can be different ones. Other parameters have no part in it, so lists without a name in common can be put
together, and the order does not matter where no name is repeated. -/

namespace SecretRefs

/-! ### What is kept of a list of parameters -/

/-- The last parameter of a name whose value passes a test has this value. -/
def IsLast (test : String → Prop) (parameters : List (String × String)) (name value : String) : Prop :=
  ∃ before after, parameters = before ++ (name, value) :: after ∧ test value ∧
    ∀ p ∈ after, p.1 = name → ¬ test p.2

theorem not_isLast_nil (test : String → Prop) (name value : String) : ¬ IsLast test [] name value := by
  rintro ⟨before, after, h, -⟩
  exact absurd h.symm (List.append_ne_nil_of_right_ne_nil _ (List.cons_ne_nil _ _))

theorem isLast_concat {test : String → Prop} {parameters : List (String × String)} {p : String × String}
    {name value : String} :
    IsLast test (parameters ++ [p]) name value ↔
      p = (name, value) ∧ test value ∨ ¬ (p.1 = name ∧ test p.2) ∧ IsLast test parameters name value := by
  constructor
  · rintro ⟨before, after, heq, htest, hlater⟩
    rcases List.eq_nil_or_concat after with rfl | ⟨after, q, rfl⟩
    · obtain ⟨-, hp⟩ := List.append_inj' heq rfl
      exact .inl ⟨List.singleton_injective hp, htest⟩
    · rw [List.concat_eq_append, ← List.cons_append, ← List.append_assoc] at heq
      obtain ⟨hparameters, hq⟩ := List.append_inj' heq rfl
      obtain rfl := List.singleton_injective hq
      refine .inr ⟨fun h => hlater p (by simp) h.1 h.2, before, after, hparameters, htest, fun q hq => ?_⟩
      exact hlater q (by simp [hq])
  · rintro (⟨rfl, htest⟩ | ⟨hp, before, after, rfl, htest, hlater⟩)
    · exact ⟨parameters, [], rfl, htest, by simp⟩
    · refine ⟨before, after ++ [p], by simp, htest, fun q hq hname => ?_⟩
      rcases List.mem_append.1 hq with hq | hq
      · exact hlater q hq hname
      · obtain rfl := List.mem_singleton.1 hq
        exact fun htest => hp ⟨hname, htest⟩

theorem isLast_concat_self (test : String → Prop) {parameters : List (String × String)} {name value last : String}
    (hlast : test last) : IsLast test (parameters ++ [(name, last)]) name value ↔ value = last := by
  rw [isLast_concat]
  constructor
  · rintro (⟨heq, -⟩ | ⟨hnot, -⟩)
    · exact (congrArg Prod.snd heq).symm
    · exact absurd ⟨rfl, hlast⟩ hnot
  · rintro rfl
    exact .inl ⟨rfl, hlast⟩

/-- A parameter of another name, or one that fails the test, is passed over. -/
theorem isLast_concat_of_not (test : String → Prop) {parameters : List (String × String)} {p : String × String}
    {name value : String} (hp : ¬ (p.1 = name ∧ test p.2)) :
    IsLast test (parameters ++ [p]) name value ↔ IsLast test parameters name value := by
  rw [isLast_concat]
  constructor
  · rintro (⟨rfl, htest⟩ | ⟨-, h⟩)
    · exact absurd ⟨rfl, htest⟩ hp
    · exact h
  · exact fun h => .inr ⟨hp, h⟩

theorem IsLast.unique {test : String → Prop} {parameters : List (String × String)} {name value other : String}
    (h : IsLast test parameters name value) (hother : IsLast test parameters name other) : value = other := by
  induction parameters using List.reverseRecOn with
  | nil => exact absurd h (not_isLast_nil _ _ _)
  | append_singleton parameters p ih =>
      by_cases hp : p.1 = name ∧ test p.2
      · obtain ⟨n, last⟩ := p
        obtain ⟨rfl, hlast⟩ := hp
        rw [(isLast_concat_self test hlast).1 h, (isLast_concat_self test hlast).1 hother]
      · exact ih ((isLast_concat_of_not test hp).1 h) ((isLast_concat_of_not test hp).1 hother)

section Kept

variable {β : Type} (f : String → Option β)

/-- The results of the values that have one, under the names of their parameters. -/
def kept (parameters : List (String × String)) : Dict String β :=
  .ofList (parameters.filterMap fun p => (f p.2).map (p.1, ·))

theorem kept_append (parameters others : List (String × String)) :
    kept f (parameters ++ others) = (kept f parameters).overriddenBy (kept f others) := by
  rw [kept, List.filterMap_append, Dict.ofList_append]
  rfl

theorem get?_kept_singleton (p : String × String) (name : String) :
    (kept f [p]).get? name = if name = p.1 then f p.2 else none := by
  rw [kept, Dict.get?_ofList]
  cases h : f p.2 with
  | none => simp [h]
  | some v => by_cases hname : name = p.1 <;> simp [h, hname, Dict.lookup_cons_of_ne]

/-- One more parameter: its result replaces what its name has so far. -/
theorem get?_kept_concat (parameters : List (String × String)) (p : String × String) (name : String) :
    (kept f (parameters ++ [p])).get? name =
      if name = p.1 then (f p.2).or ((kept f parameters).get? name) else (kept f parameters).get? name := by
  rw [kept_append, Dict.get?_overriddenBy, get?_kept_singleton]
  split
  · rfl
  · exact Option.none_or

variable {f} {parameters : List (String × String)} {name : String}

theorem get?_kept_eq_some_iff {v : β} :
    (kept f parameters).get? name = some v ↔
      ∃ value, IsLast (fun value => f value ≠ none) parameters name value ∧ f value = some v := by
  let test : String → Prop := fun value => f value ≠ none
  change _ ↔ ∃ value, IsLast test parameters name value ∧ f value = some v
  induction parameters using List.reverseRecOn with
  | nil =>
      constructor
      · intro h
        cases h
      · rintro ⟨value, hlast, -⟩
        exact absurd hlast (not_isLast_nil _ _ _)
  | append_singleton parameters p ih =>
      obtain ⟨other, last⟩ := p
      rw [get?_kept_concat]
      by_cases hname : name = other
      · subst hname
        rw [if_pos rfl]
        cases hf : f last with
        | none =>
            rw [Option.none_or, ih]
            exact exists_congr fun value => by rw [isLast_concat_of_not test fun h => h.2 hf]
        | some w =>
            have hlast : test last := by simp [test, hf]
            simp only [isLast_concat_self test hlast]
            simp [hf]
      · rw [if_neg hname, ih]
        exact exists_congr fun value => by rw [isLast_concat_of_not test fun h => hname h.1.symm]

theorem get?_kept_eq_none_iff :
    (kept f parameters).get? name = none ↔ ∀ value, (name, value) ∈ parameters → f value = none := by
  induction parameters using List.reverseRecOn with
  | nil => exact iff_of_true rfl (by simp)
  | append_singleton parameters p ih =>
      obtain ⟨other, value⟩ := p
      rw [get?_kept_concat]
      by_cases hname : name = other
      · subst hname
        rw [if_pos rfl, Option.or_eq_none_iff, ih]
        simp [or_imp, forall_and, and_comm]
      · simp [hname, ih]

theorem kept_perm {others : List (String × String)} (hnames : (parameters.map Prod.fst).Nodup)
    (hperm : parameters.Perm others) : kept f parameters = kept f others :=
  Dict.ofList_perm (nodup_names_filterMap f hnames) (hperm.filterMap _)

/-- Lists without a name in common add up. -/
theorem get?_kept_append_of_disjoint {others : List (String × String)}
    (hdisjoint : ∀ p ∈ parameters, ∀ q ∈ others, p.1 ≠ q.1) {v : β} :
    (kept f (parameters ++ others)).get? name = some v ↔
      (kept f parameters).get? name = some v ∨ (kept f others).get? name = some v := by
  rw [kept_append, Dict.get?_overriddenBy, Option.or_eq_some_iff]
  constructor
  · rintro (h | ⟨-, h⟩)
    · exact .inr h
    · exact .inl h
  · rintro (h | h)
    · refine .inr ⟨?_, h⟩
      obtain ⟨value, ⟨before, after, rfl, -⟩, -⟩ := get?_kept_eq_some_iff.1 h
      rw [get?_kept_eq_none_iff]
      intro other hother
      exact absurd rfl (hdisjoint (name, value) (by simp) (name, other) hother)
    · exact .inl h

end Kept

/-! ### A pass -/

variable {ns : Namespace} {secrets : Secrets} {parameters : List (String × String)}

theorem Resolution.text?_eq_some_iff {r : Resolution} {text : String} : r.text? = some text ↔ r = .resolved text := by
  cases r <;> simp [text?]

theorem Resolution.text?_eq_none_iff {r : Resolution} : r.text? = none ↔ r = .unchanged := by
  cases r <;> simp [text?]

theorem ne_of_resolve_eq {value text : String} (h : resolve ns secrets value = .resolved text) : text ≠ value := by
  rw [resolve_eq] at h
  split at h
  · cases h
  · next hne =>
    cases h
    exact hne

/-- The keys in the text of a value after resolving. -/
def finalKeys (ns : Namespace) (secrets : Secrets) (value : String) : List StoreKey :=
  match resolve ns secrets value with
  | .unchanged => extract ns value
  | .resolved text => extract ns text

theorem finalKeys_eq (value : String) :
    finalKeys ns secrets value = extract ns ((resolve ns secrets value).finalText value) := by
  rw [finalKeys]
  cases resolve ns secrets value <;> rfl

theorem leftover?_eq_none_iff {value : String} :
    leftover? ns secrets value = none ↔ finalKeys ns secrets value = [] := by
  rw [leftover?, finalKeys_eq]
  simp

/-- What a pass has under a name, and how that depends on the list of parameters. -/
structure PassByName (ns : Namespace) (secrets : Secrets) (parameters : List (String × String)) : Prop where
  /-- An update is the new text of the last parameter of its name that changes. -/
  updated (name text : String) : (runPass ns secrets parameters).value.updates.get? name = some text ↔
    ∃ value, IsLast (fun value => resolve ns secrets value ≠ .unchanged) parameters name value ∧
      resolve ns secrets value = .resolved text
  notUpdated (name : String) : (runPass ns secrets parameters).value.updates.get? name = none ↔
    ∀ value, (name, value) ∈ parameters → resolve ns secrets value = .unchanged
  /-- Leftover keys are those of the last parameter of their name that still has some. -/
  unresolved (name : String) (keys : List StoreKey) :
    (runPass ns secrets parameters).value.unresolved.get? name = some keys ↔
      ∃ value, IsLast (fun value => finalKeys ns secrets value ≠ []) parameters name value ∧
        finalKeys ns secrets value = keys
  notUnresolved (name : String) : (runPass ns secrets parameters).value.unresolved.get? name = none ↔
    ∀ value, (name, value) ∈ parameters → finalKeys ns secrets value = []
  /-- An update differs from the value that it is made of. -/
  differs (name text value : String) : (runPass ns secrets parameters).value.updates.get? name = some text →
    IsLast (fun value => resolve ns secrets value ≠ .unchanged) parameters name value → text ≠ value
  /-- The parameters that a pass leaves out could as well be resolved. -/
  leftOut : (runPass ns secrets parameters).value = .ofOutcomes (parameters.map (outcomeOf ns secrets))
  reordered : (parameters.map Prod.fst).Nodup → ∀ others, parameters.Perm others →
    (runPass ns secrets others).value = (runPass ns secrets parameters).value
  /-- Of two lists without a name in common the pass has what it has of the one or the other. -/
  joined (others : List (String × String)) : (∀ p ∈ parameters, ∀ q ∈ others, p.1 ≠ q.1) → ∀ name,
    (∀ text, (runPass ns secrets (parameters ++ others)).value.updates.get? name = some text ↔
      (runPass ns secrets parameters).value.updates.get? name = some text ∨
        (runPass ns secrets others).value.updates.get? name = some text) ∧
    ∀ keys, (runPass ns secrets (parameters ++ others)).value.unresolved.get? name = some keys ↔
      (runPass ns secrets parameters).value.unresolved.get? name = some keys ∨
        (runPass ns secrets others).value.unresolved.get? name = some keys

theorem updates_eq_kept (ns : Namespace) (secrets : Secrets) (parameters : List (String × String)) :
    (runPass ns secrets parameters).value.updates = kept (fun value => (resolve ns secrets value).text?) parameters :=
  updates_runPass ns secrets parameters

theorem unresolved_eq_kept (ns : Namespace) (secrets : Secrets) (parameters : List (String × String)) :
    (runPass ns secrets parameters).value.unresolved = kept (leftover? ns secrets) parameters :=
  unresolved_runPass ns secrets parameters

theorem ofOutcomes_map_outcomeOf (ns : Namespace) (secrets : Secrets) (parameters : List (String × String)) :
    PassResult.ofOutcomes (parameters.map (outcomeOf ns secrets)) =
      { updates := kept (fun value => (resolve ns secrets value).text?) parameters
        unresolved := kept (leftover? ns secrets) parameters } := by
  rw [PassResult.ofOutcomes, List.filterMap_map, List.filterMap_map, kept, kept]
  congr 3
  funext p
  rw [Function.comp_apply, ParameterOutcome.unresolved?, leftover?, outcomeOf]
  split <;> rfl

theorem value_runPass_eq (ns : Namespace) (secrets : Secrets) (parameters : List (String × String)) :
    (runPass ns secrets parameters).value =
      { updates := kept (fun value => (resolve ns secrets value).text?) parameters
        unresolved := kept (leftover? ns secrets) parameters } := by
  rw [← updates_eq_kept, ← unresolved_eq_kept]

/-- **A pass works on each name by itself.** -/
theorem passByName (ns : Namespace) (secrets : Secrets) (parameters : List (String × String)) :
    PassByName ns secrets parameters where
  updated name text := by
    rw [updates_eq_kept, get?_kept_eq_some_iff]
    simp only [ne_eq, Resolution.text?_eq_none_iff, Resolution.text?_eq_some_iff]
  notUpdated name := by
    rw [updates_eq_kept, get?_kept_eq_none_iff]
    simp only [Resolution.text?_eq_none_iff]
  unresolved name keys := by
    rw [unresolved_eq_kept, get?_kept_eq_some_iff]
    simp only [ne_eq, leftover?_eq_none_iff]
    refine exists_congr fun value => and_congr_right ?_
    rintro ⟨before, after, -, hne, -⟩
    rw [leftover?_eq_some, ← finalKeys_eq, eq_comm]
    refine and_iff_left_of_imp ?_
    rintro rfl
    exact hne
  notUnresolved name := by
    rw [unresolved_eq_kept, get?_kept_eq_none_iff]
    simp only [leftover?_eq_none_iff]
  differs name text value hget hlast := by
    rw [updates_eq_kept, get?_kept_eq_some_iff] at hget
    simp only [ne_eq, Resolution.text?_eq_none_iff, Resolution.text?_eq_some_iff] at hget
    obtain ⟨other, hother, hresolve⟩ := hget
    obtain rfl := hlast.unique hother
    exact ne_of_resolve_eq hresolve
  leftOut := by rw [value_runPass_eq, ofOutcomes_map_outcomeOf]
  reordered hnames others hperm := by
    rw [value_runPass_eq, value_runPass_eq, kept_perm hnames hperm, kept_perm hnames hperm]
  joined others hdisjoint name := by
    simp only [updates_eq_kept, unresolved_eq_kept]
    exact ⟨fun text => get?_kept_append_of_disjoint hdisjoint, fun keys => get?_kept_append_of_disjoint hdisjoint⟩

end SecretRefs

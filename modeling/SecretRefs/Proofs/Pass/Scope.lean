import SecretRefs.Proofs.Pass.Accounting

/-! Which secrets a pass uses. A pass looks up the names that a scan of its parameters lists and no others, so
two mappings that agree on these give one result, down to the events. None of the names is listed in
vain: its secret alone, even an empty one, already changes a parameter. -/

namespace SecretRefs

/-- The secrets with these names. -/
def Secrets.restrict (secrets : Secrets) (names : List String) : Secrets :=
  Dict.filter secrets fun name _ => names.contains name

theorem Secrets.lookup?_restrict {names : List String} {name : String} (h : name ∈ names)
    (secrets : Secrets) : (secrets.restrict names).lookup? name = secrets.lookup? name := by
  unfold lookup? restrict
  rw [Dict.get?_filter, List.contains_iff_mem.2 h]
  cases Dict.get? secrets name <;> rfl

variable {ns : Namespace} {secrets others : Secrets} {parameters : List (String × String)}

theorem answers_congr {value : String}
    (h : ∀ k ∈ extract ns value, secrets.lookup? k.name = others.lookup? k.name) :
    answers ns secrets value = answers ns others value := by
  unfold answers
  rw [List.map_inj_left]
  intro key hkey
  cases hparse : StoreKey.parse? ns key with
  | none => rw [answer?_eq_none_of_parse? hparse, answer?_eq_none_of_parse? hparse]
  | some k =>
      rw [answer?_of_parse? hparse, answer?_of_parse? hparse]
      exact h k (mem_extract_iff.2 ⟨key, hkey, hparse⟩)

theorem resolve_congr {value : String}
    (h : ∀ k ∈ extract ns value, secrets.lookup? k.name = others.lookup? k.name) :
    resolve ns secrets value = resolve ns others value := by
  rw [resolve_eq, resolve_eq, answers_congr h]

theorem outcomeOf_congr {p : String × String}
    (h : ∀ k ∈ extract ns p.2, secrets.lookup? k.name = others.lookup? k.name) :
    outcomeOf ns secrets p = outcomeOf ns others p := by
  have hnames : ((extract ns p.2).map StoreKey.name).filter secrets.contains =
      ((extract ns p.2).map StoreKey.name).filter others.contains := by
    apply List.filter_congr
    intro name hname
    obtain ⟨k, hk, rfl⟩ := List.mem_map.1 hname
    rw [Secrets.contains_eq_isSome, Secrets.contains_eq_isSome, h k hk]
  unfold outcomeOf
  rw [resolve_congr h, hnames]

/-- The outcomes of a pass depend on the secrets that a scan lists. -/
theorem outcomes_congr
    (h : ∀ name ∈ (scan ns parameters).value.secretNames, secrets.lookup? name = others.lookup? name) :
    outcomes ns secrets parameters = outcomes ns others parameters := by
  apply List.filterMap_congr
  intro p hp
  rw [ofParameter?_eq, ofParameter?_eq, outcomeOf_congr]
  intro k hk
  exact h k.name (mem_secretNames_scan.2 ⟨p, hp, k, hk, rfl⟩)

theorem outcomes_restrict (ns : Namespace) (secrets : Secrets) (parameters : List (String × String)) :
    outcomes ns (secrets.restrict (scan ns parameters).value.secretNames) parameters =
      outcomes ns secrets parameters :=
  outcomes_congr fun _ hname => Secrets.lookup?_restrict hname secrets

/-! ### A single secret -/

theorem percentFree_ofTexts_empty (name : String) : (Secrets.ofTexts [(name, "")]).PercentFree := by
  intro e he
  obtain rfl : e = (name, ⟨""⟩) := List.mem_singleton.1 he
  exact List.not_mem_nil

theorem contains_ofTexts_self (name : String) : (Secrets.ofTexts [(name, "")]).contains name = true := by
  rw [Secrets.contains_eq_isSome, Secrets.lookup?_ofTexts_self]
  rfl

theorem isEmpty_updates_ofTexts {name : String} (h : name ∈ (scan ns parameters).value.secretNames) :
    (runPass ns (Secrets.ofTexts [(name, "")]) parameters).value.updates.isEmpty = false := by
  obtain ⟨p, hp, k, hk, rfl⟩ := mem_secretNames_scan.1 h
  obtain ⟨text, htext⟩ := (exists_text?_iff (percentFree_ofTexts_empty k.name) p.2).2
    ⟨k, hk, contains_ofTexts_self k.name⟩
  have hupdated : p.1 ∈ (runPass ns (Secrets.ofTexts [(k.name, "")]) parameters).value.updates.keys := by
    rw [updates_runPass, Dict.mem_keys_ofList, List.mem_map]
    exact ⟨(p.1, text), List.mem_filterMap.2 ⟨p, hp, by rw [htext]; rfl⟩, rfl⟩
  obtain ⟨new, hnew⟩ := (Dict.mem_keys_iff _).1 hupdated
  rw [← Bool.not_eq_true, Dict.isEmpty_iff]
  intro hnone
  rw [hnone p.1] at hnew
  cases hnew

/-- A pass uses the secrets that a scan lists, no others, and each of them. -/
theorem runPass_uses_scanned (ns : Namespace) (secrets : Secrets) (parameters : List (String × String)) :
    let names := (scan ns parameters).value.secretNames
    runPass ns (secrets.restrict names) parameters = runPass ns secrets parameters ∧
      auditRecords ns (secrets.restrict names) parameters = auditRecords ns secrets parameters ∧
      ∀ name ∈ names, (runPass ns (Secrets.ofTexts [(name, "")]) parameters).value.updates.isEmpty = false := by
  intro names
  refine ⟨?_, ?_, fun name hname => isEmpty_updates_ofTexts hname⟩
  · unfold runPass
    rw [outcomes_restrict]
  · unfold auditRecords
    rw [outcomes_restrict]

end SecretRefs

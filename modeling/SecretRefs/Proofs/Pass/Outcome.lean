import SecretRefs.Pass
import SecretRefs.Proofs.Resolution
import SecretRefs.Proofs.Scan

/-! A pass parameter by parameter. A parameter without a reference is left out of a pass; it would change
nothing, since its value resolves to itself and asks for nothing. Where no name is repeated, the updates and
the leftover keys are therefore those of the single values, and the audit records are those of the
parameters that hold a reference. -/

namespace SecretRefs

/-- The keys that the value still asks for after resolving, unless there are none. -/
def leftover? (ns : Namespace) (secrets : Secrets) (value : String) : Option (List StoreKey) :=
  let keys := extract ns ((resolve ns secrets value).finalText value)
  if keys.isEmpty then none else some keys

/-- What becomes of a parameter, whether or not it holds a reference. -/
def outcomeOf (ns : Namespace) (secrets : Secrets) (p : String × String) : ParameterOutcome where
  parameter := p.1
  resolvedNames := distinctNames (((extract ns p.2).map StoreKey.name).filter secrets.contains)
  resolution := resolve ns secrets p.2
  leftover := extract ns ((resolve ns secrets p.2).finalText p.2)

/-- The audit records of a pass. -/
def auditRecords (ns : Namespace) (secrets : Secrets) (parameters : List (String × String)) :
    List AuditRecord :=
  (outcomes ns secrets parameters).map ParameterOutcome.audit

/-- Names as a record shows them. -/
def shownNames (names : List String) : FieldValue :=
  .shown ("[" ++ String.intercalate ", " (names.map Text.quoted) ++ "]")

/-- The audit record of a parameter. It warns if there are unresolved names, and only then lists them. -/
def auditEvent (parameter : String) (resolved unresolved : List String) : Event :=
  if unresolved = [] then
    { level := .debug
      message := "Parameter resolved"
      fields := [("operation", .shown "resolve"), ("parameter", .shown parameter), ("resolved", shownNames resolved)] }
  else
    { level := .warn
      message := "Parameter has unresolved secret references"
      fields := [("operation", .shown "resolve"), ("parameter", .shown parameter), ("resolved", shownNames resolved),
        ("unresolved", shownNames unresolved)] }

variable {ns : Namespace} {secrets : Secrets} {parameters : List (String × String)}

theorem resolved_audit_outcomeOf (p : String × String) :
    (outcomeOf ns secrets p).audit.resolved =
      distinctNames (((extract ns p.2).map StoreKey.name).filter secrets.contains) := by
  rw [ParameterOutcome.audit, outcomeOf]

theorem unresolved_audit_outcomeOf (p : String × String) :
    (outcomeOf ns secrets p).audit.unresolved =
      secretNames (extract ns ((resolve ns secrets p.2).finalText p.2)) := by
  rw [ParameterOutcome.audit, outcomeOf]

theorem ofParameter?_eq (p : String × String) :
    ParameterOutcome.ofParameter? ns secrets p =
      if extract ns p.2 = [] then none else some (outcomeOf ns secrets p) := by
  rw [ParameterOutcome.ofParameter?]
  split
  · next h => rw [if_pos h]
  · next hne => rw [if_neg hne, outcomeOf]

theorem mem_outcomes_iff {o : ParameterOutcome} :
    o ∈ outcomes ns secrets parameters ↔
      ∃ p ∈ parameters, extract ns p.2 ≠ [] ∧ o = outcomeOf ns secrets p := by
  rw [outcomes, List.mem_filterMap]
  apply exists_congr
  intro p
  apply and_congr_right
  intro _
  rw [ofParameter?_eq]
  by_cases h : extract ns p.2 = []
  · simp [h]
  · simp [h, eq_comm]

theorem eq_audit_of_mem_auditRecords {record : AuditRecord}
    (h : record ∈ auditRecords ns secrets parameters) :
    ∃ p ∈ parameters, record = (outcomeOf ns secrets p).audit := by
  obtain ⟨o, ho, rfl⟩ := List.mem_map.1 h
  obtain ⟨p, hp, -, rfl⟩ := mem_outcomes_iff.1 ho
  exact ⟨p, hp, rfl⟩

theorem exists_auditRecords_iff {name : String} :
    (∃ record ∈ auditRecords ns secrets parameters, record.parameter = name) ↔
      ∃ value, (name, value) ∈ parameters ∧ extract ns value ≠ [] := by
  constructor
  · rintro ⟨record, hrecord, rfl⟩
    obtain ⟨o, ho, rfl⟩ := List.mem_map.1 hrecord
    obtain ⟨p, hp, hne, rfl⟩ := mem_outcomes_iff.1 ho
    exact ⟨p.2, hp, hne⟩
  · rintro ⟨value, hp, hne⟩
    exact ⟨_, List.mem_map_of_mem (mem_outcomes_iff.2 ⟨(name, value), hp, hne, rfl⟩), rfl⟩

/-- The parameters with a reference have outcomes, in their order. -/
theorem outcomes_eq_map (ns : Namespace) (secrets : Secrets) (parameters : List (String × String)) :
    outcomes ns secrets parameters =
      (parameters.filter fun p => !(extract ns p.2).isEmpty).map (outcomeOf ns secrets) := by
  rw [outcomes]
  induction parameters with
  | nil => rfl
  | cons p rest ih =>
      by_cases h : extract ns p.2 = []
      · rw [List.filterMap_cons_none (by rw [ofParameter?_eq, if_pos h]), List.filter_cons_of_neg (by simp [h]), ih]
      · rw [List.filterMap_cons_some (by rw [ofParameter?_eq, if_neg h]), List.filter_cons_of_pos (by simp [h]),
          List.map_cons, ih]

theorem AuditRecord.event_eq {r : AuditRecord} (h : r.operation = "resolve") :
    r.event = auditEvent r.parameter r.resolved r.unresolved := by
  obtain ⟨operation, parameter, resolved, unresolved⟩ := r
  obtain rfl := h
  cases unresolved <;> rfl

theorem auditEvent_mem_of_mem_auditRecords {record : AuditRecord} (h : record ∈ auditRecords ns secrets parameters) :
    auditEvent record.parameter record.resolved record.unresolved ∈ (runPass ns secrets parameters).events := by
  obtain ⟨o, ho, rfl⟩ := List.mem_map.1 h
  rw [← AuditRecord.event_eq rfl]
  exact List.mem_append_left _ (List.mem_flatMap.2 ⟨o, ho, List.mem_cons_self⟩)

theorem leftover?_eq_none {value : String} (h : extract ns value = []) : leftover? ns secrets value = none := by
  rw [leftover?, resolve_eq_unchanged (by simp [h])]
  exact if_pos (by rw [show Resolution.unchanged.finalText value = value from rfl, h]; rfl)

theorem leftover?_eq_some {value : String} {keys : List StoreKey} :
    leftover? ns secrets value = some keys ↔
      keys = extract ns ((resolve ns secrets value).finalText value) ∧ keys ≠ [] := by
  rw [leftover?]
  cases extract ns ((resolve ns secrets value).finalText value) with
  | nil =>
      constructor
      · intro h
        cases h
      · rintro ⟨rfl, hne⟩
        exact absurd rfl hne
  | cons k rest =>
      constructor
      · intro h
        cases h
        exact ⟨rfl, List.cons_ne_nil _ _⟩
      · rintro ⟨rfl, -⟩
        rfl

theorem getD_leftover? {value : String} :
    (leftover? ns secrets value).getD [] = extract ns ((resolve ns secrets value).finalText value) := by
  rw [leftover?]
  split
  · next hempty => exact (List.isEmpty_iff.1 hempty).symm
  · rfl

theorem updates_runPass (ns : Namespace) (secrets : Secrets) (parameters : List (String × String)) :
    (runPass ns secrets parameters).value.updates =
      .ofList (parameters.filterMap fun p => (resolve ns secrets p.2).text?.map (p.1, ·)) := by
  change Dict.ofList ((parameters.filterMap (ParameterOutcome.ofParameter? ns secrets)).filterMap _) = _
  rw [List.filterMap_filterMap]
  congr 2
  funext p
  rw [ofParameter?_eq]
  by_cases h : extract ns p.2 = []
  · rw [if_pos h, resolve_eq_unchanged (by simp [h])]
    rfl
  · rw [if_neg h]
    rfl

theorem unresolved_runPass (ns : Namespace) (secrets : Secrets) (parameters : List (String × String)) :
    (runPass ns secrets parameters).value.unresolved =
      .ofList (parameters.filterMap fun p => (leftover? ns secrets p.2).map (p.1, ·)) := by
  change Dict.ofList ((parameters.filterMap (ParameterOutcome.ofParameter? ns secrets)).filterMap _) = _
  rw [List.filterMap_filterMap]
  congr 2
  funext p
  rw [ofParameter?_eq]
  by_cases h : extract ns p.2 = []
  · rw [if_pos h, leftover?_eq_none h]
    rfl
  · rw [if_neg h, Option.bind_some, ParameterOutcome.unresolved?, leftover?, outcomeOf]
    split <;> rfl

theorem PassResult.mem_missingSecrets_iff {result : PassResult} {name : String} :
    name ∈ result.missingSecrets ↔
      ∃ parameter keys, result.unresolved.get? parameter = some keys ∧ ∃ k ∈ keys, k.name = name := by
  rw [missingSecrets, mem_secretNames]
  constructor
  · rintro ⟨k, hk, hname⟩
    obtain ⟨keys, hkeys, hmem⟩ := List.mem_flatten.1 hk
    obtain ⟨parameter, hget⟩ := (Dict.mem_values_iff _).1 hkeys
    exact ⟨parameter, keys, hget, k, hmem, hname⟩
  · rintro ⟨parameter, keys, hget, k, hmem, hname⟩
    exact ⟨k, List.mem_flatten.2 ⟨keys, (Dict.mem_values_iff _).2 ⟨parameter, hget⟩, hmem⟩, hname⟩

/-! ### Parameters without repeated names -/

theorem eq_of_mem_of_mem (hnames : (parameters.map Prod.fst).Nodup) {name value value' : String}
    (h : (name, value) ∈ parameters) (h' : (name, value') ∈ parameters) : value = value' := by
  rw [← Dict.lookup_eq_some_iff_mem hnames] at h h'
  exact Option.some.inj (h.symm.trans h')

theorem nodup_names_filterMap {β : Type} (f : String → Option β)
    (hnames : (parameters.map Prod.fst).Nodup) :
    ((parameters.filterMap fun p => (f p.2).map (p.1, ·)).map Prod.fst).Nodup := by
  refine List.Nodup.sublist ?_ hnames
  induction parameters with
  | nil => exact List.Sublist.refl _
  | cons p rest ih =>
      have hrest := ih (List.nodup_cons.1 hnames).2
      cases hf : f p.2 with
      | none =>
          rw [List.filterMap_cons_none (by rw [hf]; rfl)]
          exact hrest.cons _
      | some v =>
          rw [List.filterMap_cons_some (by rw [hf]; rfl)]
          exact hrest.cons_cons _

theorem get?_ofList_filterMap {β : Type} (f : String → Option β) (hnames : (parameters.map Prod.fst).Nodup)
    {name : String} {v : β} :
    (Dict.ofList (parameters.filterMap fun p => (f p.2).map (p.1, ·))).get? name = some v ↔
      ∃ value, (name, value) ∈ parameters ∧ f value = some v := by
  rw [Dict.get?_ofList_eq_some_iff (nodup_names_filterMap f hnames), List.mem_filterMap]
  constructor
  · rintro ⟨⟨n, value⟩, hmem, hsome⟩
    obtain ⟨w, hw, heq⟩ := Option.map_eq_some_iff.1 hsome
    obtain ⟨rfl, rfl⟩ := Prod.mk.inj heq
    exact ⟨value, hmem, hw⟩
  · rintro ⟨value, hmem, hv⟩
    exact ⟨(name, value), hmem, by rw [hv]; rfl⟩

theorem get?_updates (hnames : (parameters.map Prod.fst).Nodup) {name text : String} :
    (runPass ns secrets parameters).value.updates.get? name = some text ↔
      ∃ value, (name, value) ∈ parameters ∧ (resolve ns secrets value).text? = some text := by
  rw [updates_runPass]
  exact get?_ofList_filterMap (fun value => (resolve ns secrets value).text?) hnames

theorem get?_unresolved (hnames : (parameters.map Prod.fst).Nodup) {name : String} {keys : List StoreKey} :
    (runPass ns secrets parameters).value.unresolved.get? name = some keys ↔
      ∃ value, (name, value) ∈ parameters ∧ leftover? ns secrets value = some keys := by
  rw [unresolved_runPass]
  exact get?_ofList_filterMap (leftover? ns secrets) hnames

theorem get?_updates_of_mem (hnames : (parameters.map Prod.fst).Nodup) {p : String × String} (hp : p ∈ parameters) :
    (runPass ns secrets parameters).value.updates.get? p.1 = (resolve ns secrets p.2).text? := by
  ext text
  rw [get?_updates hnames]
  constructor
  · rintro ⟨value, hvalue, htext⟩
    rwa [eq_of_mem_of_mem hnames hp hvalue]
  · intro htext
    exact ⟨p.2, hp, htext⟩

theorem get?_unresolved_of_mem (hnames : (parameters.map Prod.fst).Nodup) {p : String × String}
    (hp : p ∈ parameters) : (runPass ns secrets parameters).value.unresolved.get? p.1 = leftover? ns secrets p.2 := by
  ext keys
  rw [get?_unresolved hnames]
  constructor
  · rintro ⟨value, hvalue, hkeys⟩
    rwa [eq_of_mem_of_mem hnames hp hvalue]
  · intro hkeys
    exact ⟨p.2, hp, hkeys⟩

end SecretRefs

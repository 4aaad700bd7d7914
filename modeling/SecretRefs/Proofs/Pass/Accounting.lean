import SecretRefs.Proofs.Pass.Outcome
import SecretRefs.Proofs.Scan

/-! The accounts of a pass whose secrets hold no percent sign. The updates, the leftover keys, the names in the
audit records and the missing secrets are computed apart from each other, partly by reading the new text
again; all of them are what the keys of the values and the names at hand make them. -/

namespace SecretRefs

variable {ns : Namespace} {secrets : Secrets} {parameters : List (String × String)}

theorem mem_resolved_audit_outcomeOf {p : String × String} {name : String} :
    name ∈ (outcomeOf ns secrets p).audit.resolved ↔
      (∃ k ∈ extract ns p.2, k.name = name) ∧ secrets.contains name = true := by
  rw [resolved_audit_outcomeOf, mem_distinctNames, List.mem_filter, List.mem_map]

section PercentFree

variable (hfree : secrets.PercentFree)
include hfree

theorem exists_text?_iff (value : String) :
    (∃ text, (resolve ns secrets value).text? = some text) ↔
      ∃ k ∈ extract ns value, secrets.contains k.name = true := by
  have hunchanged : (resolve ns secrets value).isUnchanged = true ↔ _ := isUnchanged_resolve_iff hfree value
  cases hresolve : resolve ns secrets value with
  | unchanged =>
      rw [hresolve] at hunchanged
      have hmissing := hunchanged.1 rfl
      constructor
      · rintro ⟨text, htext⟩
        cases htext
      · rintro ⟨k, hk, hcontains⟩
        rw [hmissing k hk] at hcontains
        cases hcontains
  | resolved text =>
      rw [hresolve] at hunchanged
      constructor
      · intro _
        by_contra hnone
        have hmissing : ∀ k ∈ extract ns value, secrets.contains k.name = false := by
          intro k hk
          rw [← Bool.not_eq_true]
          intro hcontains
          exact hnone ⟨k, hk, hcontains⟩
        cases hunchanged.2 hmissing
      · intro _
        exact ⟨text, rfl⟩

theorem leftover?_eq_some_iff {value : String} {keys : List StoreKey} :
    leftover? ns secrets value = some keys ↔
      keys = (extract ns value).filter (fun k => !secrets.contains k.name) ∧ keys ≠ [] := by
  rw [leftover?_eq_some, extract_finalText hfree]

theorem mem_unresolved_audit_outcomeOf {p : String × String} {name : String} :
    name ∈ (outcomeOf ns secrets p).audit.unresolved ↔
      (∃ k ∈ extract ns p.2, k.name = name) ∧ secrets.contains name = false := by
  rw [unresolved_audit_outcomeOf, extract_finalText hfree, mem_secretNames]
  constructor
  · rintro ⟨k, hk, rfl⟩
    obtain ⟨hmem, hmissing⟩ := List.mem_filter.1 hk
    exact ⟨⟨k, hmem, rfl⟩, by simpa using hmissing⟩
  · rintro ⟨⟨k, hmem, rfl⟩, hmissing⟩
    exact ⟨k, List.mem_filter.2 ⟨hmem, by rw [hmissing]; rfl⟩, rfl⟩

theorem disjoint_audit_outcomeOf (p : String × String) :
    ((outcomeOf ns secrets p).audit.resolved).Disjoint (outcomeOf ns secrets p).audit.unresolved := by
  intro name hresolved hunresolved
  rw [mem_resolved_audit_outcomeOf] at hresolved
  rw [mem_unresolved_audit_outcomeOf hfree] at hunresolved
  rw [hresolved.2] at hunresolved
  cases hunresolved.2

/-- The names of a record are those of the value. -/
theorem perm_audit_outcomeOf (p : String × String) :
    ((outcomeOf ns secrets p).audit.resolved ++ (outcomeOf ns secrets p).audit.unresolved).Perm
      (secretNames (extract ns p.2)) := by
  have hresolved : (outcomeOf ns secrets p).audit.resolved.Nodup := by
    rw [resolved_audit_outcomeOf]
    exact nodup_distinctNames _
  have hunresolved : (outcomeOf ns secrets p).audit.unresolved.Nodup := by
    rw [unresolved_audit_outcomeOf]
    exact nodup_secretNames _
  have hnodup := List.nodup_append'.2 ⟨hresolved, hunresolved, disjoint_audit_outcomeOf hfree p⟩
  rw [List.perm_ext_iff_of_nodup hnodup (nodup_secretNames _)]
  intro name
  rw [List.mem_append, mem_resolved_audit_outcomeOf, mem_unresolved_audit_outcomeOf hfree, mem_secretNames]
  cases secrets.contains name <;> simp

/-- The missing secrets are those that a scan lists and that are not at hand. -/
theorem missingSecrets_eq (hnames : (parameters.map Prod.fst).Nodup) :
    (runPass ns secrets parameters).value.missingSecrets =
      (scan ns parameters).value.secretNames.filter fun name => !secrets.contains name := by
  rw [PassResult.missingSecrets, ReferenceReport.secretNames]
  apply eq_of_increasing id (secretNames_increasing _) ((secretNames_increasing _).filter _)
  intro name
  rw [← PassResult.missingSecrets, PassResult.mem_missingSecrets_iff, List.mem_filter, ← ReferenceReport.secretNames,
    mem_secretNames_scan]
  constructor
  · rintro ⟨parameter, keys, hget, k, hk, rfl⟩
    obtain ⟨value, hp, hleft⟩ := (get?_unresolved hnames).1 hget
    rw [((leftover?_eq_some_iff hfree).1 hleft).1] at hk
    obtain ⟨hextract, hmissing⟩ := List.mem_filter.1 hk
    exact ⟨⟨(parameter, value), hp, k, hextract, rfl⟩, hmissing⟩
  · rintro ⟨⟨p, hp, k, hk, rfl⟩, hmissing⟩
    have hmem : k ∈ (extract ns p.2).filter fun k => !secrets.contains k.name :=
      List.mem_filter.2 ⟨hk, hmissing⟩
    have hleft := (leftover?_eq_some_iff hfree).2 ⟨rfl, List.ne_nil_of_mem hmem⟩
    exact ⟨p.1, _, (get?_unresolved hnames).2 ⟨p.2, hp, hleft⟩, k, hmem, rfl⟩

theorem unresolved_eq_empty (hnames : (parameters.map Prod.fst).Nodup)
    (hall : ∀ name ∈ (scan ns parameters).value.secretNames, secrets.contains name = true) :
    (runPass ns secrets parameters).value.unresolved = ∅ := by
  rw [Dict.eq_empty_iff]
  intro parameter
  by_contra hsome
  obtain ⟨keys, hkeys⟩ := Option.ne_none_iff_exists'.1 hsome
  obtain ⟨value, hp, hleft⟩ := (get?_unresolved hnames).1 hkeys
  obtain ⟨rfl, hne⟩ := (leftover?_eq_some_iff hfree).1 hleft
  obtain ⟨k, hk⟩ := List.exists_mem_of_ne_nil _ hne
  obtain ⟨hextract, hmissing⟩ := List.mem_filter.1 hk
  rw [hall k.name (mem_secretNames_scan.2 ⟨_, hp, k, hextract, rfl⟩)] at hmissing
  cases hmissing

end PercentFree

/-! ### The accounts together -/

/-- What the report of a pass says, in terms of the keys of the values and the names at hand. -/
structure PassAccounts (ns : Namespace) (secrets : Secrets) (parameters : List (String × String)) :
    Prop where
  /-- A parameter is updated if the secret of one of its keys is at hand. -/
  updated (name : String) : (runPass ns secrets parameters).value.updates.contains name = true ↔
    ∃ value, (name, value) ∈ parameters ∧ ∃ k ∈ extract ns value, secrets.contains k.name = true
  /-- The keys left to a parameter are those of its value whose secrets are not at hand. -/
  unresolved (name : String) (keys : List StoreKey) :
    (runPass ns secrets parameters).value.unresolved.get? name = some keys ↔
      ∃ value, (name, value) ∈ parameters ∧
        keys = (extract ns value).filter (fun k => !secrets.contains k.name) ∧ keys ≠ []
  /-- The parameters with a reference have an audit record, and no others. -/
  audited (name : String) : (∃ record ∈ auditRecords ns secrets parameters, record.parameter = name) ↔
    ∃ value, (name, value) ∈ parameters ∧ extract ns value ≠ []
  logged : ∀ record ∈ auditRecords ns secrets parameters,
    auditEvent record.parameter record.resolved record.unresolved ∈ (runPass ns secrets parameters).events
  /-- A record splits the names of its value into those put in and those left. -/
  audit : ∀ record ∈ auditRecords ns secrets parameters, ∀ value, (record.parameter, value) ∈ parameters →
    record.resolved.Disjoint record.unresolved ∧
      (record.resolved ++ record.unresolved).Perm (secretNames (extract ns value))
  missing : (runPass ns secrets parameters).value.missingSecrets =
    (scan ns parameters).value.secretNames.filter fun name => !secrets.contains name
  /-- With all the secrets that a scan lists nothing is left. -/
  complete : (∀ name ∈ (scan ns parameters).value.secretNames, secrets.contains name = true) →
    (runPass ns secrets parameters).value.unresolved = ∅

theorem accounts_runPass (ns : Namespace) {secrets : Secrets} {parameters : List (String × String)}
    (hnames : (parameters.map Prod.fst).Nodup) (hfree : secrets.PercentFree) :
    PassAccounts ns secrets parameters where
  updated name := by
    rw [Dict.contains_iff]
    simp only [get?_updates hnames]
    constructor
    · rintro ⟨text, value, hp, htext⟩
      exact ⟨value, hp, (exists_text?_iff hfree value).1 ⟨text, htext⟩⟩
    · rintro ⟨value, hp, hk⟩
      obtain ⟨text, htext⟩ := (exists_text?_iff hfree value).2 hk
      exact ⟨text, value, hp, htext⟩
  unresolved name keys := by
    rw [get?_unresolved hnames]
    simp only [leftover?_eq_some_iff hfree]
  audited name := exists_auditRecords_iff
  logged _ := auditEvent_mem_of_mem_auditRecords
  audit record hrecord value hp := by
    obtain ⟨⟨name, value'⟩, hp', rfl⟩ := eq_audit_of_mem_auditRecords hrecord
    obtain rfl : value = value' := eq_of_mem_of_mem hnames hp hp'
    exact ⟨disjoint_audit_outcomeOf hfree _, perm_audit_outcomeOf hfree _⟩
  missing := missingSecrets_eq hfree hnames
  complete := unresolved_eq_empty hfree hnames

/-- One value keeps a key behind an open percent sign, gets one secret twice, and has an escape. -/
theorem accounts_runPass_partial :
    PassAccounts .standard (Secrets.ofTexts [("a", "x y"), ("c", "")])
      [("p", "5% %vault:a%%vault:b%%%%vault:a%"), ("q", "%vault:c%"), ("r", "%env.HOME%")] :=
  accounts_runPass .standard (by decide) (by decide)

end SecretRefs

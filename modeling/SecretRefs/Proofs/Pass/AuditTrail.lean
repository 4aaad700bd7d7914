import SecretRefs.Proofs.Pass.Outcome
import SecretRefs.Proofs.Scan
import SecretRefs.Proofs.Text.Quoted

/-! The trail that a pass leaves in the log. It can be told from what the pass returns and from a scan: each parameter
that the scan lists has an audit record, followed by a second record if the result has no update for it; at the
end there is a warning for each missing secret. What a record calls unresolved are the names that the result still
has for its parameter, so the records that warn and the last warnings speak of the same secrets, and whoever has
nothing but the log can tell so. -/

namespace SecretRefs

variable {ns : Namespace} {secrets : Secrets} {parameters : List (String × String)}

/-- The parameters that a scan lists, as they stand in the list. -/
def scanned (ns : Namespace) (parameters : List (String × String)) : List (String × String) :=
  parameters.filter fun p => p.1 ∈ (scan ns parameters).value.parameters.members

/-- The record of a parameter that keeps its value. -/
def unchangedEvent (parameter : String) : Event :=
  { level := .debug, message := "Parameter unchanged", fields := [("parameter", .text parameter)] }

/-- The warning about a missing secret. -/
def missingEvent (name : String) : Event :=
  { level := .warn, message := "Secret reference not resolved", fields := [("secret", .text name)] }

/-- The names that a value asks for and that have a secret. -/
def foundNames (ns : Namespace) (secrets : Secrets) (value : String) : List String :=
  distinctNames (((extract ns value).map StoreKey.name).filter secrets.contains)

namespace PassResult

/-- The names that a parameter still asks for. -/
def leftNames (r : PassResult) (parameter : String) : List String :=
  secretNames ((r.unresolved.get? parameter).getD [])

/-- The audit record of a parameter as a result has it. -/
def auditOf (r : PassResult) (ns : Namespace) (secrets : Secrets) (p : String × String) : Event :=
  auditEvent p.1 (foundNames ns secrets p.2) (r.leftNames p.1)

/-- The records of a parameter as a result has them. -/
def trailOf (r : PassResult) (ns : Namespace) (secrets : Secrets) (p : String × String) : List Event :=
  r.auditOf ns secrets p :: if r.updates.contains p.1 then [] else [unchangedEvent p.1]

end PassResult

/-! ### Records -/

theorem level_auditEvent_eq_warn_iff {parameter : String} {resolved unresolved : List String} :
    (auditEvent parameter resolved unresolved).level = .warn ↔ unresolved ≠ [] := by
  rw [auditEvent]
  by_cases h : unresolved = [] <;> simp [h]

/-- A record tells the names that it calls unresolved. -/
theorem unresolved_eq_of_auditEvent_eq {parameter parameter' : String}
    {resolved unresolved resolved' unresolved' : List String}
    (h : auditEvent parameter resolved unresolved = auditEvent parameter' resolved' unresolved') :
    unresolved = unresolved' := by
  have hlevel : unresolved ≠ [] ↔ unresolved' ≠ [] := by
    rw [← level_auditEvent_eq_warn_iff, h, level_auditEvent_eq_warn_iff]
  by_cases hnone : unresolved = []
  · rw [hnone, Decidable.not_not.1 (mt hlevel.2 (not_not_intro hnone))]
  · rw [auditEvent, if_neg hnone, auditEvent, if_neg (hlevel.1 hnone), Event.mk.injEq] at h
    simp only [List.cons.injEq, Prod.mk.injEq, true_and, and_true, shownNames, FieldValue.shown.injEq] at h
    exact Text.quotedList_inj h.2.2

theorem auditEvent_ne_unchangedEvent (parameter name : String) (resolved unresolved : List String) :
    auditEvent parameter resolved unresolved ≠ unchangedEvent name := by
  rw [auditEvent, unchangedEvent]
  split <;> simp

theorem auditEvent_ne_missingEvent (parameter name : String) (resolved unresolved : List String) :
    auditEvent parameter resolved unresolved ≠ missingEvent name := by
  rw [auditEvent, missingEvent]
  split <;> simp

theorem missingEvent_inj {name other : String} : missingEvent name = missingEvent other ↔ name = other := by
  simp [missingEvent]

theorem mem_foundNames_iff {value name : String} :
    name ∈ foundNames ns secrets value ↔
      ∃ k ∈ extract ns value, k.name = name ∧ ∃ text, secrets.get? name = some text := by
  rw [foundNames, mem_distinctNames, List.mem_filter, List.mem_map, Dict.contains, Option.isSome_iff_exists]
  constructor
  · rintro ⟨⟨k, hk, hname⟩, hsecret⟩
    exact ⟨k, hk, hname, hsecret⟩
  · rintro ⟨k, hk, hname, hsecret⟩
    exact ⟨⟨k, hk, hname⟩, hsecret⟩

theorem PassResult.mem_leftNames_iff {r : PassResult} {parameter name : String} :
    name ∈ r.leftNames parameter ↔ ∃ keys, r.unresolved.get? parameter = some keys ∧ ∃ k ∈ keys, k.name = name := by
  rw [leftNames, mem_secretNames]
  cases r.unresolved.get? parameter <;> simp

theorem PassResult.mem_trailOf_iff {r : PassResult} {p : String × String} {e : Event} :
    e ∈ r.trailOf ns secrets p ↔ e = r.auditOf ns secrets p ∨ r.updates.contains p.1 = false ∧ e = unchangedEvent p.1 := by
  rw [trailOf, List.mem_cons]
  cases r.updates.contains p.1 <;> simp

section Distinct

variable (hnames : (parameters.map Prod.fst).Nodup)
include hnames

/-- Without a repeated name, the scan lists a parameter for its own value. -/
theorem mem_parameters_scan_iff {p : String × String} (hp : p ∈ parameters) :
    p.1 ∈ (scan ns parameters).value.parameters.members ↔ extract ns p.2 ≠ [] := by
  rw [mem_parameters_scan]
  constructor
  · rintro ⟨value, hvalue, hne⟩
    rwa [eq_of_mem_of_mem hnames hp hvalue]
  · intro hne
    exact ⟨p.2, hp, hne⟩

theorem scanned_eq : scanned ns parameters = parameters.filter fun p => !(extract ns p.2).isEmpty := by
  apply List.filter_congr
  intro p hp
  rw [Bool.eq_iff_iff, decide_eq_true_iff, mem_parameters_scan_iff hnames hp]
  simp

theorem map_fst_scanned_perm : ((scanned ns parameters).map Prod.fst).Perm (scan ns parameters).value.parameters.members := by
  have hnodup : ((scanned ns parameters).map Prod.fst).Nodup :=
    hnames.sublist (List.Sublist.map Prod.fst List.filter_sublist)
  refine (List.perm_ext_iff_of_nodup hnodup (scan ns parameters).value.parameters.nodup_keys).2 fun name => ?_
  rw [scanned, List.mem_map]
  constructor
  · rintro ⟨p, hp, rfl⟩
    exact of_decide_eq_true (List.mem_filter.1 hp).2
  · intro hname
    obtain ⟨value, hp, -⟩ := mem_parameters_scan.1 hname
    exact ⟨(name, value), List.mem_filter.2 ⟨hp, decide_eq_true hname⟩, rfl⟩

theorem auditOf_runPass {p : String × String} (hp : p ∈ parameters) :
    (runPass ns secrets parameters).value.auditOf ns secrets p = (outcomeOf ns secrets p).audit.event := by
  rw [AuditRecord.event_eq rfl, resolved_audit_outcomeOf, unresolved_audit_outcomeOf, PassResult.auditOf,
    PassResult.leftNames, get?_unresolved_of_mem hnames hp, getD_leftover?, foundNames, outcomeOf,
    ParameterOutcome.audit]

theorem trailOf_runPass {p : String × String} (hp : p ∈ parameters) :
    (runPass ns secrets parameters).value.trailOf ns secrets p = (outcomeOf ns secrets p).events := by
  rw [PassResult.trailOf, auditOf_runPass hnames hp, ParameterOutcome.events, Dict.contains,
    get?_updates_of_mem hnames hp, outcomeOf]
  cases resolve ns secrets p.2 <;> rfl

theorem events_runPass_eq : (runPass ns secrets parameters).events =
    (scanned ns parameters).flatMap ((runPass ns secrets parameters).value.trailOf ns secrets) ++
      (runPass ns secrets parameters).value.missingSecrets.map missingEvent := by
  have htrail : (scanned ns parameters).flatMap ((runPass ns secrets parameters).value.trailOf ns secrets) =
      (outcomes ns secrets parameters).flatMap ParameterOutcome.events := by
    rw [outcomes_eq_map, List.flatMap_map, ← scanned_eq hnames]
    exact List.flatMap_congr fun p hp => trailOf_runPass hnames (List.mem_filter.1 hp).1
  rw [htrail]
  rfl

theorem level_auditOf_eq_warn_iff {p : String × String} (hp : p ∈ parameters) :
    ((runPass ns secrets parameters).value.auditOf ns secrets p).level = .warn ↔
      (runPass ns secrets parameters).value.unresolved.contains p.1 = true := by
  rw [PassResult.auditOf, level_auditEvent_eq_warn_iff, PassResult.leftNames, ne_eq, secretNames_eq_nil_iff,
    Dict.contains, get?_unresolved_of_mem hnames hp, leftover?]
  split <;> simp_all

/-- A parameter with leftover keys is one that the scan lists. -/
theorem exists_scanned_of_get?_unresolved {parameter : String} {keys : List StoreKey}
    (hget : (runPass ns secrets parameters).value.unresolved.get? parameter = some keys) :
    ∃ p ∈ scanned ns parameters, p.1 = parameter := by
  obtain ⟨value, hp, hleft⟩ := (get?_unresolved hnames).1 hget
  refine ⟨(parameter, value), ?_, rfl⟩
  rw [scanned_eq hnames, List.mem_filter]
  refine ⟨hp, ?_⟩
  by_contra hnone
  rw [leftover?_eq_none (by simpa using hnone)] at hleft
  cases hleft

theorem mem_missingSecrets_runPass_iff {name : String} :
    name ∈ (runPass ns secrets parameters).value.missingSecrets ↔
      ∃ p ∈ scanned ns parameters, name ∈ (runPass ns secrets parameters).value.leftNames p.1 := by
  rw [PassResult.mem_missingSecrets_iff]
  simp only [PassResult.mem_leftNames_iff]
  constructor
  · rintro ⟨parameter, keys, hget, hkey⟩
    obtain ⟨p, hp, rfl⟩ := exists_scanned_of_get?_unresolved hnames hget
    exact ⟨p, hp, keys, hget, hkey⟩
  · rintro ⟨p, -, keys, hget, hkey⟩
    exact ⟨p.1, keys, hget, hkey⟩

/-! ### Records in the log -/

theorem auditEvent_mem_events_iff {parameter : String} {resolved unresolved : List String} :
    auditEvent parameter resolved unresolved ∈ (runPass ns secrets parameters).events ↔
      ∃ p ∈ scanned ns parameters,
        auditEvent parameter resolved unresolved = (runPass ns secrets parameters).value.auditOf ns secrets p := by
  rw [events_runPass_eq hnames, List.mem_append, List.mem_flatMap, List.mem_map]
  simp only [PassResult.mem_trailOf_iff]
  constructor
  · rintro (⟨p, hp, haudit | ⟨-, hunchanged⟩⟩ | ⟨name, -, hmissing⟩)
    · exact ⟨p, hp, haudit⟩
    · exact absurd hunchanged (auditEvent_ne_unchangedEvent _ _ _ _)
    · exact absurd hmissing.symm (auditEvent_ne_missingEvent _ _ _ _)
  · rintro ⟨p, hp, haudit⟩
    exact .inl ⟨p, hp, .inl haudit⟩

theorem missingEvent_mem_events_iff {name : String} :
    missingEvent name ∈ (runPass ns secrets parameters).events ↔
      name ∈ (runPass ns secrets parameters).value.missingSecrets := by
  rw [events_runPass_eq hnames, List.mem_append, List.mem_flatMap, List.mem_map]
  simp only [PassResult.mem_trailOf_iff, missingEvent_inj, exists_eq_right]
  refine or_iff_right ?_
  rintro ⟨p, -, haudit | ⟨-, hunchanged⟩⟩
  · exact auditEvent_ne_missingEvent _ _ _ _ haudit.symm
  · simp [missingEvent, unchangedEvent] at hunchanged

/-- The warnings name what the audit records call unresolved, so far as the log goes. -/
theorem missingEvent_mem_events_iff_auditEvent {name : String} :
    missingEvent name ∈ (runPass ns secrets parameters).events ↔
      ∃ parameter resolved unresolved,
        auditEvent parameter resolved unresolved ∈ (runPass ns secrets parameters).events ∧ name ∈ unresolved := by
  simp only [missingEvent_mem_events_iff hnames, mem_missingSecrets_runPass_iff hnames, auditEvent_mem_events_iff hnames]
  constructor
  · rintro ⟨p, hp, hname⟩
    exact ⟨p.1, foundNames ns secrets p.2, _, ⟨p, hp, rfl⟩, hname⟩
  · rintro ⟨parameter, resolved, unresolved, ⟨p, hp, haudit⟩, hname⟩
    rw [unresolved_eq_of_auditEvent_eq haudit] at hname
    exact ⟨p, hp, hname⟩

end Distinct

/-- The log of a pass beside its result and a scan of the same parameters. -/
structure TrailAgrees (ns : Namespace) (secrets : Secrets) (parameters : List (String × String)) : Prop where
  /-- Every name that the scan lists is audited once. -/
  audited : ((scanned ns parameters).map Prod.fst).Perm (scan ns parameters).value.parameters.members
  events : (runPass ns secrets parameters).events =
    (scanned ns parameters).flatMap ((runPass ns secrets parameters).value.trailOf ns secrets) ++
      (runPass ns secrets parameters).value.missingSecrets.map missingEvent
  increasing : (runPass ns secrets parameters).value.missingSecrets.Pairwise fun a b => compare a b = .lt
  /-- The resolved names of a record are in order, and are those that the value asks for and that have a secret. -/
  resolved (value : String) : (foundNames ns secrets value).Pairwise (fun a b => compare a b = .lt) ∧
    ∀ name, name ∈ foundNames ns secrets value ↔
      ∃ k ∈ extract ns value, k.name = name ∧ ∃ text, secrets.get? name = some text
  /-- Its unresolved names are in order, and are those of the keys that the result has for the parameter. -/
  unresolved (parameter : String) :
    ((runPass ns secrets parameters).value.leftNames parameter).Pairwise (fun a b => compare a b = .lt) ∧
      ∀ name, name ∈ (runPass ns secrets parameters).value.leftNames parameter ↔
        ∃ keys, (runPass ns secrets parameters).value.unresolved.get? parameter = some keys ∧ ∃ k ∈ keys, k.name = name
  /-- A record warns if the result has leftover keys for its parameter. -/
  warns (p : String × String) : p ∈ scanned ns parameters →
    (((runPass ns secrets parameters).value.auditOf ns secrets p).level = .warn ↔
      (runPass ns secrets parameters).value.unresolved.contains p.1 = true)
  /-- The secrets that are missing are those that the records call unresolved. -/
  missing (name : String) : name ∈ (runPass ns secrets parameters).value.missingSecrets ↔
    ∃ p ∈ scanned ns parameters, name ∈ (runPass ns secrets parameters).value.leftNames p.1
  /-- The log alone tells as much: a warning names a secret if a record that warns does. -/
  told (name : String) : missingEvent name ∈ (runPass ns secrets parameters).events ↔
    ∃ parameter resolved unresolved, auditEvent parameter resolved unresolved ∈ (runPass ns secrets parameters).events ∧
      (auditEvent parameter resolved unresolved).level = .warn ∧ name ∈ unresolved

/-- **The trail of a pass agrees with its result.** The secrets may hold anything. -/
theorem trailAgrees_runPass (ns : Namespace) (secrets : Secrets) {parameters : List (String × String)}
    (hnames : (parameters.map Prod.fst).Nodup) : TrailAgrees ns secrets parameters where
  audited := map_fst_scanned_perm hnames
  events := events_runPass_eq hnames
  increasing := secretNames_increasing _
  resolved value := ⟨distinctNames_increasing _, fun name => mem_foundNames_iff⟩
  unresolved parameter := ⟨secretNames_increasing _, fun name => PassResult.mem_leftNames_iff⟩
  warns _ hp := level_auditOf_eq_warn_iff hnames (List.mem_filter.1 hp).1
  missing _ := mem_missingSecrets_runPass_iff hnames
  told name := by
    rw [missingEvent_mem_events_iff_auditEvent hnames]
    refine exists_congr fun parameter => exists_congr fun resolved => exists_congr fun unresolved => ?_
    refine and_congr_right fun _ => (and_iff_right_of_imp fun hname => ?_).symm
    exact level_auditEvent_eq_warn_iff.2 (List.ne_nil_of_mem hname)

/-- One secret brings a reference into a value that keeps another, and one is the reference that it replaces. -/
theorem trailAgrees_runPass_reentering :
    TrailAgrees .standard (Secrets.ofTexts [("a", "x %vault:d%"), ("b", "%vault:b%")])
      [("p", "%vault:a%%vault:c%"), ("q", "%vault:b%"), ("r", "100%"), ("s", "%vault:c%%vault:c%")] :=
  trailAgrees_runPass .standard _ (by decide)

end SecretRefs

import SecretRefs.Proofs.Command.Resolve
import SecretRefs.Proofs.Pass.Outcome

/-! Secrets that are missing. The keys left to a parameter are read from its final text, where a secret that
leaves a percent sign open takes away the percent sign that opens the next reference. A mapping without such
a secret reports every missing secret; with one, there is a parameter whose missing secret goes unreported. -/

namespace SecretRefs

open Command (ResolveRun)

/-- A text behind which a percent sign is still open: neither another one nor a blank has followed it. -/
def LeavesOpen (text : String) : Prop := Standing.outside.after text.toList ≠ .outside

instance (text : String) : Decidable (LeavesOpen text) := inferInstanceAs (Decidable (_ ≠ _))

/-- No secret that a reference can name leaves a percent sign open. -/
def Secrets.Closed (secrets : Secrets) : Prop :=
  ∀ name r, IsRun name.toList → secrets.lookup? name = some r → ¬ LeavesOpen r

/-- What a pass has to do about a key of a parameter whose secret is missing. -/
structure Reports (ns : Namespace) (secrets : Secrets) (parameters : List (String × String))
    (parameter : String) (k : StoreKey) : Prop where
  listed : ∃ keys, (runPass ns secrets parameters).value.unresolved.get? parameter = some keys ∧ k ∈ keys
  flagged : (runPass ns secrets parameters).value.hasLeftovers = true
  /-- A strict run over these parameters fails. -/
  fails : ∀ {files override arguments} (r : ResolveRun files override arguments),
    r.scope = ns → r.secrets = secrets → r.parameters.entries = parameters → r.strict = true →
      (Command.run files override arguments).exitCode = 1

/-- With these secrets, a pass reports the missing secrets of any parameters. -/
def ReportsMissing (ns : Namespace) (secrets : Secrets) : Prop :=
  ∀ parameters : List (String × String), (parameters.map Prod.fst).Nodup →
    ∀ p ∈ parameters, ∀ k ∈ extract ns p.2, secrets.contains k.name = false →
      Reports ns secrets parameters p.1 k

variable {ns : Namespace} {secrets : Secrets}

/-! ### Closed secrets -/

theorem hasLeftovers_of_get? {result : PassResult} {parameter : String} {keys : List StoreKey}
    (h : result.unresolved.get? parameter = some keys) : result.hasLeftovers = true := by
  rw [PassResult.hasLeftovers, Bool.not_eq_true', ← Bool.not_eq_true, Dict.isEmpty_iff]
  intro hnone
  rw [hnone parameter] at h
  cases h

theorem reports_of_get? {parameters : List (String × String)} {parameter : String} {k : StoreKey}
    {keys : List StoreKey}
    (hget : (runPass ns secrets parameters).value.unresolved.get? parameter = some keys) (hk : k ∈ keys) :
    Reports ns secrets parameters parameter k where
  listed := ⟨keys, hget, hk⟩
  flagged := hasLeftovers_of_get? hget
  fails r hns hsecrets hparameters hstrict := by
    have hleft : r.result.hasLeftovers = true := by
      rw [ResolveRun.result, hns, hsecrets, hparameters]
      exact hasLeftovers_of_get? hget
    rw [r.exitCode_eq, hleft, hstrict]
    rfl

/-- An answer is a secret that a reference can name. -/
theorem Secrets.Closed.after_answer (hclosed : secrets.Closed) {value r : String}
    (h : some r ∈ answers ns secrets value) : Standing.outside.after r.toList = .outside := by
  obtain ⟨key, hkey, hanswer⟩ := List.mem_map.1 h
  obtain ⟨name, hname, hlookup⟩ := Option.bind_eq_some_iff.1 hanswer
  obtain rfl := Namespace.strip_eq_some_iff.1 hname
  have hrun := Namespace.isRun_text_append.1 (isRun_of_mem_referenceKeys hkey)
  exact Decidable.not_not.1 (hclosed name r hrun hlookup)

theorem reportsMissing_of_closed (hclosed : secrets.Closed) : ReportsMissing ns secrets := by
  intro parameters hnames p hp k hk hmissing
  have hmem := mem_extract_finalText hk hmissing fun r hr => hclosed.after_answer hr
  have hleft := leftover?_eq_some.2 ⟨rfl, List.ne_nil_of_mem hmem⟩
  exact reports_of_get? ((get?_unresolved hnames).2 ⟨p.2, hp, hleft⟩) hmem

/-! ### A secret that leaves a percent sign open

The secret stands before a reference to a missing one whose name is longer than the secret, so no reference
that is read from the result can be this one. -/

theorem exists_longer_run (names : List String) (n : Nat) :
    ∃ name : String, IsRun name.toList ∧ n ≤ name.length ∧ name ∉ names := by
  induction names generalizing n with
  | nil =>
      have hrun : IsRun (String.ofList (List.replicate n 'x')).toList := by
        intro c hc
        rw [String.toList_ofList] at hc
        obtain rfl := List.eq_of_mem_replicate hc
        decide
      exact ⟨_, hrun, by simp, List.not_mem_nil⟩
  | cons other names ih =>
      obtain ⟨name, hrun, hlength, hnot⟩ := ih (n + other.length + 1)
      refine ⟨name, hrun, by omega, ?_⟩
      rw [List.mem_cons]
      rintro (rfl | hmem)
      · omega
      · exact hnot hmem

theorem Secrets.exists_missing (secrets : Secrets) (n : Nat) :
    ∃ name : String, IsRun name.toList ∧ n ≤ name.length ∧ secrets.contains name = false := by
  obtain ⟨name, hrun, hlength, hnot⟩ := exists_longer_run secrets.keys n
  refine ⟨name, hrun, hlength, ?_⟩
  rwa [← Bool.not_eq_true, Dict.contains_iff, ← Dict.mem_keys_iff]

/-- A reference to each of two names. -/
def twoReferences (ns : Namespace) (first second : String) : String :=
  Span.referenceText (ns.text ++ first) ++ Span.referenceText (ns.text ++ second)

theorem read_twoReferences {first second : String} (hfirst : IsRun first.toList)
    (hsecond : IsRun second.toList) :
    Standing.outside.read (twoReferences ns first second).toList =
      [.reference (ns.text ++ first), .reference (ns.text ++ second)] := by
  have hread := Standing.read_outside_reference (ns.toList_text_append_ne_nil second)
    (Namespace.isRun_text_append.2 hsecond) []
  rw [show Standing.outside.read [] = [] from rfl, String.ofList_toList] at hread
  have htext : (twoReferences ns first second).toList =
      '%' :: (ns.text ++ first).toList ++ '%' :: ('%' :: (ns.text ++ second).toList ++ ['%']) := by
    simp [twoReferences, Span.referenceText]
  rw [htext, Standing.read_outside_reference (ns.toList_text_append_ne_nil first)
    (Namespace.isRun_text_append.2 hfirst), hread, String.ofList_toList]

theorem referenceKeys_twoReferences {first second : String} (hfirst : IsRun first.toList)
    (hsecond : IsRun second.toList) :
    referenceKeys (twoReferences ns first second) = [ns.text ++ first, ns.text ++ second] := by
  rw [referenceKeys_eq, read_twoReferences hfirst hsecond]
  rfl

theorem finalText_twoReferences {first second r : String} (hfirst : IsRun first.toList)
    (hsecond : IsRun second.toList) (hlookup : secrets.lookup? first = some r)
    (hmissing : secrets.contains second = false) :
    (resolve ns secrets (twoReferences ns first second)).finalText (twoReferences ns first second) =
      r ++ Span.referenceText (ns.text ++ second) := by
  have hanswers : answers ns secrets (twoReferences ns first second) = [some r, none] := by
    rw [Secrets.contains_eq_isSome, Option.isSome_eq_false_iff, Option.isNone_iff_eq_none] at hmissing
    rw [answers, referenceKeys_twoReferences hfirst hsecond, List.map_cons, List.map_cons, List.map_nil,
      answer?_append, answer?_append, hlookup, hmissing]
  rw [finalText_resolve, filled_eq, hanswers, read_twoReferences hfirst hsecond]
  simp [Span.answered, Span.raw]

theorem not_mem_referenceKeys_of_leavesOpen {r key : String} (hopen : LeavesOpen r) (hkey : IsRun key.toList)
    (hlength : r.length ≤ key.length) : key ∉ referenceKeys (r ++ Span.referenceText key) := by
  intro hmem
  have hpercent : '%' ∉ key.toList := fun h => (hkey _ h).1 rfl
  have htext : (r ++ Span.referenceText key).toList = r.toList ++ '%' :: key.toList ++ ['%'] := by
    simp [Span.referenceText]
  rw [referenceKeys_eq, htext, Standing.keys_read_of_opened hopen hpercent,
    show r.toList ++ ['%'] = (r ++ "%").toList by simp, ← referenceKeys_eq] at hmem
  have hshort := length_of_mem_referenceKeys hmem
  rw [String.length_append, show "%".length = 1 from rfl] at hshort
  omega

theorem closed_of_reportsMissing (h : ReportsMissing ns secrets) : secrets.Closed := by
  intro name r hname hlookup hopen
  obtain ⟨missing, hrun, hlength, hmissing⟩ := secrets.exists_missing r.length
  have hparse := StoreKey.parse?_append ns missing
  have hk : ns.keyOf missing ∈ extract ns (twoReferences ns name missing) :=
    mem_extract_iff.2 ⟨_, by rw [referenceKeys_twoReferences hname hrun]; simp, hparse⟩
  have hnames : ([("p", twoReferences ns name missing)].map Prod.fst).Nodup := List.nodup_singleton "p"
  have hreport := h [("p", twoReferences ns name missing)] hnames _ List.mem_cons_self _ hk
    (by rwa [StoreKey.name_keyOf])
  obtain ⟨keys, hget, hmem⟩ := hreport.listed
  obtain ⟨value, hp, hleft⟩ := (get?_unresolved hnames).1 hget
  obtain ⟨-, rfl⟩ := Prod.mk.inj (List.mem_singleton.1 hp)
  rw [(leftover?_eq_some.1 hleft).1, finalText_twoReferences hname hrun hlookup hmissing] at hmem
  obtain ⟨key, hkey, hkparse⟩ := mem_extract_iff.1 hmem
  obtain rfl : ns.text ++ missing = key := (StoreKey.parse?_eq_some hkparse).2
  refine not_mem_referenceKeys_of_leavesOpen hopen (isRun_of_mem_referenceKeys hkey) ?_ hkey
  rw [String.length_append]
  omega

/-- **A pass reports every missing secret** if no secret at hand leaves a percent sign open, and not otherwise. -/
theorem reportsMissing_iff (ns : Namespace) (secrets : Secrets) : ReportsMissing ns secrets ↔ secrets.Closed :=
  ⟨closed_of_reportsMissing, reportsMissing_of_closed⟩

/-- A secret that is a percent sign, before a reference to a missing one. -/
theorem not_reportsMissing_percent : ¬ ReportsMissing .standard (Secrets.ofTexts [("a", "%")]) := by
  intro h
  have hreport := h [("p", "%vault:a%%vault:b%")] (by decide) _ List.mem_cons_self ⟨"vault:b", 6⟩
    (by decide +kernel) (by decide)
  exact absurd hreport.flagged (by decide +kernel)

end SecretRefs

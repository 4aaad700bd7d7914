import Mathlib.Data.List.Basic
import Mathlib.Data.List.Infix
import SecretRefs.Resolution
import SecretRefs.Proofs.Dict
import SecretRefs.Proofs.Span.Substitution
import SecretRefs.Proofs.StoreKey

/-! Extraction and resolution without their looks ahead. A text that holds a reference holds two percent signs
and the key between them, so neither look ahead drops one. The text after resolving is the value with an
answer filled in for each of its keys; the keys in it that address the store are those left out by the
secrets, as long as no secret holds a percent sign. -/

namespace SecretRefs

open SecretRefs.Span (keys rawText)

/-! ### Looking ahead -/

theorem infix_rawText_of_mem_keys {ss : List Span} {key : String} (h : key ∈ keys ss) :
    '%' :: key.toList ++ ['%'] <:+: (rawText ss).toList := by
  induction ss with
  | nil => cases h
  | cons s ss ih =>
      have happend : (rawText (s :: ss)).toList = s.raw.toList ++ (rawText ss).toList := by
        rw [Span.rawText_cons, String.toList_append]
      rw [happend]
      cases s with
      | literal text => exact (ih h).trans (List.suffix_append _ _).isInfix
      | reference k =>
          rcases List.mem_cons.1 h with rfl | h
          · have hraw : (Span.reference key).raw.toList = '%' :: key.toList ++ ['%'] := by
              simp [Span.raw, Span.referenceText]
            rw [hraw]
            exact (List.prefix_append _ _).isInfix
          · exact (ih h).trans (List.suffix_append _ _).isInfix

theorem infix_of_mem_referenceKeys {text key : String} (h : key ∈ referenceKeys text) :
    '%' :: key.toList ++ ['%'] <:+: text.toList := by
  rw [referenceKeys_eq] at h
  have hinfix := infix_rawText_of_mem_keys h
  rwa [rawText_read] at hinfix

theorem isRun_of_mem_referenceKeys {text key : String} (h : key ∈ referenceKeys text) : IsRun key.toList := by
  rw [referenceKeys_eq] at h
  exact isRun_of_mem_keys_read h

theorem length_of_mem_referenceKeys {text key : String} (h : key ∈ referenceKeys text) :
    key.length + 2 ≤ text.length := by
  have hlength := (infix_of_mem_referenceKeys h).length_le
  rw [List.length_append, List.length_cons, List.length_singleton, String.length_toList,
    String.length_toList] at hlength
  omega

theorem referenceKeys_eq_nil_of_couldHoldReference {text : String} (h : couldHoldReference text = false) :
    referenceKeys text = [] := by
  rw [List.eq_nil_iff_forall_not_mem]
  intro key hkey
  have hcount := (infix_of_mem_referenceKeys hkey).sublist.count_le '%'
  have htwo : 2 ≤ ('%' :: key.toList ++ ['%']).count '%' := by
    rw [List.count_append, List.count_cons_self, List.count_cons_self]
    omega
  have hfew : text.toList.count '%' < 2 := by simpa [couldHoldReference] using h
  omega

theorem occursIn_iff {part cs : List Char} : occursIn part cs = true ↔ part <:+: cs := by
  induction cs with
  | nil => simp [occursIn]
  | cons c cs ih => rw [occursIn, Bool.or_eq_true, ih, List.isPrefixOf_iff_prefix, List.infix_cons_iff]

theorem Namespace.standsIn_of_mem_referenceKeys {ns : Namespace} {text name : String}
    (h : ns.text ++ name ∈ referenceKeys text) : ns.standsIn text = true := by
  refine occursIn_iff.2 (List.IsInfix.trans ⟨['%'], name.toList ++ ['%'], ?_⟩ (infix_of_mem_referenceKeys h))
  simp

theorem extract_eq (ns : Namespace) (value : String) :
    extract ns value = (referenceKeys value).filterMap (StoreKey.parse? ns) := by
  rw [extract]
  split
  · rfl
  · next hlook =>
    symm
    rw [List.filterMap_eq_nil_iff]
    intro key hkey
    by_contra hparse
    obtain ⟨k, hk⟩ := Option.ne_none_iff_exists'.1 hparse
    obtain ⟨name, rfl, -⟩ := StoreKey.parse?_eq_some_iff.1 hk
    have hstands := Namespace.standsIn_of_mem_referenceKeys hkey
    cases hcould : couldHoldReference value with
    | true => exact hlook (by rw [hcould, hstands]; rfl)
    | false =>
        rw [referenceKeys_eq_nil_of_couldHoldReference hcould] at hkey
        cases hkey

theorem mem_extract_iff {ns : Namespace} {value : String} {k : StoreKey} :
    k ∈ extract ns value ↔ ∃ key ∈ referenceKeys value, StoreKey.parse? ns key = some k := by
  rw [extract_eq, List.mem_filterMap]

theorem extract_key_inj {ns : Namespace} {value other : String}
    (h : (extract ns value).map StoreKey.key = (extract ns other).map StoreKey.key) :
    extract ns value = extract ns other := by
  have hmk (text : String) :
      ((extract ns text).map StoreKey.key).map (StoreKey.mk · ns.text.length) = extract ns text := by
    rw [List.map_map]
    refine (List.map_congr_left fun k hk => ?_).trans (List.map_id _)
    obtain ⟨key, -, hparse⟩ := mem_extract_iff.1 hk
    obtain ⟨name, -, rfl⟩ := StoreKey.parse?_eq_some_iff.1 hparse
    rfl
  rw [← hmk value, h, hmk]

/-! ### The text after resolving -/

/-- The answers to the references of a value. -/
def answers (ns : Namespace) (secrets : Secrets) (value : String) : List (Option String) :=
  (referenceKeys value).map (answer? ns secrets)

theorem run_substitute (ns : Namespace) (secrets : Secrets) (value : String) :
    Id.run (substitute value fun key => pure (answer? ns secrets key)) =
      filled value (answers ns secrets value) := by
  rw [substitute_eq_mapM, List.mapM_pure]
  rfl

theorem filled_of_forall_none {value : String} {answers : List (Option String)}
    (h : ∀ answer ∈ answers, answer = none) : filled value answers = value := by
  have hkeep : ∀ ss : List Span, Span.answered (fun r => [.literal r]) ss answers = ss := by
    intro ss
    induction ss generalizing answers with
    | nil => exact Span.answered_nil _
    | cons s ss ih =>
        cases s with
        | literal text => rw [Span.answered_literal, ih h]
        | reference key =>
            rcases answers with _ | ⟨answer, rest⟩
            · rw [Span.answered, ih h]
            · obtain rfl := h answer List.mem_cons_self
              rw [Span.answered, ih fun answer hmem => h answer (List.mem_cons_of_mem _ hmem)]
  apply String.toList_injective
  rw [filled_eq, hkeep, rawText_read]

theorem resolve_eq (ns : Namespace) (secrets : Secrets) (value : String) :
    resolve ns secrets value =
      if filled value (answers ns secrets value) = value then .unchanged
      else .resolved (filled value (answers ns secrets value)) := by
  rw [resolve]
  split
  · rw [run_substitute]
  · next hcould =>
    have hkeys := referenceKeys_eq_nil_of_couldHoldReference (by simpa using hcould)
    rw [if_pos (filled_of_forall_none (by simp [answers, hkeys]))]

theorem finalText_resolve (ns : Namespace) (secrets : Secrets) (value : String) :
    (resolve ns secrets value).finalText value = filled value (answers ns secrets value) := by
  rw [resolve_eq]
  split
  · next heq => exact heq.symm
  · rfl

/-! ### What the secrets leave -/

/-- No secret holds a percent sign. -/
def Secrets.PercentFree (secrets : Secrets) : Prop := ∀ e ∈ secrets.entries, '%' ∉ e.2.reveal.toList

instance (secrets : Secrets) : Decidable secrets.PercentFree :=
  inferInstanceAs (Decidable (∀ e ∈ secrets.entries, _))

theorem Secrets.mem_entries_of_lookup? {secrets : Secrets} {name r : String}
    (h : secrets.lookup? name = some r) : (name, ⟨r⟩) ∈ secrets.entries := by
  obtain ⟨text, htext, rfl⟩ := Option.map_eq_some_iff.1 h
  exact (Dict.get?_eq_some_iff secrets).1 htext

theorem Secrets.contains_eq_isSome (secrets : Secrets) (name : String) :
    secrets.contains name = (secrets.lookup? name).isSome := by
  rw [Dict.contains, lookup?, Option.isSome_map]

theorem Secrets.lookup?_ofTexts_self (name s : String) : (Secrets.ofTexts [(name, s)]).lookup? name = some s := by
  rw [lookup?, ofTexts, Dict.get?_ofList]
  exact congrArg (Option.map SecretText.reveal) List.lookup_cons_self

theorem answer?_append (ns : Namespace) (secrets : Secrets) (name : String) :
    answer? ns secrets (ns.text ++ name) = secrets.lookup? name := by
  rw [answer?, Namespace.strip_eq_some_iff.2 rfl, Option.bind_some]

theorem answer?_of_parse? {ns : Namespace} {secrets : Secrets} {key : String} {k : StoreKey}
    (h : StoreKey.parse? ns key = some k) : answer? ns secrets key = secrets.lookup? k.name := by
  rw [answer?, (StoreKey.parse?_eq_some h).1, Option.bind_some]

theorem answer?_eq_none_of_parse? {ns : Namespace} {secrets : Secrets} {key : String}
    (h : StoreKey.parse? ns key = none) : answer? ns secrets key = none := by
  rw [answer?, StoreKey.strip_eq_none_of_parse? h, Option.bind_none]

theorem isNone_answer?_of_parse? {ns : Namespace} {secrets : Secrets} {key : String} {k : StoreKey}
    (h : StoreKey.parse? ns key = some k) :
    (answer? ns secrets key).isNone = !secrets.contains k.name := by
  rw [answer?_of_parse? h, Secrets.contains_eq_isSome, Option.not_isSome]

/-- A value is its own final text if the secrets of all its keys are missing. -/
theorem resolve_eq_unchanged {ns : Namespace} {secrets : Secrets} {value : String}
    (hmissing : ∀ k ∈ extract ns value, secrets.contains k.name = false) :
    resolve ns secrets value = .unchanged := by
  have hfilled : filled value (answers ns secrets value) = value := by
    apply filled_of_forall_none
    intro answer hanswer
    obtain ⟨key, hkey, rfl⟩ := List.mem_map.1 hanswer
    cases hparse : StoreKey.parse? ns key with
    | none => exact answer?_eq_none_of_parse? hparse
    | some k =>
        have hk := hmissing k (mem_extract_iff.2 ⟨key, hkey, hparse⟩)
        rw [← Option.isNone_iff_eq_none, isNone_answer?_of_parse? hparse, hk]
        rfl
  rw [resolve_eq, if_pos hfilled]

/-- A missing key stays in the text as long as no secret put in leaves a percent sign open. -/
theorem mem_extract_finalText {ns : Namespace} {secrets : Secrets} {value : String} {k : StoreKey}
    (hk : k ∈ extract ns value) (hmissing : secrets.contains k.name = false)
    (hclosed : ∀ r, some r ∈ answers ns secrets value → Standing.outside.after r.toList = .outside) :
    k ∈ extract ns ((resolve ns secrets value).finalText value) := by
  obtain ⟨key, hkey, hparse⟩ := mem_extract_iff.1 hk
  refine mem_extract_iff.2 ⟨key, ?_, hparse⟩
  have hrejected : key ∈ Span.rejected (referenceKeys value) (answers ns secrets value) := by
    rw [answers, Span.rejected_map, List.mem_filter, isNone_answer?_of_parse? hparse, hmissing]
    exact ⟨hkey, rfl⟩
  have hkept : key ∈ keys (Span.answered (fun r => Standing.outside.read r.toList) (spans value)
      (answers ns secrets value)) := (Span.rejected_sublist_keys_answered _ _).subset hrejected
  rw [← Span.keys_merged, ← spans_filled value hclosed] at hkept
  rwa [finalText_resolve]

section PercentFree

variable {ns : Namespace} {secrets : Secrets} (hfree : secrets.PercentFree)
include hfree

theorem not_mem_of_mem_answers {value r : String} (h : some r ∈ answers ns secrets value) : '%' ∉ r.toList := by
  obtain ⟨key, -, hanswer⟩ := List.mem_map.1 h
  obtain ⟨name, -, hlookup⟩ := Option.bind_eq_some_iff.1 hanswer
  exact hfree _ (Secrets.mem_entries_of_lookup? hlookup)

theorem referenceKeys_finalText (value : String) :
    referenceKeys ((resolve ns secrets value).finalText value) =
      (referenceKeys value).filter fun key => (answer? ns secrets key).isNone := by
  rw [finalText_resolve, referenceKeys_filled_of_not_mem value (by rw [answers, List.length_map])
    (fun r hr => not_mem_of_mem_answers hfree hr), answers, Span.rejected_map]

/-- What is left to ask for are the keys whose names the secrets do not have. -/
theorem extract_finalText (value : String) :
    extract ns ((resolve ns secrets value).finalText value) =
      (extract ns value).filter fun k => !secrets.contains k.name := by
  rw [extract_eq, extract_eq, referenceKeys_finalText hfree]
  induction referenceKeys value with
  | nil => rfl
  | cons key ks ih =>
      cases hparse : StoreKey.parse? ns key with
      | none =>
          rw [List.filter_cons_of_pos (by rw [answer?_eq_none_of_parse? hparse]; rfl),
            List.filterMap_cons_none hparse, List.filterMap_cons_none hparse, ih]
      | some k =>
          rw [List.filterMap_cons_some hparse]
          cases hmissing : secrets.contains k.name with
          | false =>
              rw [List.filter_cons_of_pos (by rw [isNone_answer?_of_parse? hparse, hmissing]; rfl),
                List.filterMap_cons_some hparse, List.filter_cons_of_pos (by rw [hmissing]; rfl), ih]
          | true =>
              rw [List.filter_cons_of_neg (by rw [isNone_answer?_of_parse? hparse, hmissing]; decide),
                List.filter_cons_of_neg (by rw [hmissing]; decide), ih]

/-- A value changes as soon as one of its keys has a secret, since its text loses a reference. -/
theorem isUnchanged_resolve_iff (value : String) :
    (resolve ns secrets value).isUnchanged = true ↔ ∀ k ∈ extract ns value, secrets.contains k.name = false := by
  constructor
  · intro hunchanged k hk
    have hfinal : (resolve ns secrets value).finalText value = value := by
      cases hresolve : resolve ns secrets value with
      | unchanged => rfl
      | resolved text =>
          rw [hresolve] at hunchanged
          cases hunchanged
    have hleft : extract ns ((resolve ns secrets value).finalText value) = _ := extract_finalText hfree value
    rw [hfinal] at hleft
    rw [hleft] at hk
    simpa using (List.mem_filter.1 hk).2
  · intro hmissing
    rw [resolve_eq_unchanged hmissing]
    rfl

end PercentFree

end SecretRefs

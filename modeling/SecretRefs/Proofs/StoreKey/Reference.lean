import SecretRefs.Proofs.Resolution
import SecretRefs.Proofs.Span.WellFormed

/-! Keys written as references. A key is not empty and a run, so the text of its reference has the one span that is
the reference: what is read from it is the key, and what takes its place is the secret of its name. The names are the
runs, the empty one and those that begin with the namespace once more included, since a key keeps how much of it
is the namespace. -/

namespace SecretRefs

variable {ns : Namespace}

theorem sound_reference_keyOf {name : String} (hname : IsRun name.toList) :
    (Span.reference (ns.text ++ name)).Sound := by
  have hne : ns.text ++ name ≠ "" := by simpa using ns.toList_text_append_ne_nil name
  exact ⟨hne, Namespace.isRun_text_append.2 hname⟩

/-- What follows the namespace in a key that a text holds is a run. -/
theorem exists_keyOf_of_mem_extract {k : StoreKey} {text : String} (h : k ∈ extract ns text) :
    ∃ name, IsRun name.toList ∧ ns.keyOf name = k := by
  obtain ⟨key, hkey, hparse⟩ := mem_extract_iff.1 h
  obtain ⟨name, rfl, rfl⟩ := StoreKey.parse?_eq_some_iff.1 hparse
  exact ⟨name, Namespace.isRun_text_append.1 (isRun_of_mem_referenceKeys hkey), rfl⟩

section Name

variable {name : String} (hname : IsRun name.toList)
include hname

theorem spans_reference_keyOf : spans (ns.keyOf name).reference = [.reference (ns.text ++ name)] := by
  have hsound : (Span.reference (ns.text ++ name)).Sound := sound_reference_keyOf hname
  have hnil : spans "" = [] := by rw [spans_eq_merged]; rfl
  have hspans := spans_reference_append hsound ""
  rwa [hnil, String.append_empty] at hspans

theorem referenceKeys_reference_keyOf : referenceKeys (ns.keyOf name).reference = [ns.text ++ name] := by
  rw [referenceKeys, spans_reference_keyOf hname]
  rfl

theorem extract_reference_keyOf : extract ns (ns.keyOf name).reference = [ns.keyOf name] := by
  rw [extract_eq, referenceKeys_reference_keyOf hname, List.filterMap_cons_some (StoreKey.parse?_append ns name)]
  rfl

theorem filled_reference_keyOf {secrets : Secrets} {s : String} (hlookup : secrets.lookup? name = some s) :
    filled (ns.keyOf name).reference (answers ns secrets (ns.keyOf name).reference) = s := by
  rw [answers, referenceKeys_reference_keyOf hname, List.map_singleton, answer?_append, hlookup, filled,
    spans_reference_keyOf hname]
  simp [Span.answered, Span.raw]

theorem resolve_reference_keyOf {secrets : Secrets} {s : String} (hlookup : secrets.lookup? name = some s) :
    resolve ns secrets (ns.keyOf name).reference =
      if s = (ns.keyOf name).reference then .unchanged else .resolved s := by
  rw [resolve_eq, filled_reference_keyOf hname hlookup]

end Name

/-- Keys, their names and their references, each of which tells the others. -/
structure KeysAreReferences (ns : Namespace) : Prop where
  /-- A key that a text holds is the namespace and, right behind it, the name. -/
  found (text : String) : ∀ k ∈ extract ns text,
    k.key = ns.text ++ k.name ∧ k.nameStart = ns.text.utf8ByteSize ∧ IsRun k.name.toList
  readBack (text : String) : ∀ k ∈ extract ns text, extract ns k.reference = [k]
  resolved (text s : String) : ∀ k ∈ extract ns text,
    resolve ns (Secrets.ofTexts [(k.name, s)]) k.reference = if s = k.reference then .unchanged else .resolved s
  final (text s : String) : ∀ k ∈ extract ns text,
    (resolve ns (Secrets.ofTexts [(k.name, s)]) k.reference).finalText k.reference = s
  /-- Every run is the name of a key. -/
  named (name : String) : IsRun name.toList →
    ∃ k, extract ns ("%" ++ ns.text ++ name ++ "%") = [k] ∧ k.name = name
  distinct (key other : String) (k l : StoreKey) : StoreKey.parse? ns key = some k →
    StoreKey.parse? ns other = some l → k ≠ l → k.name ≠ l.name

/-- **Keys and references are inverse to each other.** -/
theorem keysAreReferences (ns : Namespace) : KeysAreReferences ns where
  found text k hk := by
    obtain ⟨name, hname, rfl⟩ := exists_keyOf_of_mem_extract hk
    rw [StoreKey.name_keyOf]
    exact ⟨rfl, StoreKey.nameStart_keyOf ns name, hname⟩
  readBack text k hk := by
    obtain ⟨name, hname, rfl⟩ := exists_keyOf_of_mem_extract hk
    exact extract_reference_keyOf hname
  resolved text s k hk := by
    obtain ⟨name, hname, rfl⟩ := exists_keyOf_of_mem_extract hk
    rw [StoreKey.name_keyOf]
    exact resolve_reference_keyOf hname (Secrets.lookup?_ofTexts_self name s)
  final text s k hk := by
    obtain ⟨name, hname, rfl⟩ := exists_keyOf_of_mem_extract hk
    rw [StoreKey.name_keyOf, finalText_resolve]
    exact filled_reference_keyOf hname (Secrets.lookup?_ofTexts_self name s)
  named name hname := by
    refine ⟨ns.keyOf name, ?_, StoreKey.name_keyOf ns name⟩
    have htext : "%" ++ ns.text ++ name ++ "%" = (ns.keyOf name).reference := by
      simp only [StoreKey.reference, Span.referenceText, Namespace.keyOf, String.append_assoc]
    rw [htext, extract_reference_keyOf hname]
  distinct key other k l hk hl hne := by
    obtain ⟨name, -, rfl⟩ := StoreKey.parse?_eq_some_iff.1 hk
    obtain ⟨other, -, rfl⟩ := StoreKey.parse?_eq_some_iff.1 hl
    rw [StoreKey.name_keyOf, StoreKey.name_keyOf]
    rintro rfl
    exact hne rfl

end SecretRefs

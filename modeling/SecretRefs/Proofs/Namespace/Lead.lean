import SecretRefs.Proofs.Resolution
import SecretRefs.Proofs.Span.WellFormed

/-! What a key can begin with. A key is a run, so what it begins with is a run as well; and a run that is not empty is
a key itself, in the text where it stands between two percent signs. These are the texts without a defect, so every
namespace can be of use, and no text is refused that could be. -/

namespace SecretRefs

theorem mem_referenceKeys_iff {text key : String} : key ∈ referenceKeys text ↔ .reference key ∈ spans text := by
  rw [referenceKeys, List.mem_filterMap]
  constructor
  · rintro ⟨span, hspan, hkey⟩
    cases span with
    | literal text => cases hkey
    | reference other =>
        cases hkey
        exact hspan
  · intro h
    exact ⟨_, h, rfl⟩

/-- Some key, in some text, begins with this one. -/
def LeadsKey (lead : String) : Prop := ∃ text rest, Span.reference (lead ++ rest) ∈ spans text

theorem isRun_of_leadsKey {lead : String} (h : LeadsKey lead) : IsRun lead.toList := by
  obtain ⟨text, rest, hspan⟩ := h
  have hrun : IsRun (lead ++ rest).toList := isRun_of_mem_referenceKeys (mem_referenceKeys_iff.2 hspan)
  rw [String.toList_append, isRun_append] at hrun
  exact hrun.1

theorem leadsKey_of_isRun {lead : String} (hne : lead ≠ "") (hrun : IsRun lead.toList) : LeadsKey lead := by
  have hspans : spans (Span.referenceText lead ++ "") = .reference lead :: spans "" :=
    spans_reference_append ⟨hne, hrun⟩ ""
  refine ⟨Span.referenceText lead ++ "", "", ?_⟩
  rw [hspans, String.append_empty]
  exact List.mem_cons_self

/-- What is made of a text that is to be a namespace. -/
structure JudgesNamespace (text : String) : Prop where
  /-- It is one if some key begins with it. All keys begin with the empty text, which is none. -/
  accepted : (∃ ns, Namespace.parse text = .ok ns ∧ ns.text = text) ↔ text ≠ "" ∧ LeadsKey text
  /-- Of several defects the first one is reported. -/
  refused (error : Error) : Namespace.parse text = .error error ↔
    ∃ defect, [.empty, .delimiter, .blank].find? (NamespaceDefect.isIn text) = some defect ∧
      error = .invalidNamespace text defect.reason
  reasons : [NamespaceDefect.empty, .delimiter, .blank].map NamespaceDefect.reason =
    ["prefix must not be empty", "prefix must not contain the '%' delimiter", "prefix must not contain whitespace"]

/-- **A namespace is what a key can begin with.** -/
theorem judgesNamespace (text : String) : JudgesNamespace text where
  accepted := by
    constructor
    · rintro ⟨ns, -, rfl⟩
      have hne : ns.text ≠ "" := by simpa using ns.toList_text_ne_nil
      exact ⟨hne, leadsKey_of_isRun hne ns.isRun_text⟩
    · rintro ⟨hne, hlead⟩
      have hsound := NamespaceDefect.find?_eq_none_iff.2 ⟨hne, isRun_of_leadsKey hlead⟩
      exact ⟨⟨text, hsound⟩, Namespace.parse_eq_ok_iff.2 rfl, rfl⟩
  refused error := by
    rw [Namespace.parse_eq_error_iff, NamespaceDefect.find?_eq]
    rfl
  reasons := rfl

end SecretRefs

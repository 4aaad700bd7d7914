import SecretRefs.Error
import SecretRefs.Proofs.Span.Reader

/-! Namespaces and the texts that are none. A text may have several defects; the one that is reported is the first of
them. A text without one is a run, as a key is. -/

namespace SecretRefs

open Text (isBlank)

namespace NamespaceDefect

/-- Whether a text has a defect, be it the reported one or not. -/
def isIn (text : String) : NamespaceDefect → Bool
  | empty => text = ""
  | delimiter => '%' ∈ text.toList
  | blank => text.toList.any isBlank

/-- The tests are made in the order of the list, and the first that a text fails decides. -/
theorem find?_eq (text : String) : find? text = [empty, delimiter, blank].find? (isIn text) := by
  have hempty : text.toList = [] ↔ isIn text empty = true := by simp [isIn]
  have hdelimiter : '%' ∈ text.toList ↔ isIn text delimiter = true := by simp [isIn]
  rw [find?]
  split
  · next h => rw [List.find?_cons_of_pos (hempty.1 h)]
  next h =>
  rw [List.find?_cons_of_neg (mt hempty.2 h)]
  split
  · next h => rw [List.find?_cons_of_pos (hdelimiter.1 h)]
  next h =>
  rw [List.find?_cons_of_neg (mt hdelimiter.2 h)]
  split
  · next h => rw [List.find?_cons_of_pos (show isIn text blank = true from h)]
  · next h => rw [List.find?_cons_of_neg (show ¬ isIn text blank = true from h), List.find?_nil]

theorem find?_eq_none_iff {text : String} : find? text = none ↔ text ≠ "" ∧ IsRun text.toList := by
  have hrun : IsRun text.toList ↔ '%' ∉ text.toList ∧ ∀ c ∈ text.toList, isBlank c = false := by
    constructor
    · intro h
      exact ⟨fun hmem => (h _ hmem).1 rfl, fun c hc => (h c hc).2⟩
    · rintro ⟨hpercent, hblank⟩ c hc
      refine ⟨?_, hblank c hc⟩
      rintro rfl
      exact hpercent hc
  rw [find?_eq, List.find?_eq_none, hrun]
  simp [isIn]

end NamespaceDefect

namespace Namespace

theorem toList_text_ne_nil (ns : Namespace) : ns.text.toList ≠ [] := by
  simpa using (NamespaceDefect.find?_eq_none_iff.1 ns.sound).1

theorem isRun_text (ns : Namespace) : IsRun ns.text.toList := (NamespaceDefect.find?_eq_none_iff.1 ns.sound).2

theorem isRun_text_append {ns : Namespace} {name : String} :
    IsRun (ns.text ++ name).toList ↔ IsRun name.toList := by
  rw [String.toList_append, isRun_append]
  exact and_iff_right ns.isRun_text

theorem toList_text_append_ne_nil (ns : Namespace) (name : String) : (ns.text ++ name).toList ≠ [] := by
  rw [String.toList_append]
  exact List.append_ne_nil_of_left_ne_nil ns.toList_text_ne_nil _

theorem ofText_eq_ok_iff {text : String} {ns : Namespace} : ofText text = .ok ns ↔ ns.text = text := by
  unfold ofText
  split
  · next h =>
    rw [Except.ok.injEq]
    constructor
    · rintro rfl
      rfl
    · rintro rfl
      rfl
  · next defect h =>
    constructor
    · rintro ⟨⟩
    · rintro rfl
      rw [ns.sound] at h
      cases h

theorem ofText_eq_error_iff {text : String} {defect : NamespaceDefect} :
    ofText text = .error defect ↔ NamespaceDefect.find? text = some defect := by
  unfold ofText
  split
  · next h => simp [h]
  · next other h => simp [h]

theorem parse_eq_ok_iff {text : String} {ns : Namespace} : parse text = .ok ns ↔ ns.text = text := by
  rw [← ofText_eq_ok_iff, parse]
  cases ofText text <;> simp

theorem parse_eq_error_iff {text : String} {error : Error} :
    parse text = .error error ↔
      ∃ defect, NamespaceDefect.find? text = some defect ∧ error = .ofDefect text defect := by
  simp only [← ofText_eq_error_iff, parse]
  cases ofText text <;> simp [eq_comm]

end Namespace

end SecretRefs

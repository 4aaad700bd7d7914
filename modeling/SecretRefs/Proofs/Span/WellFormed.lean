import Mathlib.Data.List.Chain
import SecretRefs.Proofs.Span.Agreement

/-! Which lists of spans are the spans of a text. Taking a text apart and putting it together again are inverse
to each other, and a list is one that a text is taken apart into if each of its spans is so by itself and
next to the span behind it. Nothing further away matters: behind a reference the reader is outside, and a
literal that may stand in front of a reference brings the reader there too. -/

namespace SecretRefs

open SecretRefs.Span (letters letters_cons letters_append merged rawText)

namespace Span

/-- What a span has to be by itself. The raw text of a reference is its key between percent signs, whatever the
key. -/
def Sound : Span → Prop
  | literal text => text ≠ "" ∧ spans text = [literal text]
  | reference key => key ≠ "" ∧ IsRun key.toList

/-- What a span has to be in front of another one. A literal leaves the percent sign of the reference behind it
to that reference; whether it does so shows in front of any reference. -/
def Fits : Span → Span → Prop
  | literal _, literal _ => False
  | literal text, reference _ => spans (text ++ "%x%") = [literal text, reference "x"]
  | reference _, _ => True

structure WellFormed (ss : List Span) : Prop where
  sound : ∀ s ∈ ss, s.Sound
  fits : ss.IsChain Fits

instance : DecidablePred Sound
  | literal _ => inferInstanceAs (Decidable (_ ∧ _))
  | reference _ => inferInstanceAs (Decidable (_ ∧ _))

instance : DecidableRel Fits
  | literal _, literal _ => inferInstanceAs (Decidable False)
  | literal _, reference _ => inferInstanceAs (Decidable (_ = _))
  | reference _, _ => inferInstanceAs (Decidable True)

instance (ss : List Span) : Decidable (WellFormed ss) :=
  decidable_of_iff ((∀ s ∈ ss, s.Sound) ∧ ss.IsChain Fits) ⟨fun h => ⟨h.1, h.2⟩, fun h => ⟨h.sound, h.fits⟩⟩

namespace WellFormed

theorem nil : WellFormed [] := ⟨List.forall_mem_nil _, List.IsChain.nil⟩

theorem tail {s : Span} {ss : List Span} (h : WellFormed (s :: ss)) : WellFormed ss :=
  ⟨(List.forall_mem_cons.1 h.sound).2, h.fits.tail⟩

theorem singleton {s : Span} (h : s.Sound) : WellFormed [s] :=
  ⟨List.forall_mem_singleton.2 h, List.IsChain.singleton s⟩

theorem cons_cons {s t : Span} {ss : List Span} (hs : s.Sound) (hfits : s.Fits t) (h : WellFormed (t :: ss)) :
    WellFormed (s :: t :: ss) :=
  ⟨List.forall_mem_cons.2 ⟨hs, h.sound⟩, List.IsChain.cons_cons hfits h.fits⟩

theorem reference_cons {key : String} {ss : List Span} (hkey : (reference key).Sound) (h : WellFormed ss) :
    WellFormed (reference key :: ss) := by
  cases ss with
  | nil => exact singleton hkey
  | cons s ss => exact cons_cons hkey trivial h

end WellFormed

end Span

open SecretRefs.Span (WellFormed)

/-! ### From a text to its spans -/

theorem spans_of_read_eq_letters {text : String} (hne : text ≠ "")
    (hread : Standing.outside.read text.toList = letters text.toList) : spans text = [.literal text] := by
  have hchars : text.toList ≠ [] := by simpa using hne
  rw [spans_eq_merged, hread, merged_letters hchars, String.ofList_toList]

theorem merged_read_reference {before key : List Char} (hliteral : IsLiteral before) (hne : key ≠ [])
    (hkey : IsRun key) (rest : List Char) :
    merged (Standing.outside.read (before ++ ('%' :: key ++ '%' :: rest))) =
      merged (letters before) ++ .reference (String.ofList key) :: merged (Standing.outside.read rest) := by
  rw [hliteral, Standing.read_outside_reference hne hkey, Span.merged_append_reference]

theorem sound_of_isLiteral {before : List Char} (hne : before ≠ []) (hliteral : IsLiteral before) :
    (Span.literal (String.ofList before)).Sound := by
  have htext : String.ofList before ≠ "" := by simpa using hne
  have hread : Standing.outside.read before = letters before := by
    have h := hliteral []
    rwa [List.append_nil, show Standing.outside.read [] = [] from rfl, List.append_nil] at h
  refine ⟨htext, spans_of_read_eq_letters htext ?_⟩
  rwa [String.toList_ofList]

theorem fits_of_isLiteral {before : List Char} (hne : before ≠ []) (hliteral : IsLiteral before) (key : String) :
    (Span.literal (String.ofList before)).Fits (.reference key) := by
  have htext : (String.ofList before ++ "%x%").toList = before ++ ('%' :: ['x'] ++ ['%']) := by simp
  change spans (String.ofList before ++ "%x%") = _
  rw [spans_eq_merged, htext, merged_read_reference hliteral (by decide) (by decide), merged_letters hne]
  rfl

theorem wellFormed_merged_read (cs : List Char) : WellFormed (merged (Standing.outside.read cs)) := by
  induction cs using reference_induction with
  | last cs hread =>
      by_cases hne : cs = []
      · subst hne
        exact .nil
      · rw [hread, merged_letters hne]
        have htext : String.ofList cs ≠ "" := by simpa using hne
        exact .singleton ⟨htext, spans_of_read_eq_letters htext (by rwa [String.toList_ofList])⟩
  | reference before key rest hliteral hne hkey ih =>
      rw [merged_read_reference hliteral hne hkey]
      have hsound : (Span.reference (String.ofList key)).Sound :=
        ⟨by simpa using hne, by rwa [String.toList_ofList]⟩
      have hreference := ih.reference_cons hsound
      by_cases hbefore : before = []
      · subst hbefore
        exact hreference
      · rw [merged_letters hbefore]
        exact hreference.cons_cons (sound_of_isLiteral hbefore hliteral) (fits_of_isLiteral hbefore hliteral _)

/-! ### From spans to a text and back -/

/-- Behind a literal that fits in front of a reference the reader is outside. -/
theorem after_of_fits {text key : String} (h : (Span.literal text).Fits (.reference key)) :
    Standing.outside.after text.toList = .outside := by
  cases hafter : Standing.outside.after text.toList with
  | outside => rfl
  | opened run =>
      -- The percent sign in front of the `x` closes, so the text ends with a literal.
      have hread : Standing.outside.read (text ++ "%x%").toList =
          Standing.outside.readOn text.toList ++ ((Standing.opened run).written '%' ++ letters ['x']) ++
            [.literal "%"] := by
        have hnext : (Standing.opened run).next '%' = .outside := by simp [Standing.next]
        rw [String.toList_append, Standing.read_append, hafter, show "%x%".toList = ['%', 'x', '%'] from rfl,
          Standing.read, hnext, List.append_assoc, List.append_assoc]
        rfl
      obtain ⟨front, last, hlast⟩ := Span.exists_merged_concat_literal
        (Standing.outside.readOn text.toList ++ ((Standing.opened run).written '%' ++ letters ['x']))
        (show "%" ≠ "" by decide)
      have hspans : front ++ [Span.literal last] = [.literal text] ++ [.reference "x"] := by
        rw [← hlast, ← hread, ← spans_eq_merged]
        exact h
      have hends := (List.append_inj' hspans rfl).2
      cases hends

theorem merged_readOn_of_fits {text key : String} (h : (Span.literal text).Fits (.reference key)) :
    merged (Standing.outside.readOn text.toList) = [.literal text] := by
  have hspans : spans (text ++ "%x%") = [.literal text] ++ [.reference "x"] := h
  rw [spans_eq_merged, String.toList_append, Standing.read_append, after_of_fits h,
    show "%x%".toList = '%' :: ['x'] ++ ['%'] from rfl, Standing.read_outside_reference (by decide) (by decide),
    Span.merged_append_reference] at hspans
  exact (List.append_inj' hspans rfl).1

theorem spans_reference_append {key : String} (hkey : (Span.reference key).Sound) (rest : String) :
    spans (Span.referenceText key ++ rest) = .reference key :: spans rest := by
  have hne : key.toList ≠ [] := by simpa using hkey.1
  have htext : (Span.referenceText key ++ rest).toList = '%' :: key.toList ++ '%' :: rest.toList := by
    simp [Span.referenceText]
  rw [spans_eq_merged, spans_eq_merged, htext, Standing.read_outside_reference hne hkey.2, String.ofList_toList]
  rfl

theorem spans_literal_append {text key : String} (hfits : (Span.literal text).Fits (.reference key))
    (hkey : (Span.reference key).Sound) (rest : String) :
    spans (text ++ (Span.referenceText key ++ rest)) = .literal text :: spans (Span.referenceText key ++ rest) := by
  have hne : key.toList ≠ [] := by simpa using hkey.1
  have htext : (text ++ (Span.referenceText key ++ rest)).toList =
      text.toList ++ ('%' :: key.toList ++ '%' :: rest.toList) := by
    simp [Span.referenceText]
  rw [spans_reference_append hkey, spans_eq_merged, htext, Standing.read_append, after_of_fits hfits,
    Standing.read_outside_reference hne hkey.2, Span.merged_append_reference, merged_readOn_of_fits hfits,
    String.ofList_toList, ← spans_eq_merged]
  rfl

theorem spans_rawText {ss : List Span} (h : WellFormed ss) : spans (rawText ss) = ss := by
  induction ss with
  | nil => rw [Span.rawText_nil, spans_eq_merged]; rfl
  | cons s ss ih =>
      have hs : s.Sound := h.sound s List.mem_cons_self
      have hrest := ih h.tail
      cases s with
      | reference key => rw [Span.rawText_cons, Span.raw, spans_reference_append hs, hrest]
      | literal text =>
          rcases ss with _ | ⟨next | key, rest⟩
          · rw [Span.rawText_cons, Span.rawText_nil, String.append_empty, Span.raw]
            exact hs.2
          · exact absurd (List.isChain_cons_cons.1 h.fits).1 id
          · have hfits := (List.isChain_cons_cons.1 h.fits).1
            have hkey : (Span.reference key).Sound := h.tail.sound _ List.mem_cons_self
            rw [Span.rawText_cons, Span.raw] at hrest
            rw [Span.rawText_cons, Span.rawText_cons, Span.raw, Span.raw, spans_literal_append hfits hkey, hrest]

theorem rawText_spans (text : String) : rawText (spans text) = text := by
  apply String.toList_injective
  rw [spans_eq_merged, Span.rawText_merged, rawText_read]

/-- **A text and its spans determine each other.** The raw text of the spans is the text again, and the lists
that occur as the spans of a text are those in which each span fits in its place. -/
theorem spans_inverse_rawText :
    (∀ text, rawText (spans text) = text ∧ WellFormed (spans text)) ∧
      ∀ ss, WellFormed ss → spans (rawText ss) = ss := by
  refine ⟨fun text => ⟨rawText_spans text, ?_⟩, fun ss => spans_rawText⟩
  rw [spans_eq_merged]
  exact wellFormed_merged_read text.toList

/-- Percent signs that a blank gives up, escapes beside a reference, and at the end one that stays open. -/
theorem spans_inverse_rawText_percents :
    WellFormed [.literal "5% %%", .reference "a", .reference "b", .literal "%%%c"] ∧
      spans (rawText [.literal "5% %%", .reference "a", .reference "b", .literal "%%%c"]) =
        [.literal "5% %%", .reference "a", .reference "b", .literal "%%%c"] :=
  ⟨by decide +kernel, spans_inverse_rawText.2 _ (by decide +kernel)⟩

end SecretRefs

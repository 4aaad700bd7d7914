import SecretRefs.Proofs.Span.Agreement

/-! The grammar of texts with references, as rules that read a text once from left to right. A percent sign
belongs to an escape or opens a reference if another one closes it, and is a letter like any other if none
does. The letter reader finds out about the latter only at a blank or at the end of the text; since it has
met no percent sign on the way, all it held back is literal by the rules too. -/

namespace SecretRefs

open SecretRefs.Span (letters letters_cons letters_append merged)

/-- What stands behind a percent sign that another one closes, at once or after a run. -/
def ClosesPercent (cs : List Char) : Prop := ∃ run rest, IsRun run ∧ cs = run ++ '%' :: rest

/-- The pieces in which a text is read, with a literal for each literal character. -/
inductive Reads : List Char → List Span → Prop
  | nil : Reads [] []
  | escape {cs : List Char} {pieces : List Span} : Reads cs pieces →
      Reads ('%' :: '%' :: cs) (.literal "%" :: .literal "%" :: pieces)
  | reference {key cs : List Char} {pieces : List Span} : key ≠ [] → IsRun key → Reads cs pieces →
      Reads ('%' :: key ++ '%' :: cs) (.reference (String.ofList key) :: pieces)
  /-- A percent sign that is read by neither of the rules before. -/
  | stray {cs : List Char} {pieces : List Span} : ¬ ClosesPercent cs → Reads cs pieces →
      Reads ('%' :: cs) (.literal "%" :: pieces)
  | letter {c : Char} {cs : List Char} {pieces : List Span} : c ≠ '%' → Reads cs pieces →
      Reads (c :: cs) (.literal (String.singleton c) :: pieces)

/-- The letter reader, too, reads a percent sign that nothing closes as a letter. -/
theorem read_outside_of_not_closesPercent {cs : List Char} (h : ¬ ClosesPercent cs) :
    Standing.outside.read ('%' :: cs) = .literal "%" :: Standing.outside.read cs := by
  have hpercent : ∀ {run : List Char}, IsRun run → '%' ∉ run := fun hrun hmem => (hrun _ hmem).1 rfl
  rcases isRun_or_exists_end cs with hrun | ⟨run, b, rest, rfl, hrun, rfl | hblank⟩
  · rw [Standing.read_outside_unclosed hrun, Standing.read_outside_of_not_mem (hpercent hrun), letters_cons]
    rfl
  · exact absurd ⟨run, rest, hrun, rfl⟩ h
  · have hb : b ≠ '%' := by
      rintro rfl
      rw [isBlank_percent] at hblank
      cases hblank
    have hrest : Standing.outside.read (run ++ b :: rest) = letters (run ++ [b]) ++ Standing.outside.read rest := by
      rw [Standing.read_outside_append (hpercent hrun), Standing.read_outside_letter hb, letters_append,
        List.append_assoc]
    rw [hrest, ← List.cons_append, Standing.read_outside_blank hrun hblank, List.cons_append, letters_cons]
    rfl

/-- The rules leave no choice. -/
theorem Reads.eq_read {cs : List Char} {pieces : List Span} (h : Reads cs pieces) :
    pieces = Standing.outside.read cs := by
  induction h with
  | nil => rfl
  | escape h ih =>
      rw [Standing.read_outside_escape, ← ih]
      rfl
  | reference hne hkey h ih => rw [Standing.read_outside_reference hne hkey, ← ih]
  | stray hopen h ih => rw [read_outside_of_not_closesPercent hopen, ← ih]
  | letter hc h ih =>
      rw [Standing.read_outside_letter hc, ← ih]
      rfl

/-- Every text can be read by the rules. -/
theorem exists_reads (cs : List Char) : ∃ pieces, Reads cs pieces := by
  induction hn : cs.length using Nat.strongRecOn generalizing cs with
  | ind n ih =>
      subst hn
      rcases cs with _ | ⟨c, cs⟩
      · exact ⟨[], .nil⟩
      obtain ⟨pieces, hpieces⟩ := ih cs.length (by simp) cs rfl
      by_cases hc : c = '%'
      · subst hc
        by_cases hcloses : ClosesPercent cs
        · obtain ⟨key, rest, hkey, rfl⟩ := hcloses
          obtain ⟨others, hothers⟩ := ih rest.length (by simp; omega) rest rfl
          by_cases hne : key = []
          · subst hne
            exact ⟨_, .escape hothers⟩
          · exact ⟨_, .reference hne hkey hothers⟩
        · exact ⟨_, .stray hcloses hpieces⟩
      · exact ⟨_, .letter hc hpieces⟩

theorem reads_iff {cs : List Char} {pieces : List Span} :
    Reads cs pieces ↔ pieces = Standing.outside.read cs := by
  constructor
  · exact Reads.eq_read
  · rintro rfl
    obtain ⟨pieces, hpieces⟩ := exists_reads cs
    rwa [← hpieces.eq_read]

instance (cs : List Char) (pieces : List Span) : Decidable (Reads cs pieces) :=
  decidable_of_iff _ reads_iff.symm

/-- **The spans of a text are what the rules read**, with adjacent literals made one. -/
theorem spans_eq_iff_reads (text : String) (ss : List Span) :
    spans text = ss ↔ ∃ pieces, Reads text.toList pieces ∧ merged pieces = ss := by
  rw [spans_eq_merged]
  constructor
  · intro h
    exact ⟨_, reads_iff.2 rfl, h⟩
  · rintro ⟨pieces, hreads, rfl⟩
    rw [hreads.eq_read]

/-- Percent signs in a row are escapes two by two, and what is left over may open a reference. -/
example : Reads "5% %%%a%%".toList
    [.literal "5", .literal "%", .literal " ", .literal "%", .literal "%", .reference "a", .literal "%"] := by
  decide

end SecretRefs

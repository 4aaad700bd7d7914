import SecretRefs.Proofs.Span.Reader

/-! The spans of a text are what the letter reader writes, with adjacent letters merged. The search for
references goes from percent sign to percent sign instead of letter by letter. Between two of them both
readers do the same: a run makes a reference, no letter at all an escape, and behind a blank the second
percent sign is the open one. -/

namespace SecretRefs

open SecretRefs.Span (letters letters_append merged)
open Text (isBlank)

theorem not_mem_of_splitAtPercent_eq_none {cs : List Char} (h : splitAtPercent cs = none) : '%' ∉ cs := by
  induction cs with
  | nil => exact List.not_mem_nil
  | cons c cs ih =>
      rw [splitAtPercent] at h
      split at h
      · cases h
      · next hc =>
        rw [Option.map_eq_none_iff] at h
        simp [Ne.symm hc, ih h]

namespace Standing

theorem read_outside_append {cs : List Char} (hcs : '%' ∉ cs) (rest : List Char) :
    outside.read (cs ++ rest) = letters cs ++ outside.read rest := by
  induction cs with
  | nil => rfl
  | cons c cs ih =>
      obtain ⟨hc, hrest⟩ := List.ne_and_not_mem_of_not_mem_cons hcs
      rw [List.cons_append, read_outside_letter (Ne.symm hc), ih hrest]
      rfl

theorem read_outside_of_not_mem {cs : List Char} (hcs : '%' ∉ cs) : outside.read cs = letters cs := by
  have h := read_outside_append hcs []
  rwa [List.append_nil, show outside.read [] = [] from rfl, List.append_nil] at h

theorem after_outside_of_not_mem {cs : List Char} (hcs : '%' ∉ cs) : outside.after cs = outside := by
  induction cs with
  | nil => rfl
  | cons c cs ih =>
      obtain ⟨hc, hrest⟩ := List.ne_and_not_mem_of_not_mem_cons hcs
      rw [after_cons, next, if_neg (Ne.symm hc), ih hrest]

/-- A percent sign behind which a blank comes before the next percent sign is literal. -/
theorem read_outside_stray {inner : List Char} (hinner : '%' ∉ inner) (hblank : inner.any isBlank = true)
    (cs : List Char) :
    outside.read ('%' :: inner ++ cs) = letters ('%' :: inner) ++ outside.read cs := by
  rcases isRun_or_exists_end inner with hrun | ⟨run, b, rest, rfl, hrun, rfl | hb⟩
  · obtain ⟨c, hc, hcblank⟩ := List.any_eq_true.1 hblank
    rw [(hrun c hc).2] at hcblank
    cases hcblank
  · exact absurd (by simp) hinner
  · have hrest : '%' ∉ rest := fun hmem => hinner (by simp [hmem])
    have h := read_outside_blank hrun hb (rest ++ cs)
    rw [read_outside_append hrest, ← List.append_assoc, ← letters_append] at h
    simpa using h

/-- A percent sign without a later one is literal. -/
theorem read_outside_last {inner : List Char} (hinner : '%' ∉ inner) :
    outside.read ('%' :: inner) = letters ('%' :: inner) := by
  by_cases hblank : inner.any isBlank = true
  · have h := read_outside_stray hinner hblank []
    rwa [List.append_nil, show outside.read [] = [] from rfl, List.append_nil] at h
  · refine read_outside_unclosed fun c hc => ⟨fun heq => hinner (heq ▸ hc), ?_⟩
    simpa using mt (fun h => List.any_eq_true.2 ⟨c, hc, h⟩) hblank

/-- Behind an open percent sign the one that opens a reference closes instead, and what the reference holds
is literal. -/
theorem keys_read_of_opened {cs inner : List Char} (hopen : outside.after cs ≠ .outside) (hinner : '%' ∉ inner) :
    Span.keys (outside.read (cs ++ '%' :: inner ++ ['%'])) = Span.keys (outside.read (cs ++ ['%'])) := by
  cases hafter : outside.after cs with
  | outside => exact absurd hafter hopen
  | opened run =>
      have hlast : Span.keys (outside.read (inner ++ ['%'])) = [] := by
        rw [read_outside_append hinner, Span.keys_append, Span.keys_letters]
        rfl
      have hnext : (opened run).next '%' = outside := by simp [next]
      -- The reader is outside again behind the percent sign, whatever it writes there.
      have hclose : ∀ ds, Span.keys (outside.read (cs ++ '%' :: ds)) =
          Span.keys (outside.readOn cs) ++ Span.keys ((opened run).written '%') ++
            Span.keys (outside.read ds) := by
        intro ds
        rw [read_append, hafter, read, hnext, Span.keys_append, Span.keys_append, List.append_assoc]
      rw [List.append_assoc, List.cons_append, hclose, hclose, hlast]
      rfl

/-- What the letter reader makes of a text, by its first reference. -/
theorem read_outside_eq (cs : List Char) :
    outside.read cs =
      match firstReference? cs with
      | none => letters cs
      | some found =>
        letters found.before ++ .reference (String.ofList found.key) :: outside.read found.after := by
  fun_induction firstReference? cs with
  | case1 cs hopen => exact read_outside_of_not_mem (not_mem_of_splitAtPercent_eq_none hopen)
  | case2 cs before inner hopen hclose =>
      obtain ⟨rfl, hbefore⟩ := splitAtPercent_eq_some hopen
      rw [read_outside_append hbefore, read_outside_last (not_mem_of_splitAtPercent_eq_none hclose), ← letters_append]
  | case3 cs before inner hopen after hclose ih =>
      obtain ⟨rfl, hbefore⟩ := splitAtPercent_eq_some hopen
      obtain ⟨rfl, -⟩ := splitAtPercent_eq_some hclose
      rw [read_outside_append hbefore, List.nil_append, read_outside_escape, ih]
      cases firstReference? after <;> simp [letters, Found.precededBy]
  | case4 cs before inner hopen k key after hclose hblank ih =>
      obtain ⟨rfl, hbefore⟩ := splitAtPercent_eq_some hopen
      obtain ⟨rfl, hkey⟩ := splitAtPercent_eq_some hclose
      rw [read_outside_append hbefore, ← List.cons_append, read_outside_stray hkey hblank, ih]
      cases firstReference? ('%' :: after) <;> simp [letters, Found.precededBy]
  | case5 cs before inner hopen k key after hclose hblank =>
      obtain ⟨rfl, hbefore⟩ := splitAtPercent_eq_some hopen
      obtain ⟨rfl, hkey⟩ := splitAtPercent_eq_some hclose
      have hrun : IsRun (k :: key) := fun c hc =>
        ⟨fun heq => hkey (heq ▸ hc), by simpa using mt (fun h => List.any_eq_true.2 ⟨c, hc, h⟩) hblank⟩
      rw [read_outside_append hbefore, ← List.cons_append, read_outside_reference (List.cons_ne_nil _ _) hrun]

end Standing

theorem merged_letters {cs : List Char} (hne : cs ≠ []) : merged (letters cs) = [.literal (String.ofList cs)] := by
  have htext : String.ofList cs ≠ "" := by simpa using hne
  have h := Span.merged_letters_append cs []
  rwa [List.append_nil, Span.merged_literal htext] at h

namespace SpanReader

theorem drain_of_next?_eq_none {r : SpanReader} (h : r.next? = none) : r.drain = [] := by
  rw [drain]
  split
  · rfl
  · next hsome =>
    rw [h] at hsome
    cases hsome

theorem drain_of_next?_eq_some {r s : SpanReader} {span : Span} (h : r.next? = some (span, s)) :
    r.drain = span :: s.drain := by
  rw [drain]
  split
  · next hnone =>
    rw [h] at hnone
    cases hnone
  · next hsome =>
    rw [h] at hsome
    cases hsome
    rfl

theorem drain_pending (cs : List Char) (span : Span) :
    (SpanReader.mk cs (some span)).drain = span :: (SpanReader.mk cs none).drain :=
  drain_of_next?_eq_some rfl

theorem drain_eq_merged (cs : List Char) :
    (SpanReader.mk cs none).drain = merged (Standing.outside.read cs) := by
  induction hn : cs.length using Nat.strongRecOn generalizing cs with
  | ind n ih =>
      subst hn
      by_cases hempty : cs = []
      · subst hempty
        exact drain_of_next?_eq_none rfl
      have hread := Standing.read_outside_eq cs
      cases hfound : firstReference? cs with
      | none =>
          rw [hfound] at hread
          have hnext : (SpanReader.mk cs none).next? = some (.literal (String.ofList cs), ⟨[], none⟩) := by
            simp [next?, hempty, hfound]
          rw [drain_of_next?_eq_some hnext, drain_of_next?_eq_none (r := ⟨[], none⟩) rfl, hread,
            merged_letters hempty]
      | some found =>
          obtain ⟨before, key, rest⟩ := found
          rw [hfound] at hread
          have hlength := firstReference?_length hfound
          have hrest : (SpanReader.mk rest none).drain = merged (Standing.outside.read rest) :=
            ih rest.length (by simp only at hlength; omega) rest rfl
          rw [hread, Span.merged_letters_append]
          by_cases hbefore : before = []
          · subst hbefore
            have hnext : (SpanReader.mk cs none).next? =
                some (.reference (String.ofList key), ⟨rest, none⟩) := by
              simp [next?, hempty, hfound]
            rw [drain_of_next?_eq_some hnext, hrest]
            rfl
          · have hnext : (SpanReader.mk cs none).next? =
                some (.literal (String.ofList before), ⟨rest, some (.reference (String.ofList key))⟩) := by
              simp [next?, hempty, hfound, hbefore]
            have htext : String.ofList before ≠ "" := by simpa using hbefore
            rw [drain_of_next?_eq_some hnext, drain_pending, hrest, Span.merged_literal htext]
            rfl

end SpanReader

/-- The spans of a text are those that the letter reader writes, merged. -/
theorem spans_eq_merged (text : String) : spans text = merged (Standing.outside.read text.toList) :=
  SpanReader.drain_eq_merged text.toList

theorem referenceKeys_eq (text : String) :
    referenceKeys text = Span.keys (Standing.outside.read text.toList) := by
  rw [referenceKeys, spans_eq_merged]
  exact Span.keys_merged _

end SecretRefs

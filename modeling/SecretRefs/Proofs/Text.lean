import Mathlib.Data.List.DropRight
import SecretRefs.Text.Blank

/-! Trimming, and lines. A character that is not blank keeps what is between it and another one from being trimmed.
A text is a line, or a line with a line feed and another text behind it; no line reaches across a line feed, so two
texts with one between them have the lines of the first and then those of the second. -/

namespace SecretRefs.Text

/-! ### Blanks at the ends -/

section Drop

variable {α : Type} {p : α → Bool} {a : α}

theorem dropWhile_append_cons (ha : p a = false) (l r : List α) :
    (l ++ a :: r).dropWhile p = l.dropWhile p ++ a :: r := by
  rw [List.dropWhile_append]
  split
  · next h => rw [List.isEmpty_iff.1 h, List.dropWhile_cons_of_neg (by simp [ha]), List.nil_append]
  · rfl

theorem rdropWhile_append_cons (ha : p a = false) (l r : List α) :
    (l ++ a :: r).rdropWhile p = l ++ a :: r.rdropWhile p := by
  have hreverse : (l ++ a :: r).reverse = r.reverse ++ a :: l.reverse := by simp
  rw [List.rdropWhile, hreverse, dropWhile_append_cons ha, List.reverse_append, List.reverse_cons, List.append_assoc,
    List.reverse_reverse]
  rfl

end Drop

theorem trimChars_eq (cs : List Char) : trimChars cs = (cs.dropWhile isBlank).rdropWhile isBlank := rfl

theorem trimChars_append_cons {c : Char} (hc : isBlank c = false) (l r : List Char) :
    trimChars (l ++ c :: r) = l.dropWhile isBlank ++ c :: r.rdropWhile isBlank := by
  rw [trimChars_eq, dropWhile_append_cons hc, rdropWhile_append_cons hc]

/-- Blanks at the end may be dropped before. -/
theorem trimChars_rdropWhile (cs : List Char) : trimChars (cs.rdropWhile isBlank) = trimChars cs := by
  by_cases h : ∀ c ∈ cs, isBlank c = true
  · rw [List.rdropWhile_eq_nil_iff.2 h, trimChars_eq cs, List.dropWhile_eq_nil_iff.2 h]
    rfl
  · -- the last character that is not blank stands on both sides
    simp only [not_forall, Bool.not_eq_true] at h
    obtain ⟨c, hmem, hc⟩ := h
    obtain ⟨l, r, rfl⟩ := List.append_of_mem hmem
    rw [rdropWhile_append_cons hc, trimChars_append_cons hc, trimChars_append_cons hc, List.rdropWhile_idempotent]

theorem dropWhile_isBlank_eq_self {cs : List Char} (hfirst : ∀ c, cs.head? = some c → isBlank c = false) :
    cs.dropWhile isBlank = cs := by
  cases cs with
  | nil => rfl
  | cons c cs => exact List.dropWhile_cons_of_neg (by simp [hfirst c rfl])

/-- A text that neither begins nor ends with a blank stays as it is. -/
theorem trimChars_eq_self {cs : List Char} (hfirst : ∀ c, cs.head? = some c → isBlank c = false)
    (hlast : ∀ c, cs.getLast? = some c → isBlank c = false) : trimChars cs = cs := by
  rw [trimChars_eq, dropWhile_isBlank_eq_self hfirst, List.rdropWhile_eq_self_iff]
  intro hne
  simp [hlast _ (List.getLast?_eq_some_getLast hne)]

theorem mem_of_mem_trimChars {cs : List Char} {c : Char} (h : c ∈ trimChars cs) : c ∈ cs := by
  have hdrop : c ∈ cs.dropWhile isBlank := (List.rdropWhile_prefix isBlank _).mem h
  exact (List.dropWhile_suffix isBlank).mem hdrop

theorem isBlank_of_head?_trimChars {cs : List Char} {c : Char} (h : (trimChars cs).head? = some c) :
    isBlank c = false := by
  obtain ⟨rest, hrest⟩ := List.rdropWhile_prefix isBlank (cs.dropWhile isBlank)
  have hhead : (cs.dropWhile isBlank).head? = some c := by
    rw [← hrest, List.head?_append, ← trimChars_eq, h, Option.some_or]
  have hnot := List.head?_dropWhile_not isBlank cs
  rwa [hhead] at hnot

theorem isBlank_of_getLast?_trimChars {cs : List Char} {c : Char} (h : (trimChars cs).getLast? = some c) :
    isBlank c = false := by
  by_cases hne : trimChars cs = []
  · rw [hne] at h
    cases h
  · rw [List.getLast?_eq_some_getLast hne] at h
    cases h
    exact Bool.eq_false_iff.2 (List.rdropWhile_last_not isBlank _ hne)

theorem trimChars_trimChars (cs : List Char) : trimChars (trimChars cs) = trimChars cs :=
  trimChars_eq_self (fun _ => isBlank_of_head?_trimChars) (fun _ => isBlank_of_getLast?_trimChars)

theorem trimChars_concat {c : Char} (hc : isBlank c = true) (cs : List Char) :
    trimChars (cs ++ [c]) = trimChars cs := by
  rw [← trimChars_rdropWhile, List.rdropWhile_concat_pos _ _ _ hc, trimChars_rdropWhile]

/-! ### Lines -/

theorem splitLines_of_not_mem {line : List Char} (h : '\n' ∉ line) : splitLines line = [line] := by
  induction line with
  | nil => rfl
  | cons c line ih =>
      rw [splitLines, if_neg (List.ne_of_not_mem_cons h).symm, ih (List.not_mem_of_not_mem_cons h)]

theorem splitLines_append {line : List Char} (hline : '\n' ∉ line) (rest : List Char) :
    splitLines (line ++ '\n' :: rest) = line :: splitLines rest := by
  induction line with
  | nil => rfl
  | cons c line ih =>
      rw [List.cons_append, splitLines, if_neg (List.ne_of_not_mem_cons hline).symm,
        ih (List.not_mem_of_not_mem_cons hline)]

@[elab_as_elim]
theorem line_induction {motive : List Char → Prop} (last : ∀ line, '\n' ∉ line → motive line)
    (feed : ∀ line rest, '\n' ∉ line → motive rest → motive (line ++ '\n' :: rest)) (cs : List Char) : motive cs := by
  induction hn : cs.length using Nat.strongRecOn generalizing cs with
  | ind n ih =>
      by_cases hfeed : '\n' ∈ cs
      · obtain ⟨line, rest, rfl, hline⟩ := List.eq_append_cons_of_mem hfeed
        refine feed line rest hline (ih rest.length ?_ rest rfl)
        rw [← hn, List.length_append, List.length_cons]
        omega
      · exact last cs hfeed

/-- A line feed parts the lines of two texts. -/
theorem splitLines_eq_splitOnP (cs : List Char) : splitLines cs = cs.splitOnP (· = '\n') := by
  have hne {line : List Char} (hline : '\n' ∉ line) : ∀ c ∈ line, decide (c = '\n') = false :=
    fun c hc => decide_eq_false fun hfeed => hline (hfeed ▸ hc)
  induction cs using line_induction with
  | last line hline => rw [splitLines_of_not_mem hline, List.splitOnP_eq_singleton (hne hline)]
  | feed line rest hline ih =>
      rw [splitLines_append hline, List.splitOnP_append_cons_of_forall_mem (hne hline) _ (decide_eq_true rfl), ih]

theorem splitLines_append_feed (cs rest : List Char) :
    splitLines (cs ++ '\n' :: rest) = splitLines cs ++ splitLines rest := by
  induction cs using line_induction with
  | last line hline => rw [splitLines_append hline, splitLines_of_not_mem hline, List.singleton_append]
  | feed line more hline ih =>
      rw [List.append_assoc, List.cons_append, splitLines_append hline, splitLines_append hline, ih, List.cons_append]

theorem not_mem_of_mem_splitLines {cs line : List Char} (h : line ∈ splitLines cs) : '\n' ∉ line := by
  induction cs using line_induction with
  | last only honly =>
      rw [splitLines_of_not_mem honly, List.mem_singleton] at h
      rwa [h]
  | feed first rest hfirst ih =>
      rw [splitLines_append hfirst] at h
      rcases List.mem_cons.1 h with rfl | h
      · exact hfirst
      · exact ih h

/-! ### Carriage returns -/

/-- The text with a carriage return in front of every line feed. -/
def withReturns (cs : List Char) : List Char := cs.flatMap fun c => if c = '\n' then ['\r', '\n'] else [c]

theorem withReturns_of_not_mem {line : List Char} (h : '\n' ∉ line) : withReturns line = line := by
  induction line with
  | nil => rfl
  | cons c line ih =>
      rw [withReturns, List.flatMap_cons, if_neg (List.ne_of_not_mem_cons h).symm, ← withReturns,
        ih (List.not_mem_of_not_mem_cons h), List.singleton_append]

theorem withReturns_append_feed {line : List Char} (h : '\n' ∉ line) (rest : List Char) :
    withReturns (line ++ '\n' :: rest) = line ++ '\r' :: '\n' :: withReturns rest := by
  rw [withReturns, List.flatMap_append, ← withReturns, withReturns_of_not_mem h]
  rfl

/-- The carriage returns are blanks at the ends of lines. -/
theorem map_trimChars_splitLines_withReturns (cs : List Char) :
    (splitLines (withReturns cs)).map trimChars = (splitLines cs).map trimChars := by
  induction cs using line_induction with
  | last line hline => rw [withReturns_of_not_mem hline]
  | feed line rest hline ih =>
      have hreturn : '\n' ∉ line ++ ['\r'] := by simp [hline]
      rw [withReturns_append_feed hline, List.append_cons, splitLines_append hreturn, splitLines_append hline,
        List.map_cons, List.map_cons, ih, trimChars_concat (by decide)]

end SecretRefs.Text

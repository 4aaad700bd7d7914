import SecretRefs.Proofs.Span.Merged

/-! A reader that takes a text letter by letter. It stands either outside of any reference or behind a percent
sign that is still open; a percent sign closes that one, a blank gives it up. What it writes are the spans
of the text, with a literal for each letter. Since a blank brings it outside again, everything it still
knows of the text behind it is the run of letters since an open percent sign. -/

namespace SecretRefs

open SecretRefs.Span (letters merged)
open Text (isBlank)

/-- A text in which no percent sign and no blank occurs. -/
def IsRun (cs : List Char) : Prop := ∀ c ∈ cs, c ≠ '%' ∧ isBlank c = false

instance (cs : List Char) : Decidable (IsRun cs) := List.decidableBAll (fun c => c ≠ '%' ∧ isBlank c = false) cs

theorem isRun_nil : IsRun [] := by simp [IsRun]

theorem isRun_cons {c : Char} {cs : List Char} :
    IsRun (c :: cs) ↔ (c ≠ '%' ∧ isBlank c = false) ∧ IsRun cs := List.forall_mem_cons

theorem isRun_append {cs ds : List Char} : IsRun (cs ++ ds) ↔ IsRun cs ∧ IsRun ds := List.forall_mem_append

theorem isBlank_percent : isBlank '%' = false := by decide

/-- Where a reader stands. -/
inductive Standing
  | outside
  /-- Behind an open percent sign and a run. -/
  | opened (run : List Char)
  deriving DecidableEq, Repr

namespace Standing

/-- What is read but not yet written. -/
def held : Standing → List Char
  | outside => []
  | opened run => '%' :: run

def next : Standing → Char → Standing
  | outside, c => if c = '%' then opened [] else outside
  | opened run, c => if c = '%' ∨ isBlank c then outside else opened (run ++ [c])

/-- What a letter lets the reader write. -/
def written : Standing → Char → List Span
  | outside, c => if c = '%' then [] else letters [c]
  | opened run, c =>
    if c = '%' then
      if run = [] then letters ['%', '%'] else [.reference (String.ofList run)]
    else if isBlank c then letters ('%' :: run ++ [c]) else []

/-- Where the reader stands behind a text. -/
def after (s : Standing) (cs : List Char) : Standing := cs.foldl next s

/-- All that the reader writes, to the end of the text. What it then still holds is literal. -/
def read : Standing → List Char → List Span
  | s, [] => letters s.held
  | s, c :: cs => s.written c ++ (s.next c).read cs

/-- What the reader has written when it comes to the end of a text that may go on. -/
def readOn : Standing → List Char → List Span
  | _, [] => []
  | s, c :: cs => s.written c ++ (s.next c).readOn cs

@[simp] theorem after_nil (s : Standing) : s.after [] = s := rfl

@[simp] theorem after_cons (s : Standing) (c : Char) (cs : List Char) :
    s.after (c :: cs) = (s.next c).after cs := rfl

theorem read_append (s : Standing) (cs ds : List Char) :
    s.read (cs ++ ds) = s.readOn cs ++ (s.after cs).read ds := by
  induction cs generalizing s with
  | nil => rfl
  | cons c cs ih => rw [List.cons_append, read, ih, readOn, after_cons, List.append_assoc]

theorem read_eq_readOn (s : Standing) (cs : List Char) : s.read cs = s.readOn cs ++ letters (s.after cs).held := by
  have h := read_append s cs []
  rwa [List.append_nil] at h

/-! ### The ways to come outside again

From outside, a text goes on with a letter, an escape, a reference, or a percent sign that a blank gives up;
or it ends behind an open percent sign. -/

theorem next_opened {c : Char} (run : List Char) (hc : c ≠ '%' ∧ isBlank c = false) :
    (opened run).next c = opened (run ++ [c]) := by simp [next, hc]

theorem written_opened {c : Char} (run : List Char) (hc : c ≠ '%' ∧ isBlank c = false) :
    (opened run).written c = [] := by simp [written, hc]

theorem read_opened_run {run : List Char} (hrun : IsRun run) (before cs : List Char) :
    (opened before).read (run ++ cs) = (opened (before ++ run)).read cs := by
  induction run generalizing before with
  | nil => rw [List.append_nil, List.nil_append]
  | cons c run ih =>
      obtain ⟨hc, hrest⟩ := isRun_cons.1 hrun
      rw [List.cons_append, read, written_opened before hc, next_opened before hc, List.nil_append,
        ih hrest, List.append_assoc, List.singleton_append]

theorem read_outside_letter {c : Char} (hc : c ≠ '%') (cs : List Char) :
    outside.read (c :: cs) = letters [c] ++ outside.read cs := by simp [read, written, next, hc]

theorem read_outside_percent (cs : List Char) : outside.read ('%' :: cs) = (opened []).read cs := rfl

theorem read_outside_escape (cs : List Char) :
    outside.read ('%' :: '%' :: cs) = letters ['%', '%'] ++ outside.read cs := rfl

theorem read_outside_reference {key : List Char} (hne : key ≠ []) (hkey : IsRun key) (cs : List Char) :
    outside.read ('%' :: key ++ '%' :: cs) = .reference (String.ofList key) :: outside.read cs := by
  rw [List.cons_append, read_outside_percent, read_opened_run hkey, List.nil_append, read]
  simp [written, next, hne]

theorem read_outside_blank {run : List Char} {b : Char} (hrun : IsRun run) (hb : isBlank b = true)
    (cs : List Char) :
    outside.read ('%' :: run ++ b :: cs) = letters ('%' :: run ++ [b]) ++ outside.read cs := by
  have hpercent : b ≠ '%' := by
    rintro rfl
    rw [isBlank_percent] at hb
    cases hb
  rw [List.cons_append, read_outside_percent, read_opened_run hrun, List.nil_append, read]
  simp [written, next, hpercent, hb]

theorem read_outside_unclosed {run : List Char} (hrun : IsRun run) :
    outside.read ('%' :: run) = letters ('%' :: run) := by
  have h := read_opened_run hrun [] []
  rwa [List.append_nil, List.nil_append] at h

end Standing

theorem isRun_or_exists_end (cs : List Char) :
    IsRun cs ∨ ∃ run c rest, cs = run ++ c :: rest ∧ IsRun run ∧ (c = '%' ∨ isBlank c = true) := by
  induction cs with
  | nil => exact .inl isRun_nil
  | cons d cs ih =>
      by_cases hd : d ≠ '%' ∧ isBlank d = false
      · rcases ih with hrun | ⟨run, c, rest, rfl, hrun, hc⟩
        · exact .inl (isRun_cons.2 ⟨hd, hrun⟩)
        · exact .inr ⟨d :: run, c, rest, rfl, isRun_cons.2 ⟨hd, hrun⟩, hc⟩
      · refine .inr ⟨[], d, cs, rfl, isRun_nil, ?_⟩
        by_cases hpercent : d = '%'
        · exact .inl hpercent
        · exact .inr (by simpa [hpercent] using hd)

/-- A text that is literal whatever follows it. -/
def IsLiteral (cs : List Char) : Prop :=
  ∀ rest, Standing.outside.read (cs ++ rest) = letters cs ++ Standing.outside.read rest

/-- Induction over the ways in which a reader comes outside again. -/
@[elab_as_elim]
theorem reading_induction {motive : List Char → Prop} (nil : motive [])
    (literal : ∀ cs rest, IsLiteral cs → motive rest → motive (cs ++ rest))
    (reference : ∀ key rest, key ≠ [] → IsRun key → motive rest → motive ('%' :: key ++ '%' :: rest))
    (unclosed : ∀ run, IsRun run → motive ('%' :: run)) (cs : List Char) : motive cs := by
  induction hn : cs.length using Nat.strongRecOn generalizing cs with
  | ind n ih =>
      subst hn
      rcases cs with _ | ⟨c, cs⟩
      · exact nil
      by_cases hc : c = '%'
      · subst hc
        rcases isRun_or_exists_end cs with hrun | ⟨run, d, rest, rfl, hrun, hd⟩
        · exact unclosed cs hrun
        have hrest : motive rest := ih rest.length (by simp; omega) rest rfl
        rcases hd with rfl | hblank
        · by_cases hne : run = []
          · subst hne
            exact literal ['%', '%'] rest Standing.read_outside_escape hrest
          · exact reference run rest hne hrun hrest
        · have hliteral : IsLiteral ('%' :: run ++ [d]) := by
            intro ds
            rw [List.append_assoc, List.singleton_append, Standing.read_outside_blank hrun hblank]
          simpa using literal ('%' :: run ++ [d]) rest hliteral hrest
      · exact literal [c] cs (Standing.read_outside_letter hc) (ih cs.length (by simp) cs rfl)

theorem isLiteral_nil : IsLiteral [] := fun _ => rfl

theorem IsLiteral.append {cs ds : List Char} (hcs : IsLiteral cs) (hds : IsLiteral ds) : IsLiteral (cs ++ ds) := by
  intro rest
  rw [List.append_assoc, hcs, hds, Span.letters_append, List.append_assoc]

/-- Induction over the references of a text. Each has a literal in front of it, and behind the last one
nothing but letters is read. -/
@[elab_as_elim]
theorem reference_induction {motive : List Char → Prop}
    (last : ∀ cs, Standing.outside.read cs = letters cs → motive cs)
    (reference : ∀ before key rest, IsLiteral before → key ≠ [] → IsRun key → motive rest →
      motive (before ++ ('%' :: key ++ '%' :: rest))) (cs : List Char) : motive cs := by
  -- The literal text that is read so far waits in front for its reference.
  have hbefore : ∀ before, IsLiteral before → motive (before ++ cs) := by
    induction cs using reading_induction with
    | nil =>
        intro before hliteral
        apply last
        rw [hliteral, show Standing.outside.read [] = letters [] from rfl, Span.letters_append]
    | literal cs rest hcs ih =>
        intro before hliteral
        rw [← List.append_assoc]
        exact ih (before ++ cs) (hliteral.append hcs)
    | reference key rest hne hkey ih =>
        intro before hliteral
        exact reference before key rest hliteral hne hkey (ih [] isLiteral_nil)
    | unclosed run hrun =>
        intro before hliteral
        apply last
        rw [hliteral, Standing.read_outside_unclosed hrun, Span.letters_append]
  exact hbefore [] isLiteral_nil

/-- Nothing of the text is lost. -/
theorem rawText_read (cs : List Char) : (Span.rawText (Standing.outside.read cs)).toList = cs := by
  induction cs using reading_induction with
  | nil => rfl
  | literal cs rest hcs ih =>
      rw [hcs, Span.rawText_append, String.toList_append, Span.toList_rawText_letters, ih]
  | reference key rest hne hkey ih =>
      rw [Standing.read_outside_reference hne hkey, Span.rawText_cons, String.toList_append, ih]
      simp [Span.raw, Span.referenceText]
  | unclosed run hrun => rw [Standing.read_outside_unclosed hrun, Span.toList_rawText_letters]

/-- What is read as a key is a run. -/
theorem isRun_of_mem_keys_read {cs : List Char} {key : String}
    (h : key ∈ Span.keys (Standing.outside.read cs)) : IsRun key.toList := by
  induction cs using reading_induction with
  | nil => cases h
  | literal cs rest hcs ih =>
      rw [hcs, Span.keys_append, Span.keys_letters] at h
      exact ih h
  | reference run rest hne hrun ih =>
      rw [Standing.read_outside_reference hne hrun, Span.keys_reference] at h
      rcases List.mem_cons.1 h with rfl | h
      · rwa [String.toList_ofList]
      · exact ih h
  | unclosed run hrun =>
      rw [Standing.read_outside_unclosed hrun, Span.keys_letters] at h
      cases h

end SecretRefs

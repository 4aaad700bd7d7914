import SecretRefs.Proofs.Span.Agreement

/-! Reading a text again after a substitution. Replacements come where a reference stood, so the reader is
outside in front of them; if it is outside behind them too, the rest of the text is read as it was before.
The spans of the new text are then the old ones, with those of each replacement in the place of its
reference. A replacement without a percent sign is a literal. -/

namespace SecretRefs

open SecretRefs.Span (keys letters merged rawText)

namespace Span

/-- Some spans with answers to their references, in order. An answer with a text replaces the reference by
the spans that `put` makes of the text; without a text the reference stays. -/
def answered (put : String → List Span) : List Span → List (Option String) → List Span
  | [], _ => []
  | literal text :: rest, answers => literal text :: answered put rest answers
  | reference key :: rest, [] => reference key :: answered put rest []
  | reference key :: rest, none :: answers => reference key :: answered put rest answers
  | reference _ :: rest, some text :: answers => put text ++ answered put rest answers

variable {put : String → List Span}

@[simp] theorem answered_nil (answers : List (Option String)) : answered put [] answers = [] := by
  cases answers <;> rfl

@[simp] theorem answered_literal (text : String) (ss : List Span) (answers : List (Option String)) :
    answered put (literal text :: ss) answers = literal text :: answered put ss answers := by
  cases answers <;> rfl

theorem answered_letters_append (cs : List Char) (ss : List Span) (answers : List (Option String)) :
    answered put (letters cs ++ ss) answers = letters cs ++ answered put ss answers := by
  induction cs with
  | nil => rfl
  | cons c cs ih => rw [letters_cons, List.cons_append, answered_literal, ih, List.cons_append]

theorem answered_letters (cs : List Char) (answers : List (Option String)) :
    answered put (letters cs) answers = letters cs := by
  have h : answered put (letters cs ++ []) answers = _ := answered_letters_append cs [] answers
  rwa [answered_nil, List.append_nil] at h

theorem merged_answered_prepend (text : String) (ss : List Span) (answers : List (Option String)) :
    merged (answered put (prepend text ss) answers) = merged (literal text :: answered put ss answers) := by
  rcases ss with _ | ⟨next | key, rest⟩
  · rw [prepend_nil, answered_literal]
  · rw [prepend_literal, answered_literal, answered_literal, merged_literal_append]
  · rw [prepend_reference, answered_literal]

/-- Answers go to references alone, so it does not matter how the literal text is cut. -/
theorem merged_answered_merged (ss : List Span) (answers : List (Option String)) :
    merged (answered put (merged ss) answers) = merged (answered put ss answers) := by
  induction ss generalizing answers with
  | nil => rfl
  | cons s ss ih =>
      cases s with
      | literal text =>
          by_cases htext : text = ""
          · subst htext
            rw [merged_literal_empty, ih, answered_literal, merged_literal_empty]
          · rw [merged_literal htext, merged_answered_prepend, answered_literal]
            exact merged_cons_congr _ (ih answers)
      | reference key =>
          rw [merged_reference]
          rcases answers with _ | ⟨_ | text, answers⟩
          · exact merged_cons_congr _ (ih [])
          · exact merged_cons_congr _ (ih answers)
          · exact merged_append_congr _ (ih answers)

theorem merged_answered_congr {put' : String → List Span} (ss : List Span) {answers : List (Option String)}
    (hput : ∀ r, some r ∈ answers → ∀ rest, merged (put r ++ rest) = merged (put' r ++ rest)) :
    merged (answered put ss answers) = merged (answered put' ss answers) := by
  induction ss generalizing answers with
  | nil => rw [answered_nil, answered_nil]
  | cons s ss ih =>
      cases s with
      | literal text =>
          rw [answered_literal, answered_literal]
          exact merged_cons_congr _ (ih hput)
      | reference key =>
          rcases answers with _ | ⟨_ | r, answers⟩
          · exact merged_cons_congr _ (ih hput)
          · exact merged_cons_congr _ (ih fun r hr => hput r (List.mem_cons_of_mem _ hr))
          · rw [answered, answered, hput r List.mem_cons_self]
            exact merged_append_congr _ (ih fun r hr => hput r (List.mem_cons_of_mem _ hr))

/-- The keys whose answer has no text. -/
def rejected (ks : List String) (answers : List (Option String)) : List String :=
  ((ks.zip answers).filter (·.2.isNone)).map (·.1)

theorem keys_answered (hput : ∀ text, keys (put text) = []) {ss : List Span}
    {answers : List (Option String)} (hlength : answers.length = (keys ss).length) :
    keys (answered put ss answers) = rejected (keys ss) answers := by
  induction ss generalizing answers with
  | nil => rfl
  | cons s ss ih =>
      cases s with
      | literal text => rw [answered_literal, keys_literal, keys_literal, ih hlength]
      | reference key =>
          rw [keys_reference, List.length_cons] at hlength
          rcases answers with _ | ⟨_ | text, answers⟩
          · cases hlength
          · rw [answered, keys_reference, keys_reference, ih (by simpa using hlength)]
            rfl
          · rw [answered, keys_append, hput, keys_reference, ih (by simpa using hlength)]
            rfl

theorem rejected_map (ks : List String) (f : String → Option String) :
    rejected ks (ks.map f) = ks.filter fun key => (f key).isNone := by
  induction ks with
  | nil => rfl
  | cons key ks ih =>
      rw [rejected] at ih ⊢
      rw [List.map_cons, List.zip_cons_cons]
      cases h : f key <;> simp [h, ih]

/-- A second round of answers goes to the references that the first one left. -/
theorem answered_answered (ss : List Span) (f g : String → Option String) :
    answered (fun r => [literal r]) (answered (fun r => [literal r]) ss ((keys ss).map f))
        (((keys ss).filter fun key => (f key).isNone).map g) =
      answered (fun r => [literal r]) ss ((keys ss).map fun key => (f key).or (g key)) := by
  induction ss with
  | nil => rfl
  | cons s ss ih =>
      cases s with
      | literal text => rw [answered_literal, answered_literal, answered_literal, keys_literal, ih]
      | reference key =>
          rw [keys_reference, List.map_cons, List.map_cons]
          cases hf : f key with
          | some r =>
              rw [List.filter_cons_of_neg (by simp [hf]), Option.some_or, answered, answered, List.singleton_append,
                answered_literal, ih, List.singleton_append]
          | none =>
              rw [List.filter_cons_of_pos (by simp [hf]), Option.none_or, List.map_cons, answered]
              cases hg : g key with
              | some r => rw [answered, answered, ih]
              | none => rw [answered, answered, ih]

theorem rejected_sublist_keys_answered (ss : List Span) (answers : List (Option String)) :
    (rejected (keys ss) answers).Sublist (keys (answered put ss answers)) := by
  induction ss generalizing answers with
  | nil => rw [answered_nil]; exact List.Sublist.refl _
  | cons s ss ih =>
      cases s with
      | literal text => rw [answered_literal]; exact ih answers
      | reference key =>
          rcases answers with _ | ⟨_ | text, answers⟩
          · exact List.nil_sublist _
          · exact (ih answers).cons_cons key
          · rw [answered, keys_append]
            exact (ih answers).trans (List.sublist_append_right _ _)

end Span

/-- A text with each answer that has a text in the place of its reference. -/
def filled (text : String) (answers : List (Option String)) : String :=
  rawText (Span.answered (fun r => [.literal r]) (spans text) answers)

theorem foldlM_eq_mapM {m : Type → Type} [Monad m] [LawfulMonad m] (accept : String → m (Option String))
    {step : String → Span → m String}
    (hliteral : ∀ output text, step output (.literal text) = pure (output ++ text))
    (hreference : ∀ output key, step output (.reference key) =
      (fun answer => output ++ answer.getD (Span.referenceText key)) <$> accept key)
    (ss : List Span) (output : String) :
    ss.foldlM step output =
      (fun answers => output ++ rawText (Span.answered (fun r => [.literal r]) ss answers)) <$>
        (keys ss).mapM accept := by
  induction ss generalizing output with
  | nil => simp
  | cons s ss ih =>
      cases s with
      | literal text =>
          rw [List.foldlM_cons, hliteral, pure_bind, ih]
          simp [Span.raw, String.append_assoc]
      | reference key =>
          rw [List.foldlM_cons, hreference, bind_map_left, Span.keys_reference, List.mapM_cons, map_bind]
          apply bind_congr
          intro answer
          rw [ih]
          cases answer <;> simp [Span.answered, Span.raw, String.append_assoc]

/-- Substitution asks about the keys in order and then fills in the answers. -/
theorem substitute_eq_mapM {m : Type → Type} [Monad m] [LawfulMonad m] (text : String)
    (accept : String → m (Option String)) :
    substitute text accept = filled text <$> (referenceKeys text).mapM accept := by
  rw [substitute, foldlM_eq_mapM accept (fun _ _ => rfl) (fun _ _ => bind_pure_comp _ _)]
  simp only [String.empty_append]
  rfl

/-! ### Reading the new text -/

theorem toList_rawText_letters_append (cs : List Char) (ss : List Span) :
    (rawText (letters cs ++ ss)).toList = cs ++ (rawText ss).toList := by
  rw [Span.rawText_append, String.toList_append, Span.toList_rawText_letters]

theorem toList_rawText_reference (key : List Char) (ss : List Span) :
    (rawText (.reference (String.ofList key) :: ss)).toList = '%' :: key ++ '%' :: (rawText ss).toList := by
  simp [Span.raw, Span.referenceText]

/-- If each replacement leaves the reader outside, it reads the rest of the new text as it read the old. -/
theorem read_answered (cs : List Char) {answers : List (Option String)}
    (hclosed : ∀ r, some r ∈ answers → Standing.outside.after r.toList = .outside) :
    Standing.outside.read
        (rawText (Span.answered (fun r => [.literal r]) (Standing.outside.read cs) answers)).toList =
      Span.answered (fun r => Standing.outside.read r.toList) (Standing.outside.read cs) answers := by
  induction cs using reading_induction generalizing answers with
  | nil => simp [Standing.read, Standing.held]
  | literal cs rest hcs ih =>
      rw [hcs, Span.answered_letters_append, Span.answered_letters_append, toList_rawText_letters_append, hcs,
        ih hclosed]
  | reference key rest hne hkey ih =>
      rw [Standing.read_outside_reference hne hkey]
      rcases answers with _ | ⟨_ | r, answers⟩
      · rw [Span.answered, Span.answered, toList_rawText_reference, Standing.read_outside_reference hne hkey,
          ih hclosed]
      · rw [Span.answered, Span.answered, toList_rawText_reference, Standing.read_outside_reference hne hkey,
          ih fun r hr => hclosed r (List.mem_cons_of_mem _ hr)]
      · have hafter := hclosed r List.mem_cons_self
        have hread := Standing.read_eq_readOn .outside r.toList
        rw [hafter] at hread
        rw [Span.answered, Span.answered, List.singleton_append, Span.rawText_cons, String.toList_append,
          Span.raw, Standing.read_append, hafter, ih fun r hr => hclosed r (List.mem_cons_of_mem _ hr), hread]
        simp [Standing.held]
  | unclosed run hrun =>
      rw [Standing.read_outside_unclosed hrun, Span.answered_letters, Span.answered_letters,
        Span.toList_rawText_letters, Standing.read_outside_unclosed hrun]

theorem filled_eq (text : String) (answers : List (Option String)) :
    filled text answers =
      rawText (Span.answered (fun r => [.literal r]) (Standing.outside.read text.toList) answers) := by
  rw [filled, ← Span.rawText_merged, spans_eq_merged, Span.merged_answered_merged, Span.rawText_merged]

theorem spans_filled (text : String) {answers : List (Option String)}
    (hclosed : ∀ r, some r ∈ answers → Standing.outside.after r.toList = .outside) :
    spans (filled text answers) =
      merged (Span.answered (fun r => Standing.outside.read r.toList) (spans text) answers) := by
  calc
    spans (filled text answers)
        = merged (Span.answered (fun r => Standing.outside.read r.toList)
            (Standing.outside.read text.toList) answers) := by
          rw [spans_eq_merged, filled_eq, read_answered _ hclosed]
    _ = merged (Span.answered (fun r => Standing.outside.read r.toList) (spans text) answers) := by
          rw [spans_eq_merged text, Span.merged_answered_merged]

theorem spans_filled_of_not_mem (text : String) {answers : List (Option String)}
    (hfree : ∀ r, some r ∈ answers → '%' ∉ r.toList) :
    spans (filled text answers) = merged (Span.answered (fun r => [.literal r]) (spans text) answers) := by
  rw [spans_filled text fun r hr => Standing.after_outside_of_not_mem (hfree r hr)]
  apply Span.merged_answered_congr
  intro r hr rest
  rw [Standing.read_outside_of_not_mem (hfree r hr), Span.merged_letters_append, String.ofList_toList]
  rfl

theorem referenceKeys_filled_of_not_mem (text : String) {answers : List (Option String)}
    (hlength : answers.length = (referenceKeys text).length)
    (hfree : ∀ r, some r ∈ answers → '%' ∉ r.toList) :
    referenceKeys (filled text answers) = Span.rejected (referenceKeys text) answers := by
  calc
    referenceKeys (filled text answers)
        = keys (merged (Span.answered (fun r => [.literal r]) (spans text) answers)) := by
          rw [referenceKeys, spans_filled_of_not_mem text hfree]
          rfl
    _ = keys (Span.answered (fun r => [.literal r]) (spans text) answers) := Span.keys_merged _
    _ = Span.rejected (referenceKeys text) answers := Span.keys_answered (fun _ => rfl) hlength

/-- What is filled in may come in two rounds, as long as the first brings no percent sign into the text. -/
theorem filled_filled (text : String) (f g : String → Option String)
    (hfree : ∀ r, some r ∈ (referenceKeys text).map f → '%' ∉ r.toList) :
    filled (filled text ((referenceKeys text).map f))
        ((referenceKeys (filled text ((referenceKeys text).map f))).map g) =
      filled text ((referenceKeys text).map fun key => (f key).or (g key)) := by
  have hkeys : referenceKeys (filled text ((referenceKeys text).map f)) =
      (referenceKeys text).filter fun key => (f key).isNone := by
    rw [referenceKeys_filled_of_not_mem text (List.length_map f) hfree, Span.rejected_map]
  rw [hkeys]
  calc
    filled (filled text ((referenceKeys text).map f)) (((referenceKeys text).filter fun key => (f key).isNone).map g)
        = rawText (Span.answered (fun r => [.literal r])
            (merged (Span.answered (fun r => [.literal r]) (spans text) ((referenceKeys text).map f)))
            (((referenceKeys text).filter fun key => (f key).isNone).map g)) := by
          rw [filled, spans_filled_of_not_mem text hfree]
    _ = rawText (Span.answered (fun r => [.literal r])
            (Span.answered (fun r => [.literal r]) (spans text) ((referenceKeys text).map f))
            (((referenceKeys text).filter fun key => (f key).isNone).map g)) := by
          rw [← Span.rawText_merged, Span.merged_answered_merged, Span.rawText_merged]
    _ = filled text ((referenceKeys text).map fun key => (f key).or (g key)) := by
          rw [filled]
          exact congrArg rawText (Span.answered_answered (spans text) f g)

/-! ### The spans of a substitution -/

theorem length_mapM_stateM {σ α β : Type} (f : α → StateM σ β) (xs : List α) (s : σ) :
    ((xs.mapM f).run s).1.length = xs.length := by
  induction xs generalizing s with
  | nil => rfl
  | cons x xs ih =>
      rw [List.mapM_cons]
      exact congrArg (· + 1) (ih ((f x).run s).2)

/-- **Substitution never re-cuts a text.** As long as no answer holds a percent sign, the spans of the new
text are the spans of the old one with the answers in place, merged; what it refers to is what was
rejected, in the same order. Each answer may depend on all the keys asked about before. -/
theorem spans_substitute {σ : Type} (text : String) (accept : String → StateM σ (Option String))
    {s t : σ} {answers : List (Option String)}
    (hanswers : ((referenceKeys text).mapM accept).run s = (answers, t))
    (hfree : ∀ r, some r ∈ answers → '%' ∉ r.toList) :
    ∃ output, (substitute text accept).run s = (output, t) ∧
      spans output = merged (Span.answered (fun r => [.literal r]) (spans text) answers) ∧
      referenceKeys output = Span.rejected (referenceKeys text) answers := by
  have hlength : answers.length = (referenceKeys text).length := by
    rw [← length_mapM_stateM accept (referenceKeys text) s, hanswers]
  refine ⟨filled text answers, ?_, spans_filled_of_not_mem text hfree,
    referenceKeys_filled_of_not_mem text hlength hfree⟩
  rw [substitute_eq_mapM, StateT.run_map, hanswers]
  rfl

/-- Behind an open percent sign one reference gives way to nothing, one stays, and one becomes a text with a
blank. -/
theorem spans_substitute_open_percent :
    ∃ output, (substitute "5% %a%%b%%c%%"
        (fun _ => modifyGet fun answers => (answers.head?.join, answers.tail) :
          String → StateM (List (Option String)) (Option String))).run [some "", none, some "x y"] =
        (output, []) ∧
      spans output = merged (Span.answered (fun r => [.literal r]) (spans "5% %a%%b%%c%%")
        [some "", none, some "x y"]) ∧
      referenceKeys output = Span.rejected (referenceKeys "5% %a%%b%%c%%") [some "", none, some "x y"] :=
  spans_substitute _ _ (by rw [referenceKeys_eq]; rfl) (by simp)

end SecretRefs

import SecretRefs.Proofs.Shell.Lexer

/-! Quoted texts as a shell reads them. All that is in the quotes adds to the word, whatever it is to the shell outside
of them, and no token ends on the way. So a quoted text is one word: it ends where the text does, unless what follows
goes on with it. -/

namespace SecretRefs.Shell

namespace Lexer

/-- In single quotes all characters but the quote stand for themselves, and that is put outside of them. -/
theorem passes_quoteChar (c : Char) (text : List Char) :
    Passes ⟨.single, some text⟩ (quoteChar c) ⟨.single, some (text ++ [c])⟩ := by
  rw [quoteChar]
  split
  · next hc =>
    subst hc
    have hclose : (Lexer.mk .single (some text)).step '\'' = some ([], ⟨.bare, some text⟩) := rfl
    have hescape : (Lexer.mk .bare (some text)).step '\\' = some ([], ⟨.escaped, some text⟩) := rfl
    have hquote : (Lexer.mk .escaped (some text)).step '\'' = some ([], ⟨.bare, some (text ++ ['\''])⟩) := rfl
    have hopen : (Lexer.mk .bare (some (text ++ ['\'']))).step '\'' =
        some ([], ⟨.single, some (text ++ ['\''] ++ [])⟩) := rfl
    rw [List.append_nil] at hopen
    exact .cons hclose (.cons hescape (.cons hquote (.cons hopen .nil)))
  · next hc =>
    have hstep : (Lexer.mk .single (some text)).step c = some ([], ⟨.single, some (text ++ [c])⟩) := by
      simp only [step, if_neg hc]
      rfl
    exact .cons hstep .nil

theorem passes_flatMap_quoteChar (cs text : List Char) :
    Passes ⟨.single, some text⟩ (cs.flatMap quoteChar) ⟨.single, some (text ++ cs)⟩ := by
  induction cs generalizing text with
  | nil =>
      rw [List.append_nil]
      exact .nil
  | cons c cs ih =>
      rw [List.flatMap_cons, List.append_cons]
      exact (passes_quoteChar c text).append (ih (text ++ [c]))

/-- A quoted text adds itself to the word, or begins one. -/
theorem passes_quote (word : Option (List Char)) (value : String) :
    Passes ⟨.bare, word⟩ (quote value).toList ⟨.bare, some (word.getD [] ++ value.toList)⟩ := by
  have hopen : (Lexer.mk .bare word).step '\'' = some ([], ⟨.single, some (word.getD [] ++ [])⟩) := rfl
  have hclose : (Lexer.mk .single (some (word.getD [] ++ value.toList))).step '\'' =
      some ([], ⟨.bare, some (word.getD [] ++ value.toList)⟩) := rfl
  rw [List.append_nil] at hopen
  rw [quote, String.toList_ofList]
  exact .cons hopen ((passes_flatMap_quoteChar value.toList (word.getD [])).append (.cons hclose .nil))

/-! ### The first word -/

/-- The word that a text begins with, behind what the lexer has read of it, and the text behind the word. The character
that ends the word is not read. -/
def firstWord? (l : Lexer) : List Char → Option (String × List Char)
  | [] => if l.quoting = .bare then l.word.map fun text => (String.ofList text, []) else none
  | c :: cs =>
    match l.step c with
    | some ([], next) => next.firstWord? cs
    | some (.word text :: _, _) => some (text, c :: cs)
    | _ => none

/-- A text that a word in front of it does not go on with. -/
def EndsWord (rest : List Char) : Prop := ∀ c, rest.head? = some c → Role.of c ∈ [.blank, .newline, .operator]

variable {l next : Lexer} {c : Char} {text : String} {cs rest : List Char} {tokens : List Token}

theorem firstWord?_cons_of_silent (h : l.step c = some ([], next)) (cs : List Char) :
    l.firstWord? (c :: cs) = next.firstWord? cs := by
  rw [firstWord?, h]

/-- A word ends at a character, which is read, if at all, when the word is done. -/
theorem firstWord?_cons_of_ended (h : l.step c = some (.word text :: tokens, next)) (cs : List Char) :
    l.firstWord? (c :: cs) = some (text, c :: cs) := by
  rw [firstWord?, h]

theorem firstWord?_cons_cases (h : l.firstWord? (c :: cs) = some (text, rest)) :
    (∃ next, l.step c = some ([], next) ∧ next.firstWord? cs = some (text, rest)) ∨
      ∃ tokens next, l.step c = some (.word text :: tokens, next) ∧ rest = c :: cs := by
  rw [firstWord?] at h
  split at h
  · next next hstep => exact .inl ⟨next, hstep, h⟩
  · next word tokens next hstep =>
    cases h
    exact .inr ⟨tokens, next, hstep, rfl⟩
  · cases h

theorem Passes.firstWord? (h : Passes l cs next) (rest : List Char) :
    l.firstWord? (cs ++ rest) = next.firstWord? rest := by
  induction h with
  | nil => rfl
  | cons hstep _ ih => rw [List.cons_append, firstWord?_cons_of_silent hstep, ih]

theorem length_le_of_firstWord? (h : l.firstWord? cs = some (text, rest)) : rest.length ≤ cs.length := by
  induction cs generalizing l with
  | nil =>
      rw [firstWord?] at h
      split at h
      · obtain ⟨_, -, heq⟩ := Option.map_eq_some_iff.1 h
        cases heq
        exact Nat.le_refl _
      · cases h
  | cons c cs ih =>
      rcases firstWord?_cons_cases h with ⟨next, -, hnext⟩ | ⟨_, _, -, rfl⟩
      · have hrest := ih hnext
        rw [List.length_cons]
        omega
      · exact Nat.le_refl _

/-- The first word is the first token, and the other ones are those of the text behind it. -/
theorem tokens?_of_firstWord? (h : l.firstWord? cs = some (text, rest)) :
    l.tokens? cs = (Lexer.tokens? {} rest).map (.word text :: ·) := by
  induction cs generalizing l with
  | nil =>
      rw [firstWord?] at h
      split at h
      · next hbare =>
        obtain ⟨word, hword, heq⟩ := Option.map_eq_some_iff.1 h
        cases heq
        simp only [Lexer.tokens?, hbare, ended, hword]
        rfl
      · cases h
  | cons c cs ih =>
      rcases firstWord?_cons_cases h with ⟨next, hstep, hnext⟩ | ⟨tokens, next, hstep, rfl⟩
      · rw [tokens?_cons_of_silent hstep, ih hnext]
      · rw [tokens?_cons hstep, tokens?_cons (step_word hstep).2, Option.map_map]
        rfl

theorem step_bare_cases (word : List Char) (c : Char) :
    (Role.of c ∈ [.blank, .newline, .operator] ∧
      ∃ tokens next, (Lexer.mk .bare (some word)).step c = some (.word (String.ofList word) :: tokens, next)) ∨
    (Role.of c ∉ [.blank, .newline, .operator] ∧
      ∀ tokens next, (Lexer.mk .bare (some word)).step c = some (tokens, next) → tokens = []) := by
  cases hrole : Role.of c with
  | blank | newline | operator =>
      refine .inl ⟨by decide, ?_⟩
      simp only [step, hrole]
      exact ⟨_, _, rfl⟩
  | expansion | backslash | singleQuote | doubleQuote =>
      refine .inr ⟨by decide, fun tokens next h => ?_⟩
      simp only [step, hrole] at h
      cases h <;> rfl
  | letter =>
      refine .inr ⟨by decide, fun tokens next h => ?_⟩
      rw [step_letter (some word) hrole (by simp)] at h
      cases h
      rfl

/-- A bare word ends where it stands if nothing goes on with it. -/
theorem firstWord?_bare_iff {word : List Char} :
    (Lexer.mk .bare (some word)).firstWord? rest = some (String.ofList word, rest) ↔ EndsWord rest := by
  rcases rest with _ | ⟨c, cs⟩
  · refine iff_of_true rfl ?_
    rintro c ⟨⟩
  rcases step_bare_cases word c with ⟨hends, tokens, next, hstep⟩ | ⟨hgoes, hsilent⟩
  · refine iff_of_true (firstWord?_cons_of_ended hstep cs) ?_
    rintro c ⟨⟩
    exact hends
  · refine iff_of_false (fun h => ?_) (fun h => hgoes (h c rfl))
    rcases firstWord?_cons_cases h with ⟨next, -, hnext⟩ | ⟨tokens, next, hstep, -⟩
    · -- the character is read, so it is not in the text behind the word
      have hlength := length_le_of_firstWord? hnext
      rw [List.length_cons] at hlength
      omega
    · cases hsilent _ _ hstep

end Lexer

open Lexer (firstWord? EndsWord)

/-- How a shell reads a quoted text that stands in front of another text. -/
structure ReadsQuoted (value : String) (rest : List Char) : Prop where
  /-- At the end of a line, or of all, there is one word, the text itself, and the shell stops right behind it. -/
  word : rest = [] ∨ rest.head? = some '\n' →
    firstWord? {} ((quote value).toList ++ rest) = some (value, rest)
  /-- What else may follow. -/
  word_iff : firstWord? {} ((quote value).toList ++ rest) = some (value, rest) ↔ EndsWord rest
  /-- The shell goes on as if there were nothing in front. -/
  tokens : EndsWord rest → Lexer.tokens? {} ((quote value).toList ++ rest) =
    (Lexer.tokens? {} rest).map (.word value :: ·)

/-- **A quoted text is read back, and nothing behind it is read.** -/
theorem readsQuoted (value : String) (rest : List Char) : ReadsQuoted value rest := by
  -- behind the quotes the lexer has the text itself as the word that it is in
  have hiff : firstWord? {} ((quote value).toList ++ rest) = some (value, rest) ↔ EndsWord rest := by
    rw [(Lexer.passes_quote none value).firstWord?, Option.getD_none, List.nil_append, ← Lexer.firstWord?_bare_iff,
      String.ofList_toList]
  refine ⟨fun hrest => hiff.2 ?_, hiff, fun hrest => Lexer.tokens?_of_firstWord? (hiff.2 hrest)⟩
  rintro c hc
  rcases hrest with rfl | hfeed
  · cases hc
  · rw [hfeed] at hc
    cases hc
    decide

/-- The line feed in the quotes is of the word, the one behind them is not. -/
example : firstWord? {} ((quote "it's\n").toList ++ ['\n']) = some ("it's\n", ['\n']) := by
  decide

end SecretRefs.Shell

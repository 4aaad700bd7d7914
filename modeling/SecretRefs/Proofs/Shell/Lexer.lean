import SecretRefs.Command.Format

/-! Scripts as a POSIX shell reads them. The lexer takes a script character by character and removes the quotes. It
gives up at an expansion, since what that stands for is not in the script; quotes that are left open make no
script at all. What comes after it, the expansion of paths and tildes, is left out.

The first token of a script is a word only if all characters up to its end are silent: none of them ends a token, and
each adds at most one character to what the lexer holds. -/

namespace SecretRefs.Shell

/-- What a character is to a shell outside of quotes. -/
inductive Role
  | blank
  | newline
  /-- It ends a command or joins it with another one. -/
  | operator
  | expansion
  | backslash
  | singleQuote
  | doubleQuote
  /-- It stands for itself. -/
  | letter
  deriving DecidableEq, Repr

def Role.of (c : Char) : Role :=
  if c = ' ' ∨ c = '\t' then blank
  else if c = '\n' then newline
  else if c ∈ [';', '&', '|', '(', ')', '<', '>'] then operator
  else if c = '$' ∨ c = '\x60' then expansion
  else if c = '\\' then backslash
  else if c = '\'' then singleQuote
  else if c = '"' then doubleQuote
  else letter

inductive Token
  /-- A word, without its quotes. -/
  | word (text : String)
  | newline
  | operator (c : Char)
  deriving DecidableEq, Repr

/-- Where a lexer is with regard to quotes. -/
inductive Quoting
  | bare
  /-- Behind a backslash outside of quotes. -/
  | escaped
  | single
  | double
  /-- Behind a backslash in double quotes. -/
  | doubleEscaped
  | comment
  deriving DecidableEq, Repr

structure Lexer where
  quoting : Quoting := .bare
  /-- The word that is being read; there is none between two words. -/
  word : Option (List Char) := none
  deriving DecidableEq, Repr

namespace Lexer

/-- The word with further text at its end. -/
def extended (l : Lexer) (cs : List Char) : Option (List Char) := some (l.word.getD [] ++ cs)

/-- The word, which ends here. -/
def ended (l : Lexer) : List Token := (l.word.map fun text => .word (String.ofList text)).toList

/-- Reads a character: the tokens that end with it, and the lexer behind it. -/
def step (l : Lexer) (c : Char) : Option (List Token × Lexer) :=
  match l.quoting with
  | .bare =>
    match Role.of c with
    | .blank => some (l.ended, {})
    | .newline => some (l.ended ++ [.newline], {})
    | .operator => some (l.ended ++ [.operator c], {})
    | .expansion => none
    | .backslash => some ([], { l with quoting := .escaped })
    | .singleQuote => some ([], { quoting := .single, word := l.extended [] })
    | .doubleQuote => some ([], { quoting := .double, word := l.extended [] })
    | .letter =>
      if c = '#' ∧ l.word = none then some ([], { quoting := .comment })
      else some ([], { word := l.extended [c] })
  | .escaped => some ([], { word := if c = '\n' then l.word else l.extended [c] })
  | .single => some ([], if c = '\'' then { word := l.word } else { l with word := l.extended [c] })
  | .double =>
    match Role.of c with
    | .doubleQuote => some ([], { word := l.word })
    | .backslash => some ([], { l with quoting := .doubleEscaped })
    | .expansion => none
    | _ => some ([], { l with word := l.extended [c] })
  | .doubleEscaped =>
    match Role.of c with
    | .newline => some ([], { l with quoting := .double })
    | .doubleQuote | .backslash | .expansion => some ([], { quoting := .double, word := l.extended [c] })
    | _ => some ([], { quoting := .double, word := l.extended ['\\', c] })
  | .comment => some (if c = '\n' then ([.newline], {}) else ([], { quoting := .comment }))

/-- The tokens of a text that is read to its end. -/
def tokens? (l : Lexer) : List Char → Option (List Token)
  | [] =>
    match l.quoting with
    | .bare => some l.ended
    | .comment => some []
    | .escaped | .single | .double | .doubleEscaped => none
  | c :: cs => (l.step c).bind fun (tokens, next) => (next.tokens? cs).map (tokens ++ ·)

end Lexer

/-- The simple commands of some tokens behind the given words. Only the end of a line and `;` may stand between
two of them. -/
def commands? (words : List String) : List Token → Option (List (List String))
  | [] => some (if words.isEmpty then [] else [words])
  | .word text :: tokens => commands? (words ++ [text]) tokens
  | .newline :: tokens =>
    (commands? [] tokens).map fun commands => if words.isEmpty then commands else words :: commands
  | .operator c :: tokens =>
    if c = ';' ∧ !words.isEmpty then (commands? [] tokens).map (words :: ·) else none

/-- The simple commands of a script that consists of nothing else. -/
def script? (text : String) : Option (List (List String)) :=
  (Lexer.tokens? {} text.toList).bind (commands? [])

namespace Lexer

theorem tokens?_cons {l next : Lexer} {c : Char} {tokens : List Token} (h : l.step c = some (tokens, next))
    (cs : List Char) : l.tokens? (c :: cs) = (next.tokens? cs).map (tokens ++ ·) := by
  rw [tokens?, h]
  rfl

/-- A character that ends no token. -/
theorem tokens?_cons_of_silent {l next : Lexer} {c : Char} (h : l.step c = some ([], next)) (cs : List Char) :
    l.tokens? (c :: cs) = next.tokens? cs := by
  rw [tokens?_cons h, show (([] : List Token) ++ ·) = id from rfl, Option.map_id_fun, id]

theorem step_letter (word : Option (List Char)) {c : Char} (hc : Role.of c = .letter)
    (hstart : word = none → c ≠ '#') :
    (Lexer.mk .bare word).step c = some ([], ⟨.bare, some (word.getD [] ++ [c])⟩) := by
  have hcomment : ¬ (c = '#' ∧ word = none) := fun h => hstart h.2 h.1
  simp only [step, hc, if_neg hcomment]
  rfl

/-- The lexer reads a text and ends no token on the way. -/
inductive Passes : Lexer → List Char → Lexer → Prop
  | nil {l : Lexer} : Passes l [] l
  | cons {l next last : Lexer} {c : Char} {cs : List Char} : l.step c = some ([], next) → Passes next cs last →
      Passes l (c :: cs) last

namespace Passes

variable {l next last : Lexer} {cs ds : List Char}

theorem append (h : Passes l cs next) (hrest : Passes next ds last) : Passes l (cs ++ ds) last := by
  induction h with
  | nil => exact hrest
  | cons hstep _ ih => exact .cons hstep (ih hrest)

theorem tokens? (h : Passes l cs next) (rest : List Char) : l.tokens? (cs ++ rest) = next.tokens? rest := by
  induction h with
  | nil => rfl
  | cons hstep _ ih => rw [List.cons_append, tokens?_cons_of_silent hstep, ih]

end Passes

theorem passes_letters {cs : List Char} (hcs : ∀ c ∈ cs, Role.of c = .letter) (text : List Char) :
    Passes ⟨.bare, some text⟩ cs ⟨.bare, some (text ++ cs)⟩ := by
  induction cs generalizing text with
  | nil =>
      rw [List.append_nil]
      exact .nil
  | cons c cs ih =>
      obtain ⟨hc, hrest⟩ := List.forall_mem_cons.1 hcs
      rw [List.append_cons]
      exact .cons (step_letter (some text) hc (by simp)) (ih hrest (text ++ [c]))

/-! ### First words -/

/-- How many characters a lexer has at hand: those of its word, and a backslash in double quotes. -/
def held (l : Lexer) : Nat := (l.word.getD []).length + if l.quoting = .doubleEscaped then 1 else 0

theorem held_bare (word : Option (List Char)) : (Lexer.mk .bare word).held = (word.getD []).length := rfl

variable {l next : Lexer} {c : Char} {text : String} {rest : List Token}

theorem not_comment_of_first {cs : List Char} (h : l.tokens? cs = some (.word text :: rest)) :
    l.quoting ≠ .comment := by
  intro hl
  induction cs generalizing l with
  | nil => simp [tokens?, hl] at h
  | cons c cs ih =>
      by_cases hc : c = '\n'
      · have hstep : l.step c = some ([.newline], {}) := by simp [step, hl, hc]
        rw [tokens?_cons hstep, Option.map_eq_some_iff] at h
        simp at h
      · have hstep : l.step c = some ([], { quoting := .comment }) := by simp [step, hl, hc]
        rw [tokens?_cons_of_silent hstep] at h
        exact ih h rfl

/-- The character that ends a word has no part in it, and is read as if no word stood in front. -/
theorem step_word (h : l.step c = some (.word text :: rest, next)) :
    l.word = some text.toList ∧ Lexer.step {} c = some (rest, next) := by
  obtain ⟨quoting, word⟩ := l
  cases quoting with
  | bare =>
      simp only [step] at h
      cases hrole : Role.of c <;> simp only [hrole] at h
      case blank | newline | operator =>
        rcases word with _ | word <;> cases h
        refine ⟨by rw [String.toList_ofList], ?_⟩
        simp only [step, hrole]
        rfl
      case letter => split at h <;> cases h
      all_goals cases h
  | escaped | single => cases h
  | double | doubleEscaped | comment =>
      simp only [step] at h
      split at h <;> cases h

/-- A word that comes first ends at the next character, or this ends no token. -/
theorem first_word {cs : List Char} (h : l.tokens? (c :: cs) = some (.word text :: rest)) :
    l.word = some text.toList ∨
      ∃ next, l.step c = some ([], next) ∧ next.tokens? cs = some (.word text :: rest) := by
  rw [tokens?] at h
  obtain ⟨⟨tokens, next⟩, hstep, hrest⟩ := Option.bind_eq_some_iff.1 h
  obtain ⟨others, hothers, htokens⟩ := Option.map_eq_some_iff.1 hrest
  rcases tokens with _ | ⟨token, more⟩
  · exact .inr ⟨next, hstep, by rw [hothers, ← htokens]; rfl⟩
  · obtain rfl := (List.cons.inj htokens).1
    exact .inl (step_word hstep).1

/-- A character that ends no token may add to the word. Outside of quotes only letters do so. -/
theorem silent_step (hl : l.quoting ≠ .comment) (h : l.step c = some ([], next)) :
    l.word.getD [] <+: next.word.getD [] ∧ next.held ≤ l.held + 1 ∧
      (l.quoting = .bare → Role.of c ≠ .letter → next.held ≤ l.held) := by
  obtain ⟨quoting, word⟩ := l
  cases quoting with
  | bare =>
      simp only [step] at h
      cases hrole : Role.of c <;> simp only [hrole] at h
      case expansion => cases h
      case blank => rcases word with _ | word <;> cases h; simp [held]
      case newline | operator => rcases word with _ | word <;> cases h
      case letter =>
        split at h
        · next hc => cases h; simp [held, hc.2]
        · cases h; simp [held, extended]
      all_goals cases h; simp [held, extended]
  | escaped =>
      cases h
      dsimp only
      split <;> simp [held, extended]
  | single =>
      simp only [step, Option.some.injEq, Prod.mk.injEq, true_and] at h
      subst h
      split <;> simp [held, extended]
  | double =>
      simp only [step] at h
      split at h <;> cases h <;> simp [held, extended]
  | doubleEscaped =>
      simp only [step] at h
      split at h <;> cases h <;> simp [held, extended]
      omega
  | comment => exact absurd rfl hl

theorem step_equals (hl : l.quoting ≠ .comment) (h : l.step '=' = some ([], next)) :
    ∃ lead, next.word = some (lead ++ ['=']) ∧ lead.length = l.held := by
  obtain ⟨quoting, word⟩ := l
  cases quoting with
  | comment => exact absurd rfl hl
  | doubleEscaped =>
      cases h
      exact ⟨word.getD [] ++ ['\\'], by simp [extended], by simp [held]⟩
  | bare | escaped | single | double =>
      cases h
      exact ⟨word.getD [], rfl, rfl⟩

/-- A word that comes first holds what the lexer has read of it. -/
theorem prefix_of_first {cs : List Char} (h : l.tokens? cs = some (.word text :: rest)) :
    l.word.getD [] <+: text.toList := by
  induction cs generalizing l with
  | nil =>
      obtain ⟨quoting, word⟩ := l
      cases quoting <;> try cases h
      rcases word with _ | word <;> cases h
      simp
  | cons c cs ih =>
      obtain hword | ⟨next, hstep, hnext⟩ := first_word h
      · simp [hword]
      · exact (silent_step (not_comment_of_first h) hstep).1.trans (ih hnext)

end Lexer

end SecretRefs.Shell

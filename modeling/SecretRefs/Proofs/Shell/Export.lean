import SecretRefs.Command.Format
import SecretRefs.Proofs.Command.Resolve
import SecretRefs.Proofs.Properties
import SecretRefs.Proofs.Shell.Quote

/-! Scripts that export variables. A value in quotes is read back whatever it holds. The name in front of it has no
quotes: it is read back if it is plain, and otherwise the script does not export these variables, for the shell runs
what stands in the name. So it is with the script of `resolve`, which exports the environment of a plan. -/

namespace SecretRefs.Shell

/-- The variable that a command exports, and its value. -/
def exported? : List String → Option (String × String)
  | ["export", word] =>
    (Properties.splitAtEquals word.toList).map fun (name, value) => (String.ofList name, String.ofList value)
  | _ => none

/-- The variables that a script exports, if it does nothing else. -/
def exports? (text : String) : Option (List (String × String)) :=
  (script? text).bind (List.mapM exported?)

/-! ### Names and values -/

/-- A text that a shell takes as it stands in front of an equals sign. -/
def IsPlain (name : List Char) : Prop := (∀ c ∈ name, Role.of c = .letter ∧ c ≠ '=') ∧ name.head? ≠ some '#'

instance (name : List Char) : Decidable (IsPlain name) :=
  have : Decidable (∀ c ∈ name, Role.of c = .letter ∧ c ≠ '=') := List.decidableBAll _ name
  inferInstanceAs (Decidable (_ ∧ _))

namespace Lexer

/-- A word that begins with a plain name and an equals sign. -/
theorem tokens?_plain {name : List Char} (hname : IsPlain name) (rest : List Char) :
    (Lexer.mk .bare none).tokens? (name ++ '=' :: rest) =
      (Lexer.mk .bare (some (name ++ ['=']))).tokens? rest := by
  rcases name with _ | ⟨c, cs⟩
  · exact tokens?_cons_of_silent (step_letter none rfl (by decide)) rest
  · obtain ⟨hletters, hstart⟩ := hname
    obtain ⟨hc, hcs⟩ := List.forall_mem_cons.1 hletters
    have hstep := step_letter none hc.1 fun _ heq => hstart (by rw [heq]; rfl)
    have hequals := step_letter (c := '=') (some (c :: cs)) rfl (by simp)
    rw [List.cons_append, tokens?_cons_of_silent hstep, Option.getD_none, List.nil_append,
      (passes_letters (fun c hc => (hcs c hc).1) [c]).tokens?, List.singleton_append, tokens?_cons_of_silent hequals,
      Option.getD_some]

/-- The word `export` in front of a text. -/
theorem tokens?_export (rest : List Char) :
    (Lexer.mk .bare none).tokens? ("export ".toList ++ rest) =
      ((Lexer.mk .bare none).tokens? rest).map (.word "export" :: ·) := by
  have hletters : ∀ c ∈ "xport".toList, Role.of c = .letter := by simp [Role.of]
  have hblank : (Lexer.mk .bare (some "export".toList)).step ' ' = some ([.word "export"], ⟨.bare, none⟩) := rfl
  have hfirst : (Lexer.mk .bare none).step 'e' = some ([], ⟨.bare, some ['e']⟩) := rfl
  change (Lexer.mk .bare none).tokens? ('e' :: ("xport".toList ++ ' ' :: rest)) = _
  rw [tokens?_cons_of_silent hfirst, (passes_letters hletters ['e']).tokens?]
  exact tokens?_cons hblank rest

theorem toList_exportLine (name value : String) :
    (Command.exportLine (name, value)).toList =
      "export ".toList ++ (name.toList ++ '=' :: (quote value).toList) := by
  rw [Command.exportLine, String.toList_append, String.toList_append, String.toList_append, List.append_assoc,
    List.append_assoc]
  rfl

/-- The command that exports a variable of a plain name. -/
theorem tokens?_exportLine {name : String} (hname : IsPlain name.toList) (value : String) (rest : List Char) :
    (Lexer.mk .bare none).tokens? ((Command.exportLine (name, value)).toList ++ '\n' :: rest) =
      ((Lexer.mk .bare none).tokens? rest).map
        ([.word "export", .word (name ++ "=" ++ value), .newline] ++ ·) := by
  have hend : (Lexer.mk .bare (some (name ++ "=" ++ value).toList)).step '\n' =
      some ([.word (name ++ "=" ++ value), .newline], ⟨.bare, none⟩) := by
    rw [← String.ofList_toList (s := name ++ "=" ++ value), String.toList_ofList]
    rfl
  have hword : name.toList ++ ['='] ++ value.toList = (name ++ "=" ++ value).toList := by
    rw [String.toList_append, String.toList_append]
    rfl
  rw [toList_exportLine, List.append_assoc, tokens?_export, List.append_assoc, List.cons_append, tokens?_plain hname,
    (passes_quote _ value).tokens?, Option.getD_some, hword, tokens?_cons hend, Option.map_map]
  rfl

section Export

variable {l next : Lexer} {c : Char} {text : String} {rest : List Token} {name tail before after : List Char}

theorem length_lt_of_ended (hword : l.word = some text.toList)
    (hsplit : Properties.splitAtEquals text.toList = some (before, after)) : before.length < l.held := by
  have hlt := Properties.length_lt_of_splitAtEquals hsplit
  rw [held, hword, Option.getD_some]
  omega

/-- Reading makes no name longer than it is in the script. -/
theorem length_le_of_first (h : l.tokens? (name ++ '=' :: tail) = some (.word text :: rest))
    (hsplit : Properties.splitAtEquals text.toList = some (before, after)) :
    before.length ≤ l.held + name.length := by
  have hl := not_comment_of_first h
  induction name generalizing l with
  | nil =>
      obtain hword | ⟨next, hstep, hnext⟩ := first_word h
      · exact Nat.le_of_lt (length_lt_of_ended hword hsplit)
      · obtain ⟨lead, hlead, hheld⟩ := step_equals hl hstep
        obtain ⟨more, hmore⟩ := prefix_of_first hnext
        rw [hlead, Option.getD_some, List.append_assoc] at hmore
        rw [← hmore] at hsplit
        exact hheld ▸ Properties.length_le_of_splitAtEquals hsplit
  | cons c name ih =>
      rw [List.length_cons]
      obtain hword | ⟨next, hstep, hnext⟩ := first_word h
      · exact Nat.le_add_right_of_le (Nat.le_of_lt (length_lt_of_ended hword hsplit))
      · have hheld := (silent_step hl hstep).2.1
        have hrest := ih hnext (not_comment_of_first hnext)
        omega

/-- A name that is read back is plain: all of its characters are needed, and none but letters are kept outside of
quotes. -/
theorem letters_of_first {word : Option (List Char)}
    (h : (Lexer.mk .bare word).tokens? (name ++ '=' :: tail) = some (.word text :: rest))
    (hsplit : Properties.splitAtEquals text.toList = some (word.getD [] ++ name, after)) :
    (∀ c ∈ name, Role.of c = .letter) ∧ (word = none → name.head? ≠ some '#') := by
  induction name generalizing word with
  | nil => exact ⟨by simp, by simp⟩
  | cons c name ih =>
      obtain hword | ⟨next, hstep, hnext⟩ := first_word h
      · have hlt := length_lt_of_ended hword hsplit
        rw [held_bare, List.length_append, List.length_cons] at hlt
        omega
      · -- the characters behind `c` are too few to make up for it
        have hlength := length_le_of_first hnext hsplit
        have hheld : ¬ next.held ≤ (word.getD []).length := by
          rw [List.length_append, List.length_cons] at hlength
          omega
        have hletter : Role.of c = .letter := Decidable.byContradiction fun hc =>
          hheld ((silent_step (not_comment_of_first h) hstep).2.2 rfl hc)
        have hstart : word = none → c ≠ '#' := by
          rintro rfl rfl
          cases hstep
          exact not_comment_of_first hnext rfl
        obtain rfl : _ = next := by
          have := (step_letter word hletter hstart).symm.trans hstep
          cases this
          rfl
        rw [List.append_cons] at hsplit
        obtain ⟨hletters, -⟩ := ih hnext hsplit
        exact ⟨List.forall_mem_cons.2 ⟨hletter, hletters⟩, fun hword => by simpa using hstart hword⟩

end Export

end Lexer

/-! ### Lines -/

section Lines

open Command (exportLine Outcome)

variable {words command : List String} {commands : List (List String)} {tokens : List Token} {name value : String}

theorem prefix_of_commands (hwords : words ≠ []) (h : commands? words tokens = some (command :: commands)) :
    words <+: command := by
  have hempty : words.isEmpty = false := by rwa [List.isEmpty_eq_false_iff]
  induction tokens generalizing words with
  | nil =>
      rw [commands?, hempty] at h
      cases h
      exact List.prefix_rfl
  | cons token tokens ih =>
      cases token with
      | word text => exact (List.prefix_append _ _).trans (ih (by simp) h (by simp))
      | newline =>
          rw [commands?, hempty] at h
          obtain ⟨_, -, hcommands⟩ := Option.map_eq_some_iff.1 h
          cases hcommands
          exact List.prefix_rfl
      | operator c =>
          rw [commands?] at h
          split at h
          · obtain ⟨_, -, hcommands⟩ := Option.map_eq_some_iff.1 h
            cases hcommands
            exact List.prefix_rfl
          · cases h

theorem exported?_eq_some (h : exported? command = some (name, value)) :
    ∃ word, command = ["export", word] ∧
      Properties.splitAtEquals word.toList = some (name.toList, value.toList) := by
  unfold exported? at h
  split at h
  · next word =>
    obtain ⟨⟨before, after⟩, hsplit, heq⟩ := Option.map_eq_some_iff.1 h
    cases heq
    exact ⟨word, rfl, by rw [hsplit, String.toList_ofList, String.toList_ofList]⟩
  · cases h

/-- The first word behind `export` is the one that the first command has there. -/
theorem first_exported {word : String} (h : commands? ["export"] tokens = some (["export", word] :: commands)) :
    ∃ more, tokens = .word word :: more := by
  rcases tokens with _ | ⟨token, tokens⟩
  · cases h
  · cases token with
    | word text =>
        have hprefix : ["export", text] <+: ["export", word] := prefix_of_commands (by simp) h
        obtain rfl : text = word := by simpa using hprefix
        exact ⟨tokens, rfl⟩
    | newline =>
        obtain ⟨_, -, hcommands⟩ := Option.map_eq_some_iff.1 h
        cases hcommands
    | operator c =>
        rw [commands?] at h
        split at h
        · obtain ⟨_, -, hcommands⟩ := Option.map_eq_some_iff.1 h
          cases hcommands
        · cases h

theorem exports?_cons (hname : IsPlain name.toList) (value : String) (lines : List String) :
    exports? (Outcome.textOf (exportLine (name, value) :: lines)) =
      (exports? (Outcome.textOf lines)).map ((name, value) :: ·) := by
  have hsplit : Properties.splitAtEquals (name ++ "=" ++ value).toList = some (name.toList, value.toList) := by
    rw [String.toList_append, String.toList_append, List.append_assoc]
    exact Properties.splitAtEquals_append (fun h => (hname.1 _ h).2 rfl) _
  have hexported : exported? ["export", name ++ "=" ++ value] = some (name, value) := by
    rw [exported?, hsplit, Option.map_some]
    exact congrArg some (Prod.ext String.ofList_toList String.ofList_toList)
  have hcommands (tokens : List Token) :
      commands? [] ([.word "export", .word (name ++ "=" ++ value), .newline] ++ tokens) =
        (commands? [] tokens).map (["export", name ++ "=" ++ value] :: ·) := rfl
  rw [exports?, script?, Command.toList_textOf_cons, Lexer.tokens?_exportLine hname, exports?, script?]
  rcases Lexer.tokens? {} (Outcome.textOf lines).toList with _ | tokens
  · rfl
  · rw [Option.map_some, Option.bind_some, Option.bind_some, hcommands]
    rcases commands? [] tokens with _ | commands
    · rfl
    · rw [Option.map_some, Option.bind_some, Option.bind_some, List.mapM_cons, hexported]
      cases commands.mapM exported? <;> rfl

/-- A variable that is read back from the first line has a plain name. -/
theorem isPlain_of_exports? {lines : List String} {entries : List (String × String)}
    (h : exports? (Outcome.textOf (exportLine (name, value) :: lines)) = some ((name, value) :: entries)) :
    IsPlain name.toList := by
  obtain ⟨commands, hscript, hexported⟩ := Option.bind_eq_some_iff.1 h
  obtain ⟨tokens, htokens, hcommands⟩ := Option.bind_eq_some_iff.1 hscript
  rcases commands with _ | ⟨command, commands⟩
  · cases hexported
  · rw [List.mapM_cons] at hexported
    obtain ⟨entry, hentry, hrest⟩ := Option.bind_eq_some_iff.1 hexported
    obtain ⟨_, -, hcons⟩ := Option.bind_eq_some_iff.1 hrest
    cases hcons
    obtain ⟨word, rfl, hsplit⟩ := exported?_eq_some hentry
    rw [Command.toList_textOf_cons, Lexer.toList_exportLine, List.append_assoc, Lexer.tokens?_export,
      List.append_assoc, List.cons_append] at htokens
    obtain ⟨tokens, hname, rfl⟩ := Option.map_eq_some_iff.1 htokens
    obtain ⟨more, rfl⟩ := first_exported hcommands
    obtain ⟨hletters, hstart⟩ := Lexer.letters_of_first hname hsplit
    have hequals := (Properties.splitAtEquals_eq_some_iff.1 hsplit).2
    exact ⟨fun c hc => ⟨hletters c hc, fun heq => hequals (heq ▸ hc)⟩, hstart rfl⟩

/-- The printed lines export the variables if all of their names are plain, and only then. -/
theorem exports?_exportLines_iff (entries : List (String × String)) :
    exports? (Outcome.textOf (entries.map exportLine)) = some entries ↔ ∀ e ∈ entries, IsPlain e.1.toList := by
  induction entries with
  | nil => exact ⟨by simp, fun _ => rfl⟩
  | cons e entries ih =>
      rw [List.forall_mem_cons, List.map_cons]
      constructor
      · intro h
        have hname := isPlain_of_exports? h
        rw [exports?_cons hname, Option.map_eq_some_iff] at h
        obtain ⟨_, hentries, hcons⟩ := h
        cases hcons
        exact ⟨hname, ih.1 hentries⟩
      · rintro ⟨hname, hentries⟩
        rw [exports?_cons hname, ih.2 hentries]
        rfl

end Lines

end SecretRefs.Shell

/-! ### The script of `resolve` -/

namespace SecretRefs.Command

open Shell (IsPlain exports? script?)

variable {files : Files} {override : Option String} {arguments : List String}

/-- What a shell exports by the script that such a run prints is the environment of the plan, each variable with its
value, if and only if all names are plain. -/
theorem ResolveRun.exports?_output_iff (r : ResolveRun files override arguments) (h : r.request.format = .env) :
    exports? (run files override arguments).output = some r.plan.environment.entries ↔
      ∀ e ∈ r.plan.environment.entries, IsPlain e.1.toList := by
  have hlines : r.lines = r.plan.environment.entries.map exportLine := by
    rw [ResolveRun.lines, h]
    rfl
  rw [r.output_eq, hlines, Shell.exports?_exportLines_iff]

/-- A value that is full of what a shell would act on comes out as it is. -/
theorem exports?_output_quoted :
    (ResolveRun.onTwoFiles "env.A=%vault:a%\nvaultref.set.env=true" "a=$(id) 'b' # \\ \";" .env).request.format = .env ∧
      exports? (outputOnTwoFiles "env.A=%vault:a%\nvaultref.set.env=true" "a=$(id) 'b' # \\ \";" .env) =
        some [("A", "$(id) 'b' # \\ \";")] := by
  let r := ResolveRun.onTwoFiles "env.A=%vault:a%\nvaultref.set.env=true" "a=$(id) 'b' # \\ \";" .env
  have hplan : r.plan.environment.entries = [("A", "$(id) 'b' # \\ \";")] := by decide +kernel
  have hexports := (r.exports?_output_iff rfl).2 (by rw [hplan]; decide)
  rw [hplan] at hexports
  exact ⟨rfl, hexports⟩

/-- A variable of the name `A;touch x`: the shell exports `A` without a value, and then runs `touch`. -/
theorem not_exports_semicolon :
    (ResolveRun.onTwoFiles "env.A;touch x=%vault:a%\nvaultref.set.env=true" "a=1" .env).plan.environment.entries =
        [("A;touch x", "1")] ∧
      exports? (outputOnTwoFiles "env.A;touch x=%vault:a%\nvaultref.set.env=true" "a=1" .env) ≠
        some [("A;touch x", "1")] ∧
      script? (outputOnTwoFiles "env.A;touch x=%vault:a%\nvaultref.set.env=true" "a=1" .env) =
        some [["export", "A"], ["touch", "x=1"]] := by
  decide +kernel

end SecretRefs.Command

import Mathlib.Tactic.SplitIfs
import SecretRefs.Command.Arguments

/-! The core of an invocation: all but how much is said, and where that is asked for, all but what counts as a failure.
Readings that have their core in common keep it in common as they go on, so a word that leaves the core alone leaves it
alone wherever it stands. -/

namespace SecretRefs.Command

variable {policy : Bool}

theorem exists_of_bind {ε α β : Type} {x : Except ε α} {next : α → Except ε β} {b : β} (h : x >>= next = .ok b) :
    ∃ a, x = .ok a ∧ next a = .ok b := by
  cases x with
  | error e => cases h
  | ok a => exact ⟨a, rfl, h⟩

/-- A task with its say on leftover references, or without it. -/
def Task.core (policy : Bool) : Task → Task
  | .resolve request => .resolve { request with strict := policy && request.strict }
  | task => task

@[simp] theorem Task.core_true (task : Task) : task.core true = task := by cases task <;> rfl

namespace Selection

/-- What was set besides the verbosity, with the say on leftover references or without it. -/
def core (policy : Bool) (s : Selection) : Selection :=
  { s with detail := 0, quiet := false, strict := policy && s.strict }

theorem task?_core (s : Selection) (verb : Verb) :
    (s.core policy).task? verb = (s.task? verb).map (Task.core policy) := by
  rcases s with ⟨_, _, _, _, _ | _, _, _, _, _ | _⟩ <;> cases verb <;> rfl

theorem core_eq_of_set? {s s' next next' : Selection} {value : String} {switch : Switch}
    (hcore : s.core policy = s'.core policy) (h : s.set? value switch = some next)
    (h' : s'.set? value switch = some next') : next.core policy = next'.core policy := by
  simp only [core, mk.injEq] at hcore ⊢
  cases switch with
  | format => cases hformat : OutputFormat.ofName? value <;> grind [set?]
  | _ => grind [set?]

end Selection

namespace Reading

theorem exists_of_choose {r next : Reading} {switch : Switch} {value : String}
    (h : r.choose switch value = .ok next) :
    ∃ inner, r.inner.set? value switch = some inner ∧ next = { r with inner, pending := none } := by
  unfold choose at h
  split at h
  · cases h
  · cases h
  · split at h
    · next inner hinner =>
      cases h
      exact ⟨inner, hinner, rfl⟩
    · cases h

/-- The letter of a switch without a value leaves the other letters to be read. -/
theorem letters_cons {r : Reading} {c : Char} {switch : Switch}
    (hswitch : (r.known.find? fun switch => switch.letter? == some c) = some switch)
    (hvalue : switch.takesValue = false) (rest : List Char) :
    letters (c :: rest) r = r.choose switch "" >>= letters rest := by
  simp only [letters, hswitch, hvalue, Bool.false_eq_true, if_false]
  cases r.choose switch "" <;> rfl

/-- What an invocation is made of. -/
theorem of_invocation {r : Reading} {i : Invocation} (h : r.invocation = .ok i) :
    r.helpOn = none ∧ r.verb.bind r.inner.task? = some i.task ∧ i.config = r.inner.config.or r.outer.config := by
  unfold invocation at h
  split at h
  · cases h
  · next hhelp =>
    split at h
    · next task _ htask =>
      cases h
      exact ⟨Option.not_isSome_iff_eq_none.1 hhelp, htask, rfl⟩
    · cases h

/-- Two readings that are at one point and have their core in common. -/
structure Alike (policy : Bool) (r r' : Reading) : Prop where
  verb : r.verb = r'.verb
  outer : r.outer.core policy = r'.outer.core policy
  inner : r.inner.core policy = r'.inner.core policy
  pending : r.pending = r'.pending
  literal : r.literal = r'.literal
  helpOn : r.helpOn = r'.helpOn

/-- What two readings come to is alike, if they come to something. -/
def Together (policy : Bool) (x x' : Except Refusal Reading) : Prop :=
  ∀ next next', x = .ok next → x' = .ok next' → next.Alike policy next'

namespace Together

theorem error_left (refusal : Refusal) (x' : Except Refusal Reading) : Together policy (.error refusal) x' := by
  intro next next' hnext
  cases hnext

theorem error_right (x : Except Refusal Reading) (refusal : Refusal) : Together policy x (.error refusal) := by
  intro next next' _ hnext'
  cases hnext'

theorem ok {r r' : Reading} (h : r.Alike policy r') : Together policy (.ok r) (.ok r') := by
  intro next next' hnext hnext'
  cases hnext
  cases hnext'
  exact h

theorem bind {x x' : Except Refusal Reading} {next next' : Reading → Except Refusal Reading}
    (h : Together policy x x') (hnext : ∀ r r', r.Alike policy r' → Together policy (next r) (next' r')) :
    Together policy (x >>= next) (x' >>= next') := by
  cases x with
  | error refusal => exact error_left refusal _
  | ok r =>
      cases x' with
      | error refusal => exact error_right _ refusal
      | ok r' => exact hnext r r' (h r r' rfl rfl)

end Together

namespace Alike

variable {r r' r'' : Reading}

theorem trans (h : r.Alike policy r') (h' : r'.Alike policy r'') : r.Alike policy r'' where
  verb := h.verb.trans h'.verb
  outer := h.outer.trans h'.outer
  inner := h.inner.trans h'.inner
  pending := h.pending.trans h'.pending
  literal := h.literal.trans h'.literal
  helpOn := h.helpOn.trans h'.helpOn

theorem known (h : r.Alike policy r') : r.known = r'.known := by rw [Reading.known, Reading.known, h.verb]

theorem operand_inner (h : r.Alike policy r') : r.inner.operand = r'.inner.operand :=
  (congrArg Selection.operand h.inner :)

/-- Setting the same in the readings keeps them alike. -/
theorem choose (h : r.Alike policy r') (switch : Switch) (value : String) :
    Together policy (r.choose switch value) (r'.choose switch value) := by
  intro next next' hnext hnext'
  obtain ⟨inner, hinner, rfl⟩ := exists_of_choose hnext
  obtain ⟨inner', hinner', rfl⟩ := exists_of_choose hnext'
  exact { h with inner := Selection.core_eq_of_set? h.inner hinner hinner', pending := rfl }

theorem letters (h : r.Alike policy r') (cs : List Char) :
    Together policy (Reading.letters cs r) (Reading.letters cs r') := by
  induction cs generalizing r r' with
  | nil => exact .ok h
  | cons c rest ih =>
      cases hswitch : r.known.find? fun switch => switch.letter? == some c with
      | none =>
          rw [Reading.letters, hswitch]
          exact .error_left _ _
      | some switch =>
          have hswitch' := hswitch
          rw [h.known] at hswitch'
          cases hvalue : switch.takesValue with
          | true =>
              simp only [Reading.letters, hswitch, hswitch', hvalue, if_true]
              split
              · exact .ok { h with pending := rfl }
              · exact h.choose switch _
              · exact h.choose switch _
          | false =>
              rw [letters_cons hswitch hvalue, letters_cons hswitch' hvalue]
              exact (h.choose switch "").bind fun _ _ => ih

theorem long (h : r.Alike policy r') (cs : List Char) : Together policy (r.long cs) (r'.long cs) := by
  unfold Reading.long
  rw [← h.known]
  dsimp only
  split
  · exact .error_left _ _
  · next switch _ =>
    split
    · exact .ok { h with pending := rfl }
    · exact h.choose switch _
    · exact h.choose switch _
    · exact .error_left _ _

theorem operand (h : r.Alike policy r') (text : String) : Together policy (r.operand text) (r'.operand text) := by
  unfold Reading.operand
  rw [← h.verb, ← h.literal, ← h.operand_inner]
  cases r.verb with
  | none =>
      dsimp only
      split_ifs
      · exact .error_left _ _
      · exact .ok { h with verb := rfl, literal := rfl, helpOn := rfl }
      · cases Verb.ofName? text with
        | none => exact .error_left _ _
        | some verb => exact .ok { h with verb := rfl, outer := h.inner, inner := rfl, literal := rfl }
  | some verb =>
      dsimp only
      split_ifs
      · have hinner := congrArg (fun s : Selection => { s with operand := some text }) h.inner
        exact .ok { h with verb := rfl, inner := hinner, literal := rfl }
      · exact .error_left _ _

theorem helpName (h : r.Alike policy r') (names : List String) (text : String) :
    Together policy (r.helpName names text) (r'.helpName names text) := by
  unfold Reading.helpName
  split_ifs
  · exact .ok { h with helpOn := rfl }
  · exact .error_left _ _

/-- Reading one and the same argument keeps readings alike. -/
theorem argument (h : r.Alike policy r') (text : String) :
    Together policy (r.argument text) (r'.argument text) := by
  unfold Reading.argument
  rw [← h.helpOn, ← h.literal, ← h.pending]
  split
  · next names _ => exact h.helpName names text
  · split_ifs
    · exact h.operand text
    · split
      · exact .error_left _ _
      · next switch _ _ => exact h.choose switch text
      · exact .ok { h with pending := rfl, literal := rfl, helpOn := rfl }
      · exact h.long _
      · exact h.letters _
      · exact h.operand text

theorem foldlM (h : r.Alike policy r') (arguments : List String) :
    Together policy (arguments.foldlM Reading.argument r) (arguments.foldlM Reading.argument r') := by
  induction arguments generalizing r r' with
  | nil => exact .ok h
  | cons text arguments ih =>
      rw [List.foldlM_cons, List.foldlM_cons]
      exact (h.argument text).bind fun _ _ => ih

theorem map_task? (h : r.Alike policy r') :
    (r.verb.bind r.inner.task?).map (Task.core policy) = (r'.verb.bind r'.inner.task?).map (Task.core policy) := by
  rw [Option.map_bind, Option.map_bind, h.verb]
  congr 1
  funext verb
  rw [Function.comp_apply, Function.comp_apply, ← Selection.task?_core, ← Selection.task?_core, h.inner]

/-- Alike readings that make invocations make them alike. -/
theorem invocation {i i' : Invocation} (h : r.Alike policy r') (hi : r.invocation = .ok i)
    (hi' : r'.invocation = .ok i') : i.task.core policy = i'.task.core policy ∧ i.config = i'.config := by
  obtain ⟨-, htask, hconfig⟩ := of_invocation hi
  obtain ⟨-, htask', hconfig'⟩ := of_invocation hi'
  have hcore := h.map_task?
  rw [htask, htask'] at hcore
  have hinner : r.inner.config = r'.inner.config := (congrArg Selection.config h.inner :)
  have houter : r.outer.config = r'.outer.config := (congrArg Selection.config h.outer :)
  exact ⟨Option.some.inj hcore, by rw [hconfig, hconfig', hinner, houter]⟩

end Alike

/-! ### Words that leave the core alone -/

section Insert

variable {r next last : Reading} {word : String} {arguments : List String}

/-- Nothing leads back from the word `help`. -/
theorem isSome_helpOn_of_foldlM (hhelp : r.helpOn.isSome) (h : arguments.foldlM argument r = .ok last) :
    last.helpOn.isSome := by
  induction arguments generalizing r with
  | nil =>
      cases h
      exact hhelp
  | cons text arguments ih =>
      obtain ⟨names, hnames⟩ := Option.isSome_iff_exists.1 hhelp
      rw [List.foldlM_cons] at h
      obtain ⟨next, hnext, hlast⟩ := exists_of_bind h
      refine ih ?_ hlast
      rw [argument, hnames] at hnext
      dsimp only at hnext
      unfold helpName at hnext
      split at hnext
      · cases hnext
        rfl
      · cases hnext

theorem argument_of_literal (hhelp : r.helpOn = none) (hliteral : r.literal = true) (word : String) :
    r.argument word = r.operand word := by
  simp only [argument, hhelp, hliteral, if_true]

/-- There is no second operand. -/
theorem argument_of_full {verb : Verb} (hhelp : r.helpOn = none) (hliteral : r.literal = true)
    (hverb : r.verb = some verb) (hfull : r.inner.operand = some word) (text : String) :
    r.argument text = .error .misuse := by
  rw [argument_of_literal hhelp hliteral, operand, hverb, hfull]
  rfl

/-- A word where there are no switches any more is the operand, and the last of the arguments. -/
theorem of_argument_literal (hhelp : r.helpOn = none) (hliteral : r.literal = true)
    (hnext : r.argument word = .ok next) (h : arguments.foldlM argument next = .ok last) :
    arguments = [] ∧ r.verb.bind r.inner.task? = none := by
  rw [argument_of_literal hhelp hliteral, operand] at hnext
  cases hverb : r.verb with
  | none => simp only [hverb, hliteral, if_true, reduceCtorEq] at hnext
  | some verb =>
      simp only [hverb] at hnext
      split at hnext
      · next hfree =>
        obtain ⟨hnone, haccepts⟩ := Bool.and_eq_true_iff.1 hfree
        rw [Option.isNone_iff_eq_none] at hnone
        have hsame := Except.ok.inj hnext
        constructor
        · cases arguments with
          | nil => rfl
          | cons text arguments =>
              rw [List.foldlM_cons] at h
              obtain ⟨second, hsecond, -⟩ := exists_of_bind h
              rw [argument_of_full (by rw [← hsame, hhelp]) (by rw [← hsame, hliteral]) (by rw [← hsame])
                (by rw [← hsame])] at hsecond
              cases hsecond
        · rw [Option.bind_some]
          cases verb with
          | version => cases haccepts
          | _ => simp only [Selection.task?, hnone, Option.map_none]
      · cases hnext

end Insert
end Reading

/-- A word that can be read as a switch alone, and sets nothing of the core. -/
structure Neutral (policy : Bool) (word : String) : Prop where
  dash : ∃ c cs, word.toList = '-' :: c :: cs
  alike {r next : Reading} : r.helpOn = none → r.literal = false → r.pending = none → r.argument word = .ok next →
    r.Alike policy next

/-- A list of arguments with words put into it, anywhere. -/
inductive Padded (words : String → Prop) : List String → List String → Prop
  | nil : Padded words [] []
  | keep {text : String} {arguments padded : List String} : Padded words arguments padded →
      Padded words (text :: arguments) (text :: padded)
  | pad {word : String} {arguments padded : List String} : words word → Padded words arguments padded →
      Padded words arguments (word :: padded)

namespace Padded

variable {words : String → Prop} {arguments padded : List String} {i i' : Invocation}

theorem core_eq_of_foldlM (hwords : ∀ {word}, words word → Neutral policy word) (h : Padded words arguments padded)
    {r r' last last' : Reading} (halike : r.Alike policy r') (hlast : arguments.foldlM Reading.argument r = .ok last)
    (hlast' : padded.foldlM Reading.argument r' = .ok last') (hi : last.invocation = .ok i)
    (hi' : last'.invocation = .ok i') : i.task.core policy = i'.task.core policy ∧ i.config = i'.config := by
  induction h generalizing r r' with
  | nil =>
      cases hlast
      cases hlast'
      exact halike.invocation hi hi'
  | keep _ ih =>
      rw [List.foldlM_cons] at hlast hlast'
      obtain ⟨next, hnext, hlast⟩ := exists_of_bind hlast
      obtain ⟨next', hnext', hlast'⟩ := exists_of_bind hlast'
      exact ih (halike.argument _ next next' hnext hnext') hlast hlast'
  | pad hword hpadded ih =>
      cases hhelp : r'.helpOn with
      | some names =>
          have hsome := Reading.isSome_helpOn_of_foldlM (by rw [hhelp]; rfl) hlast'
          rw [(Reading.of_invocation hi').1] at hsome
          cases hsome
      | none =>
          rw [List.foldlM_cons] at hlast'
          obtain ⟨next', hnext', hlast'⟩ := exists_of_bind hlast'
          cases hliteral : r'.literal with
          | true =>
              -- the word would be the operand, which is then missing from the other arguments
              obtain ⟨rfl, hnone⟩ := Reading.of_argument_literal hhelp hliteral hnext' hlast'
              cases hpadded
              cases hlast
              have hcore := halike.map_task?
              rw [(Reading.of_invocation hi).2.1, hnone] at hcore
              cases hcore
          | false =>
              cases hpending : r'.pending with
              | some switch =>
                  obtain ⟨c, cs, hdash⟩ := (hwords hword).dash
                  simp only [Reading.argument, hhelp, hliteral, hpending, hdash] at hnext'
                  cases hnext'
              | none =>
                  have hsame := (hwords hword).alike hhelp hliteral hpending hnext'
                  exact ih (halike.trans hsame) hlast hlast'

/-- Wherever such words stand, the invocation has the core that it has without them. -/
theorem core_eq (hwords : ∀ {word}, words word → Neutral policy word) (h : Padded words arguments padded)
    (hi : Invocation.ofArguments arguments = .ok i) (hi' : Invocation.ofArguments padded = .ok i') :
    i.task.core policy = i'.task.core policy ∧ i.config = i'.config := by
  obtain ⟨last, hlast, hi⟩ := exists_of_bind hi
  obtain ⟨last', hlast', hi'⟩ := exists_of_bind hi'
  exact h.core_eq_of_foldlM hwords ⟨rfl, rfl, rfl, rfl, rfl, rfl⟩ hlast hlast' hi hi'

end Padded

/-! ### The words for verbosity and strictness -/

/-- The switches that set nothing of the core. -/
def Switch.Aside (policy : Bool) (switch : Switch) : Prop :=
  switch = .verbose ∨ switch = .quiet ∨ switch = .strict ∧ policy = false

theorem Switch.Aside.takesValue {switch : Switch} (h : switch.Aside policy) : switch.takesValue = false := by
  rcases h with rfl | rfl | ⟨rfl, -⟩ <;> rfl

theorem Switch.name_injective : Function.Injective Switch.name := by
  intro switch switch'
  cases switch <;> cases switch' <;> decide

theorem Selection.core_of_set? {s next : Selection} {value : String} {switch : Switch}
    (hswitch : switch.Aside policy) (h : s.set? value switch = some next) : next.core policy = s.core policy := by
  rcases hswitch with rfl | rfl | ⟨rfl, rfl⟩ <;> grind [set?, core]

namespace Reading

variable {r next : Reading}

theorem alike_of_choose {switch : Switch} {value : String} (hswitch : switch.Aside policy)
    (hpending : r.pending = none) (h : r.choose switch value = .ok next) : r.Alike policy next := by
  obtain ⟨inner, hinner, rfl⟩ := exists_of_choose h
  exact ⟨rfl, rfl, (Selection.core_of_set? hswitch hinner).symm, hpending, rfl, rfl⟩

theorem alike_of_long {switch : Switch} (hswitch : switch.Aside policy) (hpending : r.pending = none)
    (h : r.long switch.name.toList = .ok next) : r.Alike policy next := by
  have hname : switch.name.toList.takeWhile (· ≠ '=') = switch.name.toList := by cases switch <;> decide
  rw [long, hname] at h
  split at h
  · cases h
  · next other hother =>
    obtain rfl : other = switch :=
      Switch.name_injective (String.toList_injective (by simpa using List.find?_some hother))
    rw [hswitch.takesValue, List.drop_length] at h
    exact alike_of_choose hswitch hpending h

theorem alike_of_letters {cs : List Char} (hcs : ∀ c ∈ cs, c = 'v' ∨ c = 'q') (hpending : r.pending = none)
    (h : letters cs r = .ok next) : r.Alike policy next := by
  induction cs generalizing r with
  | nil =>
      cases h
      exact ⟨rfl, rfl, rfl, rfl, rfl, rfl⟩
  | cons c cs ih =>
      obtain ⟨hc, hcs⟩ := List.forall_mem_cons.1 hcs
      obtain ⟨switch, hswitch, hcommon⟩ : ∃ switch : Switch, switch.Aside policy ∧
          Switch.common.find? (fun switch => switch.letter? == some c) = some switch := by
        rcases hc with rfl | rfl
        · exact ⟨.verbose, .inl rfl, by decide⟩
        · exact ⟨.quiet, .inr (.inl rfl), by decide⟩
      have hknown : (r.known.find? fun switch => switch.letter? == some c) = some switch := by
        rw [known, List.find?_append, hcommon, Option.some_or]
      rw [letters_cons hknown hswitch.takesValue] at h
      obtain ⟨first, hfirst, hrest⟩ := exists_of_bind h
      have halike := alike_of_choose hswitch hpending hfirst
      exact halike.trans (ih hcs (halike.pending.symm.trans hpending) hrest)

end Reading

namespace Neutral

theorem of_long {word : String} {switch : Switch} (hswitch : switch.Aside policy)
    (hword : word.toList = '-' :: '-' :: switch.name.toList) : Neutral policy word where
  dash := ⟨_, _, hword⟩
  alike {r next} hhelp hliteral hpending hnext := by
    have hlong : r.argument word = r.long switch.name.toList := by
      simp only [Reading.argument, hhelp, hliteral, hpending, hword]
      cases switch <;> rfl
    exact Reading.alike_of_long hswitch hpending (hlong.symm.trans hnext)

theorem verbose : Neutral policy "--verbose" := of_long (.inl rfl) rfl

theorem quiet : Neutral policy "--quiet" := of_long (.inr (.inl rfl)) rfl

theorem strict : Neutral false "--strict" := of_long (.inr (.inr ⟨rfl, rfl⟩)) rfl

/-- The letters for verbosity, run together. -/
theorem of_letters {word : String} {c : Char} {cs : List Char} (hcs : ∀ d ∈ c :: cs, d = 'v' ∨ d = 'q')
    (hword : word.toList = '-' :: c :: cs) : Neutral policy word where
  dash := ⟨c, cs, hword⟩
  alike {r next} hhelp hliteral hpending hnext := by
    have hc : c ≠ '-' := by rcases (List.forall_mem_cons.1 hcs).1 with rfl | rfl <;> decide
    have hletters : r.argument word = Reading.letters (c :: cs) r := by
      simp [Reading.argument, hhelp, hliteral, hpending, hword, hc]
    exact Reading.alike_of_letters hcs hpending (hletters.symm.trans hnext)

end Neutral

/-- The words on a command line that are about verbosity. -/
inductive VerbosityWord : String → Prop
  | verbose : VerbosityWord "--verbose"
  | quiet : VerbosityWord "--quiet"
  | letters {c : Char} {cs : List Char} : (∀ d ∈ c :: cs, d = 'v' ∨ d = 'q') →
      VerbosityWord (String.ofList ('-' :: c :: cs))

theorem VerbosityWord.neutral {word : String} (h : VerbosityWord word) : Neutral policy word := by
  cases h with
  | verbose => exact .verbose
  | quiet => exact .quiet
  | letters hcs => exact .of_letters hcs String.toList_ofList

end SecretRefs.Command

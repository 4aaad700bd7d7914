import SecretRefs.Command.Transcript

/-! Commands run on a transcript. Each kind of work appends to it and hands on its value. -/

namespace SecretRefs.Command

variable {α β : Type}

theorem run_bind_ok {work : CommandM α} {a : α} {items items' : List Item}
    (h : work.run.run items = (.ok a, items')) (next : α → CommandM β) :
    (work >>= next).run.run items = (next a).run.run items' := by
  rw [ExceptT.run_bind, StateT.run_bind, h]
  rfl

theorem run_bind_error {work : CommandM α} {failure : Failure} {items items' : List Item}
    (h : work.run.run items = (.error failure, items')) (next : α → CommandM β) :
    (work >>= next).run.run items = (.error failure, items') := by
  rw [ExceptT.run_bind, StateT.run_bind, h]
  rfl

theorem run_write (added items : List Item) : (write added).run.run items = (.ok (), items ++ added) := rfl

theorem run_attend (work : Logged α) (items : List Item) :
    (attend work).run.run items = (.ok work.value, items ++ work.events.map .record) := rfl

theorem run_attempt_ok {work : Logged (Except Error α)} {a : α} (h : work.value = .ok a) (context : String)
    (items : List Item) :
    (attempt context work).run.run items = (.ok a, items ++ work.events.map .record) := by
  rw [attempt, run_bind_ok (run_attend work items), h]
  rfl

theorem exitCode_ofCommand (verbosity : Verbosity) (work : CommandM Unit) :
    (Outcome.ofCommand verbosity work).exitCode = if (work.run.run []).1.isOk then 0 else 1 := by
  rw [Outcome.ofCommand]
  rcases work.run.run [] with ⟨_ | ⟨⟩, items⟩ <;> rfl

/-! ### Standard output -/

/-- The lines of standard output in a transcript. -/
def results (items : List Item) : List String := items.filterMap Item.result?

theorem results_append (items items' : List Item) : results (items ++ items') = results items ++ results items' :=
  List.filterMap_append

theorem results_map_result (lines : List String) : results (lines.map .result) = lines := by
  rw [results, List.filterMap_map]
  exact List.filterMap_some

/-- Items that are all of a kind that is not seen. -/
theorem filterMap_map_of_none {sees : Item → Option String} (entry : α → Item) (h : ∀ a, sees (entry a) = none)
    (as : List α) : (as.map entry).filterMap sees = [] := by
  rw [List.filterMap_map, List.filterMap_eq_nil_iff]
  exact fun a _ => h a

theorem results_map_of_none (entry : α → Item) (h : ∀ a, (entry a).result? = none) (as : List α) :
    results (as.map entry) = [] := filterMap_map_of_none entry h as

theorem results_records (events : List Event) : results (events.map .record) = [] :=
  results_map_of_none _ (fun _ => rfl) events

/-- No verbosity hides a result. -/
theorem results_filter_shows (verbosity : Verbosity) (items : List Item) :
    results (items.filter verbosity.shows) = results items := by
  rw [results, List.filterMap_filter, results]
  congr 1
  funext item
  cases item <;> first | rfl | exact ite_self _

/-- Two ways to go on that print the same do so after any work. -/
theorem results_bind_congr {next next' : α → CommandM β}
    (h : ∀ a items, results ((next a).run.run items).2 = results ((next' a).run.run items).2) (work : CommandM α)
    (items : List Item) : results ((work >>= next).run.run items).2 = results ((work >>= next').run.run items).2 := by
  rcases hwork : work.run.run items with ⟨failure | a, items'⟩
  · rw [run_bind_error hwork, run_bind_error hwork]
  · rw [run_bind_ok hwork, run_bind_ok hwork, h]

theorem toList_textOf_cons (line : String) (lines : List String) :
    (Outcome.textOf (line :: lines)).toList = line.toList ++ '\n' :: (Outcome.textOf lines).toList := by
  simp only [Outcome.textOf, List.map_cons, String.join_cons, String.toList_append, List.append_assoc]
  rfl

/-- A reader who breaks at newlines, and nowhere in a line, reads the lines; behind the last one there is nothing. -/
theorem splitOnP_textOf {breaks : Char → Bool} (hnewline : breaks '\n' = true) {lines : List String}
    (h : ∀ line ∈ lines, ∀ c ∈ line.toList, breaks c = false) :
    (Outcome.textOf lines).toList.splitOnP breaks = lines.map String.toList ++ [[]] := by
  induction lines with
  | nil => rfl
  | cons line lines ih =>
      obtain ⟨hline, hlines⟩ := List.forall_mem_cons.1 h
      rw [toList_textOf_cons, List.splitOnP_append_cons_of_forall_mem hline _ hnewline, ih hlines, List.map_cons,
        List.cons_append]

theorem textOf_singleton_inj {line line' : String} (h : Outcome.textOf [line] = Outcome.textOf [line']) :
    line = line' := by
  rw [← String.toList_inj, toList_textOf_cons, toList_textOf_cons] at h
  exact String.toList_inj.1 (List.append_cancel_right h)

theorem output_ofCommand (verbosity : Verbosity) (work : CommandM Unit) :
    (Outcome.ofCommand verbosity work).output = Outcome.textOf (results (work.run.run []).2) := by
  rw [← results_filter_shows verbosity, Outcome.ofCommand]
  rcases work.run.run [] with ⟨_ | ⟨⟩, items⟩ <;> rfl

/-! ### Standard error under quietness -/

/-- The notices on standard error, without the log records. -/
def notices (diagnostics : List Diagnostic) : List String :=
  diagnostics.filterMap fun
    | .notice text => some text
    | .record _ => none

/-- The line on standard error for a warning. -/
def Item.warning? : Item → Option String
  | warning text => some ("⚠ " ++ text)
  | _ => none

/-- The lines on standard error for the warnings in a transcript. -/
def warnings (items : List Item) : List String := items.filterMap Item.warning?

theorem warnings_append (items items' : List Item) : warnings (items ++ items') = warnings items ++ warnings items' :=
  List.filterMap_append

theorem warnings_map_of_none (entry : α → Item) (h : ∀ a, (entry a).warning? = none) (as : List α) :
    warnings (as.map entry) = [] := filterMap_map_of_none entry h as

/-- The failure that work ends with. -/
def failure? (work : CommandM Unit) : Option Failure :=
  match (work.run.run []).1 with
  | .ok () => none
  | .error failure => some failure

theorem exitCode_ofCommand_eq_zero_iff (verbosity : Verbosity) (work : CommandM Unit) :
    (Outcome.ofCommand verbosity work).exitCode = 0 ↔ failure? work = none := by
  rw [Outcome.ofCommand, failure?]
  rcases work.run.run [] with ⟨failure | ⟨⟩, items⟩
  · exact ⟨nofun, nofun⟩
  · exact ⟨fun _ => rfl, fun _ => rfl⟩

/-- What is shown of a transcript comes to standard error, however the work ends. -/
theorem mem_diagnostics_ofCommand {verbosity : Verbosity} {work : CommandM Unit} {item : Item} {diagnostic : Diagnostic}
    (hitem : item ∈ (work.run.run []).2) (hshown : verbosity.shows item = true)
    (hdiagnostic : item.diagnostic? = some diagnostic) :
    diagnostic ∈ (Outcome.ofCommand verbosity work).diagnostics := by
  have hmem : diagnostic ∈ ((work.run.run []).2.filter verbosity.shows).filterMap Item.diagnostic? :=
    List.mem_filterMap.2 ⟨item, List.mem_filter.2 ⟨hitem, hshown⟩, hdiagnostic⟩
  rw [Outcome.ofCommand]
  rcases hrun : work.run.run [] with ⟨failure | ⟨⟩, items⟩ <;> rw [hrun] at hmem
  · exact List.mem_append_left _ hmem
  · exact hmem

/-- Quietness leaves the warnings and the message about the failure. -/
theorem notices_ofCommand {verbosity : Verbosity} (h : verbosity.quiet = true) (work : CommandM Unit) :
    notices (Outcome.ofCommand verbosity work).diagnostics =
      warnings (work.run.run []).2 ++ (failure? work).toList.map Failure.text := by
  have hshown (items : List Item) :
      notices ((items.filter verbosity.shows).filterMap Item.diagnostic?) = warnings items := by
    rw [notices, List.filterMap_filterMap, List.filterMap_filter, warnings]
    congr 1
    funext item
    cases item <;> simp [Verbosity.shows, h, Item.diagnostic?, Item.warning?]
  rw [Outcome.ofCommand, failure?]
  rcases work.run.run [] with ⟨failure | ⟨⟩, items⟩
  · dsimp only
    rw [notices, List.filterMap_append]
    exact congrArg (· ++ [failure.text]) (hshown items)
  · exact (hshown items).trans (List.append_nil _).symm

/-- Work that does not warn of anything. -/
def Unwarned (work : CommandM α) : Prop := ∀ items, warnings (work.run.run items).2 = warnings items

/-- A value that work may end with. -/
def Yields (work : CommandM α) (a : α) : Prop := ∃ items items', work.run.run items = (.ok a, items')

theorem Yields.of_bind {work : CommandM α} {next : α → CommandM β} {b : β} (h : Yields (work >>= next) b) :
    ∃ a, Yields work a ∧ Yields (next a) b := by
  obtain ⟨items, items', hrun⟩ := h
  rcases hwork : work.run.run items with ⟨failure | a, middle⟩
  · rw [run_bind_error hwork] at hrun
    cases hrun
  · rw [run_bind_ok hwork] at hrun
    exact ⟨a, ⟨items, middle, hwork⟩, middle, items', hrun⟩

theorem Yields.of_attempt {context : String} {work : Logged (Except Error α)} {a : α}
    (h : Yields (attempt context work) a) : work.value = .ok a := by
  obtain ⟨items, items', hrun⟩ := h
  rw [attempt, run_bind_ok (run_attend work items)] at hrun
  cases hvalue : work.value with
  | error error =>
      rw [hvalue] at hrun
      cases hrun
  | ok value =>
      rw [hvalue] at hrun
      cases hrun
      rfl

namespace Unwarned

theorem bind {work : CommandM α} {next : α → CommandM β} (h : Unwarned work)
    (hnext : ∀ a, Yields work a → Unwarned (next a)) : Unwarned (work >>= next) := by
  intro items
  have hwarnings := h items
  rcases hwork : work.run.run items with ⟨failure | a, items'⟩
  · rw [run_bind_error hwork, ← hwarnings, hwork]
  · rw [run_bind_ok hwork, hnext a ⟨items, items', hwork⟩, ← hwarnings, hwork]

theorem pure (a : α) : Unwarned (Pure.pure a : CommandM α) := fun _ => rfl

theorem write {added : List Item} (h : warnings added = []) : Unwarned (write added) := by
  intro items
  rw [run_write, warnings_append, h, List.append_nil]

theorem attend (work : Logged α) : Unwarned (attend work) :=
  (Unwarned.write (warnings_map_of_none _ (fun _ => rfl) _)).bind fun _ _ => Unwarned.pure _

theorem attempt (context : String) (work : Logged (Except Error α)) : Unwarned (attempt context work) := by
  refine (Unwarned.attend work).bind fun value _ => ?_
  cases value with
  | ok value => exact Unwarned.pure value
  | error error => exact fun _ => rfl

end Unwarned

end SecretRefs.Command

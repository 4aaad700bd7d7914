import SecretRefs.Session
import SecretRefs.Proofs.Pass.Outcome

/-! Passes one after the other. Between two passes the updates of the first are written into the parameters, as
a session does it. If the secrets of the first hold no percent sign, the final text of a value asks the second
for just the keys that the first had no secret for, so both together do what a single pass with the secrets of
both would do; repeated, a pass does nothing more. -/

namespace SecretRefs

variable {ns : Namespace} {first second : Secrets}

/-! ### One value -/

/-- With the secrets of both at hand, a key gets the text that the first has for it. -/
theorem answer?_overriddenBy (ns : Namespace) (first second : Secrets) (key : String) :
    answer? ns (second.overriddenBy first) key = (answer? ns first key).or (answer? ns second key) := by
  rw [answer?, answer?, answer?]
  cases ns.strip key with
  | none => rfl
  | some name =>
      simp only [Option.bind_some, Secrets.lookup?]
      rw [Dict.get?_overriddenBy, Option.map_or]

section PercentFree

variable (hfree : first.PercentFree)
include hfree

theorem finalText_finalText (value : String) :
    (resolve ns second ((resolve ns first value).finalText value)).finalText
        ((resolve ns first value).finalText value) =
      (resolve ns (second.overriddenBy first) value).finalText value := by
  have hanswers : answers ns (second.overriddenBy first) value =
      (referenceKeys value).map fun key => (answer? ns first key).or (answer? ns second key) :=
    List.map_congr_left fun key _ => answer?_overriddenBy ns first second key
  rw [finalText_resolve ns second, finalText_resolve ns first, finalText_resolve, hanswers]
  exact filled_filled value _ _ fun r hr => not_mem_of_mem_answers hfree hr

theorem leftover?_finalText (value : String) :
    leftover? ns second ((resolve ns first value).finalText value) =
      leftover? ns (second.overriddenBy first) value := by
  rw [leftover?, leftover?, finalText_finalText hfree]

theorem resolve_finalText (value : String) :
    resolve ns first ((resolve ns first value).finalText value) = .unchanged := by
  apply resolve_eq_unchanged
  intro k hk
  rw [extract_finalText hfree] at hk
  simpa using (List.mem_filter.1 hk).2

end PercentFree

/-! ### A parameter set -/

/-- The parameters with the updates of a pass written into them. -/
def applied (ns : Namespace) (secrets : Secrets) (parameters : Dict String String) : Dict String String :=
  parameters.overriddenBy (runPass ns secrets parameters.entries).value.updates

/-- A session that runs a pass and applies its updates has these parameters. -/
theorem parameters_next_applyUpdates (s : Session) :
    ((s.next .resolveAll).next .applyUpdates).parameters = applied s.ns s.secrets s.parameters := rfl

theorem get?_updates_entries (secrets : Secrets) (parameters : Dict String String) (name : String) :
    (runPass ns secrets parameters.entries).value.updates.get? name =
      (parameters.get? name).bind fun value => (resolve ns secrets value).text? := by
  ext text
  rw [get?_updates parameters.nodup_keys, Option.bind_eq_some_iff]
  simp only [Dict.get?_eq_some_iff]

theorem get?_unresolved_entries (secrets : Secrets) (parameters : Dict String String) (name : String) :
    (runPass ns secrets parameters.entries).value.unresolved.get? name =
      (parameters.get? name).bind (leftover? ns secrets) := by
  ext keys
  rw [get?_unresolved parameters.nodup_keys, Option.bind_eq_some_iff]
  simp only [Dict.get?_eq_some_iff]

theorem get?_applied (secrets : Secrets) (parameters : Dict String String) (name : String) :
    (applied ns secrets parameters).get? name =
      (parameters.get? name).map fun value => (resolve ns secrets value).finalText value := by
  rw [applied, Dict.get?_overriddenBy, get?_updates_entries]
  cases parameters.get? name with
  | none => rfl
  | some value => rw [Option.bind_some, Option.map_some, Resolution.finalText, Option.or_some]

section PercentFree

variable (hfree : first.PercentFree)
include hfree

theorem applied_applied (parameters : Dict String String) :
    applied ns second (applied ns first parameters) = applied ns (second.overriddenBy first) parameters := by
  apply Dict.ext_get?
  intro name
  rw [get?_applied, get?_applied, get?_applied, Option.map_map]
  apply congrArg fun f => (parameters.get? name).map f
  funext value
  exact finalText_finalText hfree value

theorem unresolved_runPass_applied (parameters : Dict String String) :
    (runPass ns second (applied ns first parameters).entries).value.unresolved =
      (runPass ns (second.overriddenBy first) parameters.entries).value.unresolved := by
  apply Dict.ext_get?
  intro name
  rw [get?_unresolved_entries, get?_unresolved_entries, get?_applied]
  cases parameters.get? name with
  | none => rw [Option.map_none, Option.bind_none, Option.bind_none]
  | some value => rw [Option.map_some, Option.bind_some, Option.bind_some, leftover?_finalText hfree]

theorem updates_runPass_applied (parameters : Dict String String) :
    (runPass ns first (applied ns first parameters).entries).value.updates = ∅ := by
  rw [Dict.eq_empty_iff]
  intro name
  rw [get?_updates_entries, get?_applied]
  cases parameters.get? name with
  | none => rfl
  | some value =>
      rw [Option.map_some, Option.bind_some, resolve_finalText hfree]
      rfl

end PercentFree

/-- Two passes, the updates of the first written back before the second, beside a single pass. -/
structure StagesAgree (ns : Namespace) (first second : Secrets) (parameters : Dict String String) : Prop where
  /-- Both together give the parameters that one pass gives with the secrets of both. -/
  final : applied ns second (applied ns first parameters) = applied ns (second.overriddenBy first) parameters
  unresolved : (runPass ns second (applied ns first parameters).entries).value.unresolved =
    (runPass ns (second.overriddenBy first) parameters.entries).value.unresolved
  /-- The first pass once more has nothing to update. -/
  updates_again : (runPass ns first (applied ns first parameters).entries).value.updates = ∅
  unresolved_again : (runPass ns first (applied ns first parameters).entries).value.unresolved =
    (runPass ns first parameters.entries).value.unresolved
  final_again : applied ns first (applied ns first parameters) = applied ns first parameters

/-- **Passes in stages are one pass.** The secrets of the second may hold anything, references too. -/
theorem runPass_in_stages (ns : Namespace) {first : Secrets} (second : Secrets)
    (parameters : Dict String String) (hfree : first.PercentFree) : StagesAgree ns first second parameters where
  final := applied_applied hfree parameters
  unresolved := unresolved_runPass_applied hfree parameters
  updates_again := updates_runPass_applied hfree parameters
  unresolved_again := by rw [unresolved_runPass_applied hfree, Dict.overriddenBy_self]
  final_again := by rw [applied_applied hfree, Dict.overriddenBy_self]

/-- The second pass fills in a text that reads like a reference, beside a key that stays and a value that is
done. -/
theorem runPass_in_stages_partly :
    StagesAgree .standard (Secrets.ofTexts [("a", "x")]) (Secrets.ofTexts [("a", "y"), ("b", "%vault:a%")])
      (Dict.ofList [("p", "%vault:a%-%vault:b%%vault:c%"), ("q", "%vault:a%"), ("r", "100%")]) :=
  runPass_in_stages .standard _ _ (by decide)

end SecretRefs

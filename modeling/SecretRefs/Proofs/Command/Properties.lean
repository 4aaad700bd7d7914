import SecretRefs.Proofs.Command.Resolve
import SecretRefs.Proofs.Exposure.Plan
import SecretRefs.Proofs.Properties
import SecretRefs.Proofs.Properties.Escape

/-! The properties that `resolve` prints, one line for each exposed value. Escaped, a value stays on its line, and the
line tells it. The loader of parameters does not know the escapes: it reads back the names, whatever the values are,
and makes of a value what it makes of its escaped form. -/

namespace SecretRefs

open ParameterKind (environmentLead)

namespace ExposurePlan

/-- The exposed values under the names that properties have for them, those for the environment first. -/
def printed (plan : ExposurePlan) : List (String × String) :=
  (plan.environment.entries.map fun e => (environmentLead ++ e.1, e.2)) ++ plan.parameters.entries

theorem map_fst_printed (plan : ExposurePlan) :
    plan.printed.map Prod.fst = plan.environment.keys.map (environmentLead ++ ·) ++ plan.parameters.keys := by
  rw [printed, List.map_append, List.map_map, Dict.keys, List.map_map]
  rfl

/-- No two updates are printed under one name. -/
theorem nodup_printed (flags : ExposureFlags) (updates : Dict String String) :
    ((ofUpdates flags updates).printed.map Prod.fst).Nodup := by
  have henvironment : ((ofUpdates flags updates).environment.keys.map (environmentLead ++ ·)).Nodup :=
    List.Nodup.map (fun _ _ => (String.append_right_inj _).1) (Dict.nodup_keys _)
  rw [map_fst_printed, List.nodup_append']
  refine ⟨henvironment, Dict.nodup_keys _, fun name hlead hname => ?_⟩
  obtain ⟨target, -, rfl⟩ := List.mem_map.1 hlead
  obtain ⟨value, hvalue⟩ := (Dict.mem_keys_iff _).1 hname
  exact ((get?_parameters flags updates).1 hvalue).2.1 (ParameterKind.ofName_append target)

end ExposurePlan

namespace Command

open Properties (escape escapeChar unescape? BackslashesEscape Unbroken IsBare keyOf? unquote)
open Text (splitLines trimChars)

variable {files : Files} {override : Option String} {arguments : List String}

/-- The properties of a plan as they are printed. -/
def propertyText (plan : ExposurePlan) : String := Outcome.textOf (propertyLines plan)

theorem ResolveRun.output_eq_propertyText (r : ResolveRun files override arguments)
    (h : r.request.format = .properties) : (run files override arguments).output = propertyText r.plan := by
  rw [r.output_eq, ResolveRun.lines, h]
  rfl

/-! ### Lines -/

theorem toList_propertyLine (name value : String) :
    (propertyLine name value).toList =
      name.toList.flatMap escapeChar ++ '=' :: value.toList.flatMap escapeChar := by
  rw [propertyLine, String.toList_append, String.toList_append, Properties.toList_escape, Properties.toList_escape,
    List.append_assoc]
  rfl

theorem propertyLines_eq (plan : ExposurePlan) :
    propertyLines plan = plan.printed.map fun e => propertyLine e.1 e.2 := by
  have hlead (name value : String) :
      environmentLead ++ propertyLine name value = propertyLine (environmentLead ++ name) value := by
    apply String.toList_injective
    rw [String.toList_append, toList_propertyLine, toList_propertyLine, String.toList_append, List.flatMap_append,
      List.append_assoc]
    rfl
  rw [propertyLines, ExposurePlan.printed, List.map_append, List.map_map]
  simp only [hlead]
  rfl

theorem unbroken_propertyLine (name value : String) : Unbroken (propertyLine name value).toList := by
  have hequals : Unbroken ['='] := by simp [Unbroken]
  rw [toList_propertyLine, Properties.unbroken_append, Properties.unbroken_cons]
  exact ⟨Properties.unbroken_flatMap_escapeChar _, hequals, Properties.unbroken_flatMap_escapeChar _⟩

theorem splitLines_textOf {lines : List String} (h : ∀ line ∈ lines, '\n' ∉ line.toList) :
    splitLines (Outcome.textOf lines).toList = lines.map String.toList ++ [[]] := by
  rw [Text.splitLines_eq_splitOnP]
  exact splitOnP_textOf (decide_eq_true rfl) fun line hline c hc =>
    decide_eq_false fun hfeed => h line hline (hfeed ▸ hc)

theorem splitLines_propertyText (plan : ExposurePlan) :
    splitLines (propertyText plan).toList = (plan.printed.map fun e => (propertyLine e.1 e.2).toList) ++ [[]] := by
  rw [propertyText, propertyLines_eq, splitLines_textOf, List.map_map]
  · rfl
  · intro line hline
    obtain ⟨e, -, rfl⟩ := List.mem_map.1 hline
    exact (unbroken_propertyLine e.1 e.2).1

theorem unescape?_propertyLine (name value : String) :
    unescape? (propertyLine name value).toList = some (name ++ "=" ++ value).toList := by
  rw [toList_propertyLine, Properties.unescape?_flatMap_escapeChar_append, Properties.unescape?_cons (by decide),
    Properties.unescape?_flatMap_escapeChar, String.toList_append, String.toList_append, List.append_assoc]
  rfl

/-- What the escapes keep of a text, and of the output for a plan. -/
structure EscapeKeeps (plan : ExposurePlan) : Prop where
  unbroken (text : String) : Unbroken (escape text).toList
  escapes (text : String) : BackslashesEscape (escape text).toList
  decoded (text : String) : unescape? (escape text).toList = some text.toList
  /-- Whatever looks like an escaped text is the escaped form of what it stands for. -/
  encoded (cs : List Char) : Unbroken cs → BackslashesEscape cs →
    ∃ text : String, unescape? cs = some text.toList ∧ (escape text).toList = cs
  /-- A run prints the properties of its plan. -/
  printed {files : Files} {override : Option String} {arguments : List String}
    (r : ResolveRun files override arguments) : r.request.format = .properties → r.plan = plan →
    (run files override arguments).output = propertyText plan
  /-- Each entry has one line, which tells its name and its value; behind the last line there is nothing. -/
  lines : (splitLines (propertyText plan).toList).map unescape? =
    (plan.environment.entries.map fun e => some (environmentLead ++ e.1 ++ "=" ++ e.2).toList) ++
      (plan.parameters.entries.map fun e => some (e.1 ++ "=" ++ e.2).toList) ++ [some []]
  ordered : plan.environment.keys.Pairwise (fun a b => compare a b = .lt) ∧
    plan.parameters.keys.Pairwise (fun a b => compare a b = .lt)

/-- **Escaping loses nothing, and no entry leaves its line.** -/
theorem escapeKeeps (plan : ExposurePlan) : EscapeKeeps plan where
  unbroken text := by
    rw [Properties.toList_escape]
    exact Properties.unbroken_flatMap_escapeChar _
  escapes text := by
    rw [Properties.toList_escape]
    exact Properties.backslashesEscape_flatMap_escapeChar _
  decoded text := by rw [Properties.toList_escape, Properties.unescape?_flatMap_escapeChar]
  encoded cs hunbroken hescapes := by
    obtain ⟨text, htext, heq⟩ := Properties.exists_unescape?_eq hescapes hunbroken
    refine ⟨String.ofList text, by rw [htext, String.toList_ofList], ?_⟩
    rw [Properties.toList_escape, String.toList_ofList, heq]
  printed r hformat hplan := by rw [r.output_eq_propertyText hformat, hplan]
  lines := by
    have hlast : [([] : List Char)].map unescape? = [some []] := rfl
    rw [splitLines_propertyText, List.map_append, hlast, List.map_map, ExposurePlan.printed, List.map_append,
      List.map_map]
    simp only [Function.comp_def, unescape?_propertyLine]
  ordered := ⟨List.pairwise_map.2 plan.environment.increasing, List.pairwise_map.2 plan.parameters.increasing⟩

/-! ### The output as a source -/

/-- What the loader makes of a value that has been printed. -/
def reread (value : String) : String := String.ofList (unquote (trimChars (escape value).toList))

theorem mapping_propertyText (plan : ExposurePlan) :
    Properties.mapping (propertyText plan) =
      .ofList (plan.printed.filterMap fun e =>
        Properties.entryOf? (propertyLine e.1 e.2).toList) := by
  -- there is nothing behind the last line feed
  have hlast : ([([] : List Char)].filterMap Properties.entryOf?) = [] := rfl
  rw [Properties.mapping_eq, splitLines_propertyText, List.filterMap_append, hlast, List.append_nil, List.filterMap_map]
  simp only [Function.comp_def]

/-- The names alone tell which keys the loader finds. -/
theorem keys_mapping_propertyText (plan : ExposurePlan) :
    (Properties.mapping (propertyText plan)).keys =
      distinctNames ((plan.printed.map Prod.fst).filterMap fun name =>
        keyOf? (name.toList.flatMap escapeChar)) := by
  rw [mapping_propertyText, distinctNames, KeySet.members, KeySet.ofMembers]
  apply Dict.keys_ofList_eq
  rw [List.map_map, Function.comp_def, List.map_id', List.map_filterMap, List.filterMap_map]
  simp only [Function.comp_def, toList_propertyLine, Properties.map_fst_entryOf?]

theorem entryOf?_propertyLine {name : String} (h : IsBare name) (value : String) :
    Properties.entryOf? (propertyLine name value).toList = some (name, reread value) := by
  have hname : name.toList.flatMap escapeChar = name.toList := by
    refine Properties.flatMap_escapeChar_of_unbroken (fun hmem => (h.letters _ hmem).2.1 rfl) ⟨?_, ?_, ?_⟩
    · exact fun hmem => (h.letters _ hmem).2.2.1 rfl
    · exact fun hmem => (h.letters _ hmem).2.2.2.1 rfl
    · exact fun hmem => (h.letters _ hmem).2.2.2.2 rfl
  rw [toList_propertyLine, hname, Properties.entryOf?_of_isKey h.isKey, reread, Properties.toList_escape]

theorem mapping_propertyText_of_isBare {plan : ExposurePlan} (h : ∀ name ∈ plan.printed.map Prod.fst, IsBare name) :
    Properties.mapping (propertyText plan) = .ofList (plan.printed.map fun e => (e.1, reread e.2)) := by
  have hentries : (plan.printed.filterMap fun e => Properties.entryOf? (propertyLine e.1 e.2).toList) =
      plan.printed.filterMap fun e => some (e.1, reread e.2) :=
    List.filterMap_congr fun e he => entryOf?_propertyLine (h e.1 (List.mem_map_of_mem he)) e.2
  rw [mapping_propertyText, hentries]
  exact congrArg Dict.ofList (congrFun List.filterMap_eq_map _)

/-- What the loader reads back from the output for a plan. -/
structure ReadsBack (plan : ExposurePlan) : Prop where
  /-- A run prints the properties of its plan. -/
  printed {files : Files} {override : Option String} {arguments : List String}
    (r : ResolveRun files override arguments) : r.request.format = .properties → r.plan = plan →
    (run files override arguments).output = propertyText plan
  /-- No value adds a key or takes one away. -/
  sameKeys (other : ExposurePlan) : plan.environment.keys = other.environment.keys →
    plan.parameters.keys = other.parameters.keys →
    (Properties.parse (propertyText plan)).value.keys = (Properties.parse (propertyText other)).value.keys
  /-- A plan that is made of updates prints each name once. -/
  distinct (flags : ExposureFlags) (updates : Dict String String) : (ExposurePlan.build flags updates).value = plan →
    (plan.printed.map Prod.fst).Nodup
  /-- Under bare names there are just the printed values, and the loader makes of each what it makes of its escaped
  form. -/
  entries : (plan.printed.map Prod.fst).Nodup → (∀ name ∈ plan.printed.map Prod.fst, IsBare name) →
    (Properties.parse (propertyText plan)).value.entries.Perm (plan.printed.map fun e => (e.1, reread e.2))

/-- **The loader reads the output back, and no value forges an entry.** -/
theorem readsBack (plan : ExposurePlan) : ReadsBack plan where
  printed r hformat hplan := by rw [r.output_eq_propertyText hformat, hplan]
  sameKeys other henvironment hparameters := by
    change (Properties.mapping _).keys = (Properties.mapping _).keys
    rw [keys_mapping_propertyText, keys_mapping_propertyText, ExposurePlan.map_fst_printed,
      ExposurePlan.map_fst_printed, henvironment, hparameters]
  distinct flags updates hplan := by
    rw [← hplan]
    exact ExposurePlan.nodup_printed flags updates
  entries hnodup hbare := by
    change (Properties.mapping _).entries.Perm _
    rw [mapping_propertyText_of_isBare hbare]
    apply Dict.entries_ofList_perm
    rwa [List.map_map]

/-- A value that looks like an entry of its own stays a value. -/
example : Properties.mapping (propertyText { parameters := .ofList [("a", " x\nb=y ")] }) =
    .ofList [("a", "x\\nb=y")] := by
  decide +kernel

end Command

end SecretRefs

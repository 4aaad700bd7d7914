import SecretRefs.Proofs.Command.Resolve
import SecretRefs.Proofs.Namespace
import SecretRefs.Proofs.Scan
import SecretRefs.Proofs.StoreKey.Reference

/-! The plain lists of `scan` and `extract`. Names of secrets are printed as they are, each on a line of its own. They
stand in keys, a key holds no blank, and every character at which a line can break is a blank. So the lines that a
reader sees are the names, and only where there is no name nothing is printed. -/

namespace SecretRefs

open Text (isBlank)

theorem isRun_name_of_mem_extract {ns : Namespace} {value : String} {k : StoreKey} (h : k ∈ extract ns value) :
    IsRun k.name.toList := by
  obtain ⟨name, hname, rfl⟩ := exists_keyOf_of_mem_extract h
  rwa [StoreKey.name_keyOf]

theorem isRun_of_mem_secretNames_scan {ns : Namespace} {parameters : List (String × String)} {name : String}
    (h : name ∈ (scan ns parameters).value.secretNames) : IsRun name.toList := by
  obtain ⟨p, -, k, hk, rfl⟩ := mem_secretNames_scan.1 h
  exact isRun_name_of_mem_extract hk

theorem secretNames_scan_eq_nil_iff {ns : Namespace} {parameters : List (String × String)} :
    (scan ns parameters).value.secretNames = [] ↔ ∀ p ∈ parameters, extract ns p.2 = [] := by
  rw [ReferenceReport.secretNames, secretNames_eq_nil_iff, List.eq_nil_iff_forall_not_mem]
  simp only [mem_references_scan, List.eq_nil_iff_forall_not_mem]
  constructor
  · exact fun h p hp k hk => h k ⟨p, hp, hk⟩
  · rintro h k ⟨p, hp, hk⟩
    exact h p hp k hk

namespace Command

/-! ### Lines of names -/

/-- A text lists names, each on a line of its own. -/
structure Lists (output : String) (names : List String) : Prop where
  /-- Wherever a reader breaks lines, as long as it is at newlines and otherwise at blanks alone, the lines are the
  names; behind the last one there is nothing. -/
  lines (breaks : Char → Bool) : breaks '\n' = true → (∀ c, breaks c = true → isBlank c = true) →
    output.toList.splitOnP breaks = names.map String.toList ++ [[]]
  empty : output = "" ↔ names = []
  /-- An empty name is not the same as no name. -/
  blankLine : output = "\n" ↔ names = [""]

section Names

variable {names others : List String}

theorem splitOnP_textOf_names {breaks : Char → Bool} (hnewline : breaks '\n' = true)
    (hblank : ∀ c, breaks c = true → isBlank c = true) (hruns : ∀ name ∈ names, IsRun name.toList) :
    (Outcome.textOf names).toList.splitOnP breaks = names.map String.toList ++ [[]] := by
  refine splitOnP_textOf hnewline fun name hname c hc => ?_
  cases hbreaks : breaks c with
  | false => rfl
  | true =>
      rw [← hblank c hbreaks]
      exact (hruns name hname c hc).2

theorem textOf_inj (hnames : ∀ name ∈ names, IsRun name.toList) (hothers : ∀ name ∈ others, IsRun name.toList)
    (h : Outcome.textOf names = Outcome.textOf others) : names = others := by
  have hblank : ∀ c, (c == '\n') = true → isBlank c = true := by
    intro c hc
    rw [beq_iff_eq.1 hc]
    decide
  have hlines : (Outcome.textOf names).toList.splitOnP (· == '\n') = names.map String.toList ++ [[]] :=
    splitOnP_textOf_names rfl hblank hnames
  rw [h, splitOnP_textOf_names rfl hblank hothers] at hlines
  exact (List.map_injective_iff.2 (fun _ _ => String.toList_inj.1) (List.append_cancel_right hlines)).symm

theorem lists_textOf (hruns : ∀ name ∈ names, IsRun name.toList) : Lists (Outcome.textOf names) names where
  lines _ hnewline hblank := splitOnP_textOf_names hnewline hblank hruns
  empty := by
    constructor
    · intro h
      have hnone : Outcome.textOf names = Outcome.textOf [] := h
      exact textOf_inj hruns (List.forall_mem_nil _) hnone
    · rintro rfl
      rfl
  blankLine := by
    constructor
    · intro h
      have hblank : Outcome.textOf names = Outcome.textOf [""] := h
      exact textOf_inj hruns (by decide) hblank
    · rintro rfl
      rfl

end Names

/-! ### What the commands show -/

theorem results_extractItems (ns : Namespace) (keys : List StoreKey) :
    results (extractItems ns false keys) = keys.map StoreKey.name := by
  rw [extractItems, if_neg Bool.false_ne_true]
  split
  · next h =>
    rw [List.isEmpty_iff.1 h]
    rfl
  · have hnames : (keys.map fun k => Item.result k.name) = (keys.map StoreKey.name).map .result := by
      rw [List.map_map]
      rfl
    rw [hnames, results_map_result]

theorem results_scanItems (ns : Namespace) (parameters : Dict String String) (report : ReferenceReport) :
    results (scanItems ns false parameters report) = report.secretNames := by
  rw [scanItems, if_neg Bool.false_ne_true]
  split
  · next h =>
    have hnone : report.references.members = [] := List.eq_nil_iff_forall_not_mem.2 (KeySet.isEmpty_iff.1 h)
    rw [ReferenceReport.secretNames, hnone]
    rfl
  · have hparameters := results_map_of_none (.entry "parameter") (fun _ => rfl) report.parameters.members
    change results (_ ++ _) = _
    rw [results_append, hparameters, results_map_result, List.nil_append]

/-! ### Runs -/

/-- A run of a command with the configuration that it has loaded. -/
structure ConfiguredRun (files : Files) (override : Option String) (arguments : List String) where
  invocation : Invocation
  loaded : LoadedConfig
  understood : Invocation.ofArguments arguments = .ok invocation
  configLoads : (Config.load files invocation.config override).value = .ok loaded

/-- A run of `extract` that prints a plain list. -/
structure ExtractRun (files : Files) (override : Option String) (arguments : List String) extends
    ConfiguredRun files override arguments where
  value : String
  task : invocation.task = .extract value false

/-- A run of `scan` that prints a plain list. -/
structure ScanRun (files : Files) (override : Option String) (arguments : List String) extends
    ConfiguredRun files override arguments where
  path : String
  parameters : Dict String String
  task : invocation.task = .scan path false
  parametersLoad : (loadParameters files path).value = .ok parameters

variable {files : Files} {override : Option String} {arguments : List String}

namespace ConfiguredRun

def scope (r : ConfiguredRun files override arguments) : Namespace := r.loaded.config.secretNamespace

/-- Such a run prints what comes after its configuration. -/
theorem output_eq (r : ConfiguredRun files override arguments) {next : Config → CommandM Unit} {lines : List String}
    (hperform : r.invocation.perform files override = loadConfig files r.invocation.config override >>= next)
    (hnext : ∀ items, results ((next r.loaded.config).run.run items).2 = results items ++ lines) :
    (run files override arguments).output = Outcome.textOf lines := by
  obtain ⟨items, hconfig, hitems⟩ := exists_run_loadConfig r.configLoads []
  rw [run_of_understood r.understood, output_ofCommand, hperform, run_bind_ok hconfig, hnext, hitems]
  rfl

end ConfiguredRun

/-- The names of the keys that the value holds, in order. -/
def ExtractRun.names (r : ExtractRun files override arguments) : List String :=
  (extract r.scope r.value).map StoreKey.name

def ScanRun.report (r : ScanRun files override arguments) : ReferenceReport :=
  (scan r.scope r.parameters.entries).value

theorem ExtractRun.output_eq (r : ExtractRun files override arguments) :
    (run files override arguments).output = Outcome.textOf r.names := by
  refine r.toConfiguredRun.output_eq (by rw [Invocation.perform, r.task]) fun items => ?_
  rw [run_write, results_append, results_extractItems]
  rfl

theorem ScanRun.output_eq (r : ScanRun files override arguments) :
    (run files override arguments).output = Outcome.textOf r.report.secretNames := by
  refine r.toConfiguredRun.output_eq (by rw [Invocation.perform, r.task]) fun items => ?_
  rw [scanFile, loadParameterFile, run_bind_ok (run_attempt_ok r.parametersLoad _ _), run_bind_ok (run_attend _ _),
    run_write]
  simp only [results_append, results_records, List.append_nil, results_scanItems]
  rfl

theorem ExtractRun.lists (r : ExtractRun files override arguments) :
    Lists (run files override arguments).output r.names := by
  rw [r.output_eq]
  refine lists_textOf fun name hname => ?_
  obtain ⟨k, hk, rfl⟩ := List.mem_map.1 hname
  exact isRun_name_of_mem_extract hk

theorem ScanRun.lists (r : ScanRun files override arguments) :
    Lists (run files override arguments).output r.report.secretNames := by
  rw [r.output_eq]
  exact lists_textOf fun _ => isRun_of_mem_secretNames_scan

/-! ### Runs without a configuration -/

theorem load_twoFiles (parameters secrets : String) (ns : Namespace) :
    (Config.load (twoFiles parameters secrets) none (some ns.text)).value =
      .ok { config := { secretNamespace := ns } } := by
  have hoverride : unlessEmpty (some ns.text) = some ns.text := by
    rw [unlessEmpty, Option.filter_some, if_pos]
    simpa using ns.toList_text_ne_nil
  change (Config.overrideNamespace (some ns.text) {}).value = _
  rw [Config.overrideNamespace, hoverride]
  change (Namespace.parse ns.text).map _ = _
  rw [Namespace.parse_eq_ok_iff.2 rfl]
  rfl

/-- The run on any value, under a namespace that the environment sets. -/
def ExtractRun.onValue (ns : Namespace) (value : String) :
    ExtractRun (twoFiles "" "") (some ns.text) ["extract", "--", value] where
  invocation := ⟨.extract value false, {}, none⟩
  loaded := { config := { secretNamespace := ns } }
  understood := rfl
  configLoads := load_twoFiles "" "" ns
  value := value
  task := rfl

/-- The run on a file of properties, under a namespace that the environment sets. -/
def ScanRun.onText (ns : Namespace) (parameters : String) :
    ScanRun (twoFiles parameters "") (some ns.text) ["scan", "p.env"] where
  invocation := ⟨.scan "p.env" false, {}, none⟩
  loaded := { config := { secretNamespace := ns } }
  understood := rfl
  configLoads := load_twoFiles parameters "" ns
  path := "p.env"
  parameters := Properties.mapping parameters
  task := rfl
  parametersLoad := loadParameters_twoFiles parameters ""

/-- What the plain lists tell of the references. -/
structure ListsNames : Prop where
  /-- `extract` lists the names in its value, in order and with repetitions. -/
  extracted {files : Files} {override : Option String} {arguments : List String}
    (r : ExtractRun files override arguments) : Lists (run files override arguments).output r.names
  /-- It prints nothing if and only if there is no reference. -/
  extractedNothing {files : Files} {override : Option String} {arguments : List String}
    (r : ExtractRun files override arguments) : (run files override arguments).output = "" ↔
      extract r.scope r.value = []
  /-- It can be run on every value in every namespace. -/
  extracts (ns : Namespace) (value : String) :
    ∃ r : ExtractRun (twoFiles "" "") (some ns.text) ["extract", "--", value], r.scope = ns ∧ r.value = value
  /-- `scan` lists the distinct names in its parameters, in increasing order. -/
  scanned {files : Files} {override : Option String} {arguments : List String}
    (r : ScanRun files override arguments) : Lists (run files override arguments).output r.report.secretNames
  increasing {files : Files} {override : Option String} {arguments : List String}
    (r : ScanRun files override arguments) : r.report.secretNames.Pairwise fun a b => compare a b = .lt
  inNames {files : Files} {override : Option String} {arguments : List String}
    (r : ScanRun files override arguments) (name : String) : name ∈ r.report.secretNames ↔
      ∃ p ∈ r.parameters.entries, ∃ k ∈ extract r.scope p.2, k.name = name
  scannedNothing {files : Files} {override : Option String} {arguments : List String}
    (r : ScanRun files override arguments) : (run files override arguments).output = "" ↔
      ∀ p ∈ r.parameters.entries, extract r.scope p.2 = []
  /-- It can be run on every file of properties in every namespace. -/
  scans (ns : Namespace) (text : String) :
    ∃ r : ScanRun (twoFiles text "") (some ns.text) ["scan", "p.env"], r.scope = ns ∧
      r.parameters = Properties.mapping text

/-- **No name forges a line of a list.** -/
theorem listsNames : ListsNames where
  extracted r := r.lists
  extractedNothing r := r.lists.empty.trans List.map_eq_nil_iff
  extracts ns value := ⟨.onValue ns value, rfl, rfl⟩
  scanned r := r.lists
  increasing _ := secretNames_increasing _
  inNames _ _ := mem_secretNames_scan
  scannedNothing r := r.lists.empty.trans secretNames_scan_eq_nil_iff
  scans ns text := ⟨.onText ns text, rfl, rfl⟩

/-- The reference without a name is a blank line. -/
example : (run (twoFiles "" "") none ["extract", "%vault:%"]).output = "\n" := by
  decide +kernel

end Command

end SecretRefs

import Mathlib.Data.List.Infix
import SecretRefs.Config.Load
import SecretRefs.Proofs.Namespace

/-! Loading a configuration. A load takes one file, the named one or else the nearest, and after it the override. What can
stand in the way is looked at in a fixed order, so an override never hides a defect of the file; what the override
changes is the namespace and nothing else. A blank file says as much as none. -/

namespace SecretRefs

/-- Whether there is something at a place, be it readable or not. -/
def Files.holds (files : Files) (place : Place) : Bool :=
  match files.readAt place with
  | .ok _ => true
  | .error .isADirectory | .error .notText | .error (.refused _) => true
  | .error .notFound | .error .notADirectory | .error .nameTooLong | .error .nulInName => false

namespace Config

/-- The places to look at: the directory and those around it, the nearest first, and in each both names. -/
def searched (directory : Place) : List Place :=
  directory.inits.reverse.flatMap fun place => [place ++ ["vaultref.yaml"], place ++ ["vaultref.yml"]]

/-- The file that a load takes, and what reading it gives: the file that is named, there or not, or else the first of the
places to look at where something is. -/
def source? (files : Files) (path : Option String) : Option (String × Except ReadFault String) :=
  match path with
  | some path => some (path, files.read path)
  | none =>
    ((searched files.workingDirectory).find? files.holds).map fun place =>
      (files.pathOf place, files.readAt place)

/-- The configuration where nothing is said. -/
def initial : Config where
  secretNamespace := ⟨"vault:", Namespace.standard.sound⟩
  behaviour := ⟨false, false⟩
  failOnUnresolved := false

/-- What a content says: nothing if it is blank, and otherwise what the decoder makes of it. -/
def said (content : String) : Except Yaml.Fault Config :=
  if content.toList.all Text.isBlank then .ok initial else ofYaml content

/-- The configuration that the file gives, if there is a file and it gives one. -/
def fromFile? (files : Files) (path : Option String) : Option Config :=
  match source? files path with
  | some (_, .ok content) => (said content).toOption
  | _ => none

/-- The text that an override gives, unless it is empty. -/
def overriding? (override : Option String) : Option String := override.filter (· ≠ "")

/-- What is wrong with an override that is not empty. -/
def overrideDefect? (override : Option String) : Option Error :=
  (overriding? override).bind fun text =>
    (NamespaceDefect.find? text).map fun defect => .invalidNamespace text defect.reason

/-- What can stand in the way of loading. -/
inductive Obstacle
  | missing
  | unreadable
  | undecodable
  | defectiveOverride
  deriving DecidableEq, Repr

namespace Obstacle

/-- The error of an obstacle that is in the way, whatever else may be. -/
def error? (files : Files) (path override : Option String) : Obstacle → Option Error
  | missing =>
    match path.map fun path => (path, files.read path) with
    | some (path, .error .notFound) => some (.fileNotFound path)
    | _ => none
  | unreadable =>
    match source? files path with
    | some (_, .error fault) => some (.io fault.reason)
    | _ => none
  | undecodable =>
    match source? files path with
    | some (_, .ok content) =>
      match said content with
      | .ok _ => none
      | .error fault => some (.yaml fault)
    | _ => none
  | defectiveOverride => overrideDefect? override

/-- Those of the file, in the order in which they are met. -/
def ofFile : List Obstacle := [missing, unreadable, undecodable]

/-- The override is met last. -/
def order : List Obstacle := ofFile ++ [defectiveOverride]

end Obstacle

/-- The error of the first obstacle in the way. -/
def firstError? (files : Files) (path override : Option String) : Option Error :=
  Obstacle.order.findSome? (Obstacle.error? files path override)

variable {files : Files} {path override : Option String}

/-! ### The file -/

/-- What a load makes of reading a file. -/
def taken (path : Option String) : String × Except ReadFault String → Except Error (String × String)
  | (found, .ok content) => .ok (found, content)
  | (found, .error fault) => .error (if path.isSome then .ofRead found fault else .io fault.reason)

theorem candidates_eq (start : Place) : candidates start = searched start := by
  have hinits : (List.range (start.length + 1)).map (start.take ·) = start.inits := by
    apply List.ext_getElem
    · rw [List.length_map, List.length_range, List.length_inits]
    · intro n hn hn'
      rw [List.getElem_map, List.getElem_range, List.getElem_inits]
  rw [candidates, ancestors, List.map_reverse, hinits]
  rfl

theorem parse_eq (content : String) : parse content = (said content).mapError .yaml := by
  rw [parse, said, Text.isBlankText]
  split
  · rfl
  · cases ofYaml content <;> rfl

theorem inspect_eq (files : Files) (place : Place) :
    inspect files place =
      if files.holds place then some (taken none (files.pathOf place, files.readAt place)) else none := by
  rw [inspect, Files.holds]
  cases files.readAt place with
  | ok text => rfl
  | error fault => cases fault <;> rfl

theorem findSome?_inspect (files : Files) (places : List Place) :
    places.findSome? (inspect files) =
      (places.find? files.holds).map fun place => taken none (files.pathOf place, files.readAt place) := by
  induction places with
  | nil => rfl
  | cons place places ih =>
      rw [List.findSome?_cons, inspect_eq, List.find?_cons]
      cases files.holds place with
      | true => rfl
      | false => exact ih

theorem choose_eq (files : Files) (path : Option String) :
    choose files path = ((source? files path).map (taken path)).elim (.ok none) (Except.map some) := by
  cases path with
  | some path =>
      rw [choose, source?, Option.map_some, Option.elim_some]
      cases files.read path with
      | ok content => rfl
      | error fault => rfl
  | none =>
      rw [choose, nearest, findSome?_inspect, candidates_eq, source?, Option.map_map]
      cases (searched files.workingDirectory).find? files.holds with
      | none => rfl
      | some place =>
          simp only [Option.map_some, Option.elim_some, Function.comp_apply]
          cases taken none (files.pathOf place, files.readAt place) <;> rfl

/-- What comes of the file alone. -/
def loadFile (files : Files) (path : Option String) : Except Error LoadedConfig :=
  match source? files path with
  | none => .ok { config := initial }
  | some (found, .error fault) => .error (if path.isSome then .ofRead found fault else .io fault.reason)
  | some (found, .ok content) =>
    match said content with
    | .ok config => .ok { config, path := some found }
    | .error fault => .error (.yaml fault)

theorem loadFile_of_none (h : source? files path = none) : loadFile files path = .ok { config := initial } := by
  rw [loadFile, h]

theorem loadFile_of_blank {found content : String} (h : source? files path = some (found, .ok content))
    (hblank : ∀ c ∈ content.toList, Text.isBlank c = true) :
    loadFile files path = .ok { config := initial, path := some found } := by
  rw [loadFile, h]
  dsimp only
  rw [said, if_pos (List.all_eq_true.2 hblank)]

/-- A load is the file and after it the override. -/
theorem value_load (files : Files) (path override : Option String) :
    (load files path override).value =
      (loadFile files path).bind fun loaded => (overrideNamespace override loaded).value := by
  rw [load, choose_eq, loadFile]
  rcases source? files path with _ | ⟨found, fault | content⟩
  · rfl
  · rfl
  · simp only [taken, Option.map_some, Option.elim_some, Except.map, parse_eq]
    cases said content <;> rfl

theorem error?_missing_eq (files : Files) (path override : Option String) :
    Obstacle.error? files path override .missing =
      match source? files path with
      | some (found, .error .notFound) => if path.isSome then some (.fileNotFound found) else none
      | _ => none := by
  cases path with
  | some path => rfl
  | none =>
      rw [Obstacle.error?]
      split
      · next h => cases h
      · split <;> rfl

/-- The file gives a configuration unless one of its obstacles is in the way. -/
theorem loadFile_eq (files : Files) (path override : Option String) :
    loadFile files path =
      (Obstacle.ofFile.findSome? (Obstacle.error? files path override)).elim
        (.ok { config := (fromFile? files path).getD initial, path := (source? files path).map Prod.fst }) .error := by
  simp only [Obstacle.ofFile, List.findSome?_cons, List.findSome?_nil, error?_missing_eq]
  rw [loadFile, fromFile?, Obstacle.error?, Obstacle.error?]
  rcases source? files path with _ | ⟨found, fault | content⟩
  · rfl
  · cases fault <;> cases path <;> rfl
  · dsimp only
    cases said content <;> rfl

/-! ### The override -/

theorem unlessEmpty_eq (override : Option String) : unlessEmpty override = overriding? override := rfl

/-- A configuration with another namespace. -/
def withNamespace (loaded : LoadedConfig) (ns : Namespace) : LoadedConfig :=
  { loaded with config := { loaded.config with secretNamespace := ns } }

/-- The namespace that an override gives, if there is nothing wrong with it. -/
def overridingNamespace? (override : Option String) : Option Namespace :=
  (overriding? override).bind fun text => (Namespace.parse text).toOption

theorem value_overrideNamespace (override : Option String) (loaded : LoadedConfig) :
    (overrideNamespace override loaded).value =
      (overrideDefect? override).elim
        (.ok (withNamespace loaded ((overridingNamespace? override).getD loaded.config.secretNamespace))) .error := by
  rw [overrideNamespace, overrideDefect?, overridingNamespace?, ← unlessEmpty_eq]
  cases unlessEmpty override with
  | none => rfl
  | some text =>
      change (Namespace.parse text).map (withNamespace loaded) = _
      rw [Option.bind_some, Option.bind_some]
      cases hparse : Namespace.parse text with
      | ok ns =>
          obtain rfl := Namespace.parse_eq_ok_iff.1 hparse
          rw [ns.sound]
          rfl
      | error error =>
          obtain ⟨defect, hdefect, rfl⟩ := Namespace.parse_eq_error_iff.1 hparse
          rw [hdefect]
          rfl

theorem exists_of_overrideNamespace {plain loaded : LoadedConfig}
    (h : (overrideNamespace override plain).value = .ok loaded) : ∃ ns, loaded = withNamespace plain ns := by
  rw [value_overrideNamespace] at h
  cases hdefect : overrideDefect? override with
  | some error =>
      rw [hdefect] at h
      cases h
  | none =>
      rw [hdefect] at h
      cases h
      exact ⟨_, rfl⟩

theorem map_config_overrideNamespace (override : Option String) {loaded other : LoadedConfig}
    (h : loaded.config = other.config) :
    (overrideNamespace override loaded).value.map LoadedConfig.config =
      (overrideNamespace override other).value.map LoadedConfig.config := by
  rw [value_overrideNamespace, value_overrideNamespace, h]
  cases overrideDefect? override with
  | some error => rfl
  | none => simp only [Option.elim_none, withNamespace, Except.map, h]

theorem isSome_overrideDefect?_iff :
    (overrideDefect? override).isSome ↔ ∃ text, override = some text ∧ text ≠ "" ∧ ¬ IsRun text.toList := by
  cases override with
  | none => simp [overrideDefect?, overriding?]
  | some text =>
      rw [overrideDefect?, overriding?, Option.filter_some]
      split
      · next h =>
        have htext : text ≠ "" := of_decide_eq_true h
        have hrun : IsRun text.toList ↔ NamespaceDefect.find? text = none := by
          rw [NamespaceDefect.find?_eq_none_iff, and_iff_right htext]
        simp [hrun, htext, Option.isSome_iff_ne_none]
      · next h =>
        have htext : text = "" := by simpa using h
        simp [htext]

/-! ### The file and the override -/

theorem value_load_none (files : Files) (path : Option String) : (load files path none).value = loadFile files path := by
  rw [value_load]
  cases loadFile files path <;> rfl

/-- An override that is not in the way gives the namespace that it spells. -/
theorem map_text_overridingNamespace? (h : overrideDefect? override = none) :
    (overridingNamespace? override).map Namespace.text = overriding? override := by
  rw [overrideDefect?] at h
  rw [overridingNamespace?]
  cases hoverride : overriding? override with
  | none => rfl
  | some text =>
      rw [hoverride, Option.bind_some, Option.map_eq_none_iff] at h
      have hparse : Namespace.parse text = .ok ⟨text, h⟩ := Namespace.parse_eq_ok_iff.2 rfl
      rw [Option.bind_some, hparse]
      rfl

/-- What comes of the file and the override together. -/
theorem value_load_eq (files : Files) (path override : Option String) :
    (load files path override).value =
      (firstError? files path override).elim
        (.ok (withNamespace { config := (fromFile? files path).getD initial, path := (source? files path).map Prod.fst }
          ((overridingNamespace? override).getD ((fromFile? files path).getD initial).secretNamespace)))
        .error := by
  rw [value_load, loadFile_eq files path override, firstError?, Obstacle.order, List.findSome?_append]
  cases Obstacle.ofFile.findSome? (Obstacle.error? files path override) with
  | some error => rfl
  | none =>
      rw [Option.none_or, List.findSome?_singleton]
      exact value_overrideNamespace override _

theorem value_load_eq_error_iff {error : Error} :
    (load files path override).value = .error error ↔ firstError? files path override = some error := by
  rw [value_load_eq]
  cases firstError? files path override <;> simp

theorem value_load_eq_ok_iff {loaded : LoadedConfig} :
    (load files path override).value = .ok loaded ↔
      firstError? files path override = none ∧
        loaded = withNamespace { config := (fromFile? files path).getD initial, path := (source? files path).map Prod.fst }
          ((overridingNamespace? override).getD ((fromFile? files path).getD initial).secretNamespace) := by
  rw [value_load_eq]
  cases firstError? files path override <;> simp [eq_comm]

/-- What loading a configuration comes to. -/
structure LoadsInOrder (files : Files) (path override : Option String) : Prop where
  /-- The first obstacle in the way decides the error. -/
  fails (error : Error) :
    (load files path override).value = .error error ↔ firstError? files path override = some error
  loads : (∃ loaded, (load files path override).value = .ok loaded) ↔ firstError? files path override = none
  /-- An override is in the way just when it is a text that no namespace has. -/
  refuses : (Obstacle.error? files path override .defectiveOverride).isSome ↔
    ∃ text, override = some text ∧ text ≠ "" ∧ ¬ IsRun text.toList
  /-- The override counts for more than the file, and the file for more than the standard. -/
  secretNamespace (loaded : LoadedConfig) : (load files path override).value = .ok loaded →
    loaded.config.secretNamespace.text =
      ((overriding? override).or ((fromFile? files path).map fun config => config.secretNamespace.text)).getD "vault:"
  usable (loaded : LoadedConfig) : (load files path override).value = .ok loaded →
    loaded.config.secretNamespace.text ≠ "" ∧ IsRun loaded.config.secretNamespace.text.toList
  /-- All but the namespace is as it is without the override. -/
  rest (loaded : LoadedConfig) : (load files path override).value = .ok loaded →
    ∃ plain, (load files path none).value = .ok plain ∧
      loaded.config.behaviour = plain.config.behaviour ∧
      loaded.config.failOnUnresolved = plain.config.failOnUnresolved ∧ loaded.path = plain.path
  plain (loaded : LoadedConfig) : (load files path none).value = .ok loaded →
    loaded.config = (fromFile? files path).getD initial ∧ loaded.path = (source? files path).map Prod.fst
  /-- Wherever it is found, a blank file gives what no file gives. -/
  blank (others : Files) (named : Option String) (found content : String) : source? files path = none →
    source? others named = some (found, .ok content) → (∀ c ∈ content.toList, Text.isBlank c = true) →
      (load others named override).value.map LoadedConfig.config = (load files path override).value.map LoadedConfig.config

/-- **A configuration is loaded in one order.** -/
theorem loadsInOrder (files : Files) (path override : Option String) : LoadsInOrder files path override where
  fails error := value_load_eq_error_iff
  loads := by
    simp only [value_load_eq_ok_iff, exists_and_left, exists_eq, and_true]
  refuses := isSome_overrideDefect?_iff
  secretNamespace loaded hloaded := by
    obtain ⟨hnone, rfl⟩ := value_load_eq_ok_iff.1 hloaded
    have hdefect : overrideDefect? override = none :=
      List.findSome?_eq_none_iff.1 hnone .defectiveOverride (by decide)
    rw [← map_text_overridingNamespace? hdefect, withNamespace]
    cases overridingNamespace? override with
    | some ns => rfl
    | none => cases fromFile? files path <;> rfl
  usable loaded _ := NamespaceDefect.find?_eq_none_iff.1 loaded.config.secretNamespace.sound
  rest loaded hloaded := by
    rw [value_load] at hloaded
    cases hplain : loadFile files path with
    | error error =>
        rw [hplain] at hloaded
        cases hloaded
    | ok plain =>
        rw [hplain] at hloaded
        obtain ⟨ns, rfl⟩ := exists_of_overrideNamespace hloaded
        exact ⟨plain, by rw [value_load_none, hplain], rfl, rfl, rfl⟩
  plain loaded hloaded := by
    obtain ⟨-, rfl⟩ := value_load_eq_ok_iff.1 hloaded
    exact ⟨rfl, rfl⟩
  blank others named found content hnone hfound hblank := by
    rw [value_load, value_load, loadFile_of_none hnone, loadFile_of_blank hfound hblank]
    exact map_config_overrideNamespace override rfl

end Config

end SecretRefs

import Mathlib.Data.List.Infix
import SecretRefs.FileTree
import SecretRefs.Proofs.Config.Load

/-! The search for a configuration file. It looks into a directory under both names and goes on with the directory around
it, so what it takes is in the nearest directory that has anything to take, and a directory further up has no part in
the answer. Something that is there and cannot be read ends the search like a file. -/

namespace SecretRefs.Config

variable {files : Files}

/-! ### Places to look at -/

theorem mem_ancestors_iff {place start : Place} : place ∈ ancestors start ↔ place <+: start := by
  rw [ancestors, List.mem_map]
  constructor
  · rintro ⟨n, -, rfl⟩
    exact List.take_prefix n start
  · intro h
    have hlength := h.length_le
    refine ⟨place.length, ?_, (List.prefix_iff_eq_take.1 h).symm⟩
    rw [List.mem_reverse, List.mem_range]
    omega

theorem ancestors_concat (place : Place) (name : String) :
    ancestors (place ++ [name]) = (place ++ [name]) :: ancestors place := by
  rw [ancestors, List.length_append, List.length_singleton, List.range_succ, List.reverse_concat, List.map_cons,
    List.take_of_length_le (by simp)]
  congr 1
  refine List.map_congr_left fun n hn => ?_
  rw [List.mem_reverse, List.mem_range] at hn
  exact List.take_append_of_le_length (by omega)

/-- The two places in a directory. -/
def places (directory : Place) : List Place := configNames.map fun name => directory ++ [name]

theorem candidates_nil : candidates [] = places [] := rfl

/-- After a directory comes the one around it. -/
theorem candidates_concat (directory : Place) (name : String) :
    candidates (directory ++ [name]) = places (directory ++ [name]) ++ candidates directory := by
  rw [candidates, ancestors_concat, List.flatMap_cons]
  rfl

theorem mem_candidates_iff {file start : Place} :
    file ∈ candidates start ↔ ∃ directory name, directory <+: start ∧ name ∈ configNames ∧ directory ++ [name] = file := by
  simp only [candidates, List.mem_flatMap, List.mem_map, mem_ancestors_iff, exists_and_left]

theorem length_candidates (start : Place) : (candidates start).length = 2 * (start.length + 1) := by
  induction start using List.reverseRecOn with
  | nil => rfl
  | append_singleton directory name ih =>
      rw [candidates_concat, List.length_append, ih, List.length_append, List.length_singleton]
      change 2 + _ = _
      omega

/-! ### One directory -/

/-- There is nothing in a directory under either name. -/
def HasNone (files : Files) (directory : Place) : Prop :=
  ∀ name ∈ configNames, files.holds (directory ++ [name]) = false

/-- What is taken in a directory: there is something under the name, and under the name before it there is nothing. -/
structure Prefers (files : Files) (directory : Place) (name : String) : Prop where
  named : name ∈ configNames
  held : files.holds (directory ++ [name]) = true
  before : name ≠ "vaultref.yaml" → files.holds (directory ++ ["vaultref.yaml"]) = false

theorem find?_places_eq_none_iff {directory : Place} :
    (places directory).find? files.holds = none ↔ HasNone files directory := by
  simp only [places, List.find?_eq_none, List.forall_mem_map, Bool.not_eq_true, HasNone]

theorem find?_places_eq_some_iff {directory file : Place} :
    (places directory).find? files.holds = some file ↔ ∃ name, Prefers files directory name ∧ directory ++ [name] = file := by
  have hplaces : places directory = [directory ++ ["vaultref.yaml"], directory ++ ["vaultref.yml"]] := rfl
  rw [hplaces]
  cases hyaml : files.holds (directory ++ ["vaultref.yaml"]) with
  | true =>
      rw [List.find?_cons_of_pos hyaml, Option.some.injEq]
      constructor
      · rintro rfl
        exact ⟨"vaultref.yaml", ⟨by decide, hyaml, fun hne => absurd rfl hne⟩, rfl⟩
      · rintro ⟨name, h, rfl⟩
        by_cases hname : name = "vaultref.yaml"
        · rw [hname]
        · rw [h.before hname] at hyaml
          cases hyaml
  | false =>
      rw [List.find?_cons_of_neg (by simp [hyaml]), List.find?_singleton]
      constructor
      · intro h
        obtain ⟨hyml, hfile⟩ := Option.ite_none_right_eq_some.1 h
        exact ⟨"vaultref.yml", ⟨by decide, hyml, fun _ => hyaml⟩, Option.some.inj hfile⟩
      · rintro ⟨name, h, rfl⟩
        rcases List.mem_pair.1 h.named with rfl | rfl
        · rw [h.held] at hyaml
          cases hyaml
        · rw [if_pos h.held]

/-! ### The directories up from the start -/

/-- The directory and the name where the search from a start ends. -/
structure IsNearest (files : Files) (start directory : Place) (name : String) : Prop where
  around : directory <+: start
  prefers : Prefers files directory name
  first : ∀ nearer, directory <+: nearer → nearer <+: start → nearer ≠ directory → HasNone files nearer

theorem isNearest_nil {directory : Place} {name : String} :
    IsNearest files [] directory name ↔ directory = [] ∧ Prefers files directory name := by
  constructor
  · intro h
    exact ⟨List.prefix_nil.1 h.around, h.prefers⟩
  · rintro ⟨rfl, h⟩
    exact ⟨List.prefix_rfl, h, fun nearer _ hstart hne => absurd (List.prefix_nil.1 hstart) hne⟩

/-- The search ends in the start, or else it goes on from the directory around that. -/
theorem isNearest_concat {place directory : Place} {last name : String} :
    IsNearest files (place ++ [last]) directory name ↔
      directory = place ++ [last] ∧ Prefers files directory name ∨
        HasNone files (place ++ [last]) ∧ IsNearest files place directory name := by
  constructor
  · intro h
    rcases List.prefix_concat_iff.1 h.around with rfl | hplace
    · exact .inl ⟨rfl, h.prefers⟩
    · have hne : place ++ [last] ≠ directory := by
        rintro rfl
        have hlength := hplace.length_le
        rw [List.length_append, List.length_singleton] at hlength
        omega
      refine .inr ⟨h.first _ h.around List.prefix_rfl hne, hplace, h.prefers, fun nearer hdirectory hnearer => ?_⟩
      exact h.first nearer hdirectory (hnearer.trans (List.prefix_append _ _))
  · rintro (⟨rfl, h⟩ | ⟨hnone, h⟩)
    · refine ⟨List.prefix_rfl, h, fun nearer hdirectory hstart hne => absurd ?_ hne⟩
      exact hstart.eq_of_length_le hdirectory.length_le
    · refine ⟨h.around.trans (List.prefix_append _ _), h.prefers, fun nearer hdirectory hstart hne => ?_⟩
      rcases List.prefix_concat_iff.1 hstart with rfl | hplace
      · exact hnone
      · exact h.first nearer hdirectory hplace hne

theorem find?_candidates_eq_some_iff {start file : Place} :
    (candidates start).find? files.holds = some file ↔
      ∃ directory name, IsNearest files start directory name ∧ directory ++ [name] = file := by
  induction start using List.reverseRecOn with
  | nil =>
      rw [candidates_nil, find?_places_eq_some_iff]
      simp only [isNearest_nil, and_assoc, exists_and_left, exists_eq_left]
  | append_singleton place last ih =>
      rw [candidates_concat, List.find?_append, Option.or_eq_some_iff, find?_places_eq_some_iff,
        find?_places_eq_none_iff, ih]
      simp only [isNearest_concat, or_and_right, exists_or, and_assoc, exists_and_left, exists_eq_left]

theorem find?_candidates_eq_none_iff {start : Place} :
    (candidates start).find? files.holds = none ↔ ∀ directory, directory <+: start → HasNone files directory := by
  rw [List.find?_eq_none]
  simp only [mem_candidates_iff, Bool.not_eq_true]
  constructor
  · intro h directory hdirectory name hname
    exact h _ ⟨directory, name, hdirectory, hname, rfl⟩
  · rintro h file ⟨directory, name, hdirectory, hname, rfl⟩
    exact h directory hdirectory name hname

theorem IsNearest.unique {start directory other : Place} {name otherName : String}
    (h : IsNearest files start directory name) (hother : IsNearest files start other otherName) :
    directory = other ∧ name = otherName := by
  have hfind := find?_candidates_eq_some_iff.2 ⟨directory, name, h, rfl⟩
  rw [find?_candidates_eq_some_iff.2 ⟨other, otherName, hother, rfl⟩] at hfind
  obtain ⟨hdirectory, hname⟩ := List.append_inj' (Option.some.inj hfind) rfl
  exact ⟨hdirectory.symm, (List.singleton_injective hname).symm⟩

/-! ### What is found there -/

theorem nearest_eq (files : Files) (start : Place) :
    nearest files start =
      ((candidates start).find? files.holds).elim (.ok none) fun file =>
        (taken none (files.pathOf file, files.readAt file)).map some := by
  rw [nearest, findSome?_inspect]
  cases (candidates start).find? files.holds with
  | none => rfl
  | some file =>
      rw [Option.map_some, Option.elim_some]
      cases taken none (files.pathOf file, files.readAt file) <;> rfl

theorem nearest_of_isNearest {start directory : Place} {name : String} (h : IsNearest files start directory name) :
    nearest files start =
      (taken none (files.pathOf (directory ++ [name]), files.readAt (directory ++ [name]))).map some := by
  rw [nearest_eq, find?_candidates_eq_some_iff.2 ⟨directory, name, h, rfl⟩, Option.elim_some]

theorem nearest_eq_none_iff {start : Place} :
    nearest files start = .ok none ↔ ∀ directory, directory <+: start → HasNone files directory := by
  rw [← find?_candidates_eq_none_iff, nearest_eq]
  cases (candidates start).find? files.holds with
  | none => simp
  | some file => cases h : files.readAt file <;> simp [taken, h, Except.map]

theorem isNearest_cases (files : Files) (start : Place) :
    (∀ directory, directory <+: start → HasNone files directory) ∨ ∃ directory name, IsNearest files start directory name := by
  cases hfind : (candidates start).find? files.holds with
  | none => exact .inl (find?_candidates_eq_none_iff.1 hfind)
  | some file =>
      obtain ⟨directory, name, h, -⟩ := find?_candidates_eq_some_iff.1 hfind
      exact .inr ⟨directory, name, h⟩

theorem map_taken_eq_ok_iff {path : String} {read : Except ReadFault String} {found : String × String} :
    (taken none (path, read)).map some = .ok (some found) ↔ path = found.1 ∧ read = .ok found.2 := by
  cases read with
  | error fault => simp [taken, Except.map]
  | ok text => simp [taken, Except.map, Prod.ext_iff]

theorem map_taken_eq_error_iff {path : String} {read : Except ReadFault String} {error : Error} :
    (taken none (path, read)).map some = .error error ↔ ∃ fault, read = .error fault ∧ .io fault.reason = error := by
  cases read <;> simp [taken, Except.map]

theorem nearest_eq_some_iff {start : Place} {found : String × String} :
    nearest files start = .ok (some found) ↔
      ∃ directory name, IsNearest files start directory name ∧ files.pathOf (directory ++ [name]) = found.1 ∧
        files.readAt (directory ++ [name]) = .ok found.2 := by
  constructor
  · intro hfound
    rcases isNearest_cases files start with hnone | ⟨directory, name, h⟩
    · rw [nearest_eq_none_iff.2 hnone] at hfound
      cases hfound
    · rw [nearest_of_isNearest h] at hfound
      exact ⟨directory, name, h, map_taken_eq_ok_iff.1 hfound⟩
  · rintro ⟨directory, name, h, hread⟩
    rw [nearest_of_isNearest h]
    exact map_taken_eq_ok_iff.2 hread

theorem nearest_eq_error_iff {start : Place} {error : Error} :
    nearest files start = .error error ↔
      ∃ directory name fault, IsNearest files start directory name ∧ files.readAt (directory ++ [name]) = .error fault ∧
        .io fault.reason = error := by
  constructor
  · intro herror
    rcases isNearest_cases files start with hnone | ⟨directory, name, h⟩
    · rw [nearest_eq_none_iff.2 hnone] at herror
      cases herror
    · rw [nearest_of_isNearest h] at herror
      obtain ⟨fault, hread⟩ := map_taken_eq_error_iff.1 herror
      exact ⟨directory, name, fault, h, hread⟩
  · rintro ⟨directory, name, fault, h, hread⟩
    rw [nearest_of_isNearest h]
    exact map_taken_eq_error_iff.2 ⟨fault, hread⟩

/-- Only what is in a directory tells what is taken there. -/
theorem IsNearest.congr {others : Files} {start directory : Place} {name : String}
    (h : IsNearest files start directory name)
    (hread : ∀ file, directory <+: file → others.readAt file = files.readAt file) :
    IsNearest others start directory name := by
  have hholds {file : Place} (hfile : directory <+: file) : others.holds file = files.holds file := by
    rw [Files.holds, Files.holds, hread file hfile]
  refine ⟨h.around, ⟨h.prefers.named, ?_, fun hne => ?_⟩, fun nearer hdirectory hstart hne other hother => ?_⟩
  · rw [hholds (List.prefix_append _ _), h.prefers.held]
  · rw [hholds (List.prefix_append _ _), h.prefers.before hne]
  · rw [hholds (hdirectory.trans (List.prefix_append _ _)), h.first nearer hdirectory hstart hne other hother]

theorem nearest_congr {others : Files} {start directory : Place} {name : String}
    (h : IsNearest files start directory name) (htop : others.top = files.top)
    (hread : ∀ file, directory <+: file → others.readAt file = files.readAt file) :
    nearest others start = nearest files start := by
  rw [nearest_of_isNearest h, nearest_of_isNearest (h.congr hread), hread _ (List.prefix_append _ _), Files.pathOf,
    Files.pathOf, htop]

/-! ### Directory trees -/

theorem readAt_files (tree : FileTree) (workingDirectory file : Place) :
    (tree.files workingDirectory).readAt file = (tree.entry? file).elim (.error .notFound) FileTree.textOf := by
  dsimp only [FileTree.files]
  cases tree.entry? file <;> rfl

theorem textOf_eq_ok_iff {entry : Entry} {text : String} :
    FileTree.textOf entry = .ok text ↔ ∃ bytes, entry = .file bytes ∧ String.fromUTF8? ⟨bytes.toArray⟩ = some text := by
  cases entry with
  | directory => simp [FileTree.textOf]
  | file bytes =>
      rw [FileTree.textOf]
      cases h : String.fromUTF8? ⟨bytes.toArray⟩ <;> simp [h]

theorem readAt_files_eq_ok_iff {tree : FileTree} {workingDirectory file : Place} {text : String} :
    (tree.files workingDirectory).readAt file = .ok text ↔
      ∃ bytes, tree.entry? file = some (.file bytes) ∧ String.fromUTF8? ⟨bytes.toArray⟩ = some text := by
  rw [readAt_files]
  cases tree.entry? file with
  | none => simp
  | some entry =>
      rw [Option.elim_some, textOf_eq_ok_iff]
      simp only [Option.some.injEq]

/-- In a tree there is something at a place just when it has an entry there, a directory among them. -/
theorem holds_files (tree : FileTree) (workingDirectory file : Place) :
    (tree.files workingDirectory).holds file = (tree.entry? file).isSome := by
  rw [Files.holds, readAt_files]
  rcases tree.entry? file with _ | _ | bytes
  · rfl
  · rfl
  · rw [Option.elim_some, FileTree.textOf]
    cases String.fromUTF8? ⟨bytes.toArray⟩ <;> rfl

/-- What the search for a configuration file comes to. -/
structure SearchesUpward (files : Files) (start : Place) : Prop where
  /-- There is an end to it: two places are looked at for each directory. -/
  ends : (candidates start).length = 2 * (start.length + 1)
  /-- What is found is in the nearest directory that has anything, under the first name that is there. -/
  finds (path text : String) : nearest files start = .ok (some (path, text)) ↔
    ∃ directory name, IsNearest files start directory name ∧ files.pathOf (directory ++ [name]) = path ∧
      files.readAt (directory ++ [name]) = .ok text
  /-- If that cannot be read, nothing else is taken in its place. -/
  fails (error : Error) : nearest files start = .error error ↔
    ∃ directory name fault, IsNearest files start directory name ∧ files.readAt (directory ++ [name]) = .error fault ∧
      .io fault.reason = error
  findsNothing : nearest files start = .ok none ↔
    ∀ directory, directory <+: start → ∀ name ∈ configNames, files.holds (directory ++ [name]) = false
  unique (directory other : Place) (name otherName : String) : IsNearest files start directory name →
    IsNearest files start other otherName → directory = other ∧ name = otherName
  /-- Whatever is added, changed or removed further up, or aside, the answer stays. -/
  unmoved (others : Files) (directory : Place) (name : String) : IsNearest files start directory name →
    others.top = files.top → (∀ file, directory <+: file → others.readAt file = files.readAt file) →
    nearest others start = nearest files start
  /-- In a directory tree, entries are there, and those that can be read are the files in UTF-8. -/
  inTree (tree : FileTree) (workingDirectory : Place) : tree.files workingDirectory = files → ∀ file,
    files.holds file = (tree.entry? file).isSome ∧
      ∀ text, files.readAt file = .ok text ↔
        ∃ bytes, tree.entry? file = some (.file bytes) ∧ String.fromUTF8? ⟨bytes.toArray⟩ = some text

/-- **The search takes the nearest configuration file, and looks no further.** -/
theorem searchesUpward (files : Files) (start : Place) : SearchesUpward files start where
  ends := length_candidates start
  finds path text := nearest_eq_some_iff
  fails error := nearest_eq_error_iff
  findsNothing := nearest_eq_none_iff
  unique directory other name otherName h hother := h.unique hother
  unmoved others directory name h htop hread := nearest_congr h htop hread
  inTree tree workingDirectory htree file := by
    rw [← htree]
    exact ⟨holds_files tree workingDirectory file, fun text => readAt_files_eq_ok_iff⟩

/-- The second name in a nearer directory comes before the first name further up. -/
example : nearest ((FileTree.ofEntries "" [(["vaultref.yaml"], .file []), (["a", "vaultref.yml"], .directory),
      (["a", "b", "c"], .directory)]).files []) ["a", "b"] = .error (.io "Is a directory (os error 21)") := by
  decide +kernel

end SecretRefs.Config

import SecretRefs.Properties
import SecretRefs.Proofs.Text

/-! Lines of properties. The first equals sign of a line ends its key, so what stands behind an equals sign has no part
in the key. There is one class of names that are keys: such a name comes out as it is, with its value trimmed and
without quotes, and no line has another key. -/

namespace SecretRefs.Properties

open Text (isBlank trimChars)

theorem splitAtEquals_append {before : List Char} (h : '=' ∉ before) (after : List Char) :
    splitAtEquals (before ++ '=' :: after) = some (before, after) := by
  induction before with
  | nil => rfl
  | cons c before ih =>
      rw [List.cons_append, splitAtEquals, if_neg (List.ne_of_not_mem_cons h).symm, ih (List.not_mem_of_not_mem_cons h)]
      rfl

theorem splitAtEquals_eq_some_iff {cs before after : List Char} :
    splitAtEquals cs = some (before, after) ↔ cs = before ++ '=' :: after ∧ '=' ∉ before := by
  refine ⟨fun h => ?_, fun h => by rw [h.1, splitAtEquals_append h.2]⟩
  induction cs generalizing before with
  | nil => cases h
  | cons c cs ih =>
      rw [splitAtEquals] at h
      split at h
      · next hc =>
        cases h
        exact ⟨by rw [hc]; rfl, List.not_mem_nil⟩
      · next hc =>
        obtain ⟨⟨before', after'⟩, hsplit, hcons⟩ := Option.map_eq_some_iff.1 h
        cases hcons
        obtain ⟨hcs, hbefore⟩ := ih hsplit
        exact ⟨by rw [hcs]; rfl, List.not_mem_cons_of_ne_of_not_mem (Ne.symm hc) hbefore⟩

theorem length_lt_of_splitAtEquals {cs before after : List Char} (h : splitAtEquals cs = some (before, after)) :
    before.length < cs.length := by
  obtain ⟨rfl, -⟩ := splitAtEquals_eq_some_iff.1 h
  rw [List.length_append, List.length_cons]
  omega

/-- The first equals sign is not behind another one. -/
theorem length_le_of_splitAtEquals {lead more before after : List Char}
    (h : splitAtEquals (lead ++ '=' :: more) = some (before, after)) : before.length ≤ lead.length := by
  obtain ⟨heq, hbefore⟩ := splitAtEquals_eq_some_iff.1 h
  obtain ⟨between, rfl, hrest⟩ | ⟨between, rfl, -⟩ := List.append_eq_append_iff.1 heq
  · rcases between with _ | ⟨c, between⟩
    · exact Nat.le_of_eq (by rw [List.append_nil])
    · obtain rfl := (List.cons.inj hrest).1
      exact absurd (List.mem_append_right _ List.mem_cons_self) hbefore
  · rw [List.length_append]
    exact Nat.le_add_right _ _

theorem map_fst_splitAtEquals (lead after : List Char) :
    (splitAtEquals (lead ++ '=' :: after)).map Prod.fst = some (lead.takeWhile (· ≠ '=')) := by
  induction lead with
  | nil => rfl
  | cons c lead ih =>
      rw [List.cons_append, splitAtEquals]
      by_cases hc : c = '='
      · simp [hc]
      · have hcomp : (splitAtEquals (lead ++ '=' :: after)).map ((fun before => c :: before) ∘ Prod.fst) =
            some (c :: lead.takeWhile (· ≠ '=')) := by
          rw [← Option.map_map, ih, Option.map_some]
        rw [if_neg hc, Option.map_map, List.takeWhile_cons_of_pos (by simpa using hc)]
        exact hcomp

/-! ### The entry of a line -/

/-- The key that is written with this text; blanks alone are none. -/
def keyText? (before : List Char) : Option String :=
  if trimChars before = [] then none else some (String.ofList (trimChars before))

/-- The entry that a line holds. -/
def entryOf? (cs : List Char) : Option (String × String) := Line.entry? (Line.ofChars cs)

theorem entryOf?_eq (cs : List Char) :
    entryOf? cs =
      if (trimChars cs).head? = some '#' then none
      else (splitAtEquals (trimChars cs)).bind fun parts =>
        (keyText? parts.1).map fun key => (key, String.ofList (unquote (trimChars parts.2))) := by
  rw [entryOf?, Line.ofChars]
  cases trimChars cs with
  | nil => rfl
  | cons c line =>
      by_cases hc : c = '#'
      · simp [hc, Line.entry?]
      · cases splitAtEquals (c :: line) with
        | none => simp [hc, Line.entry?]
        | some parts => cases h : trimChars parts.1 <;> simp [hc, h, keyText?, Line.entry?]

theorem map_fst_entryOf?_eq (cs : List Char) :
    (entryOf? cs).map Prod.fst =
      if (trimChars cs).head? = some '#' then none
      else ((splitAtEquals (trimChars cs)).map Prod.fst).bind keyText? := by
  rw [entryOf?_eq]
  split
  · rfl
  · rw [Option.map_bind, Option.bind_map]
    congr 1
    funext parts
    rw [Function.comp_apply, Option.map_map]
    exact Option.map_id'

/-- The key of a line that begins with this text and an equals sign. -/
def keyOf? (lead : List Char) : Option String := (entryOf? (lead ++ ['='])).map Prod.fst

/-- The text behind the equals sign has no part in the key. -/
theorem map_fst_entryOf? (lead after : List Char) :
    (entryOf? (lead ++ '=' :: after)).map Prod.fst = keyOf? lead := by
  have hequals : isBlank '=' = false := by decide
  rw [keyOf?, map_fst_entryOf?_eq, map_fst_entryOf?_eq, Text.trimChars_append_cons hequals,
    Text.trimChars_append_cons hequals, map_fst_splitAtEquals, map_fst_splitAtEquals, List.head?_append,
    List.head?_append, List.head?_cons, List.head?_cons]

/-- A name that some line has as its key: no part of it is trimmed or taken for something else. -/
structure IsKey (name : String) : Prop where
  ne_empty : name ≠ ""
  first : ∀ c, name.toList.head? = some c → isBlank c = false ∧ c ≠ '#'
  last : ∀ c, name.toList.getLast? = some c → isBlank c = false
  letters : ∀ c ∈ name.toList, c ≠ '=' ∧ c ≠ '\n'

theorem isKey_iff {name : String} :
    IsKey name ↔ name ≠ "" ∧ (name.toList.head?.all fun c => !isBlank c && c ≠ '#') = true ∧
      (name.toList.getLast?.all fun c => !isBlank c) = true ∧
      (name.toList.all fun c => c ≠ '=' && c ≠ '\n') = true := by
  simp only [Option.all_eq_true, List.all_eq_true]
  constructor
  · rintro ⟨hne, hfirst, hlast, hletters⟩
    exact ⟨hne, by simpa using hfirst, by simpa using hlast, by simpa using hletters⟩
  · rintro ⟨hne, hfirst, hlast, hletters⟩
    exact ⟨hne, by simpa using hfirst, by simpa using hlast, by simpa using hletters⟩

instance (name : String) : Decidable (IsKey name) := decidable_of_iff _ isKey_iff.symm

theorem entryOf?_of_isKey {name : String} (h : IsKey name) (after : List Char) :
    entryOf? (name.toList ++ '=' :: after) =
      some (name, String.ofList (unquote (trimChars after))) := by
  have hequals : '=' ∉ name.toList := fun hmem => (h.letters _ hmem).1 rfl
  have hne : name.toList ≠ [] := by simpa using h.ne_empty
  have hfirst : ∀ c, name.toList.head? = some c → isBlank c = false := fun c hc => (h.first c hc).1
  have hdrop : name.toList.dropWhile isBlank = name.toList := Text.dropWhile_isBlank_eq_self hfirst
  have htrim : trimChars name.toList = name.toList := Text.trimChars_eq_self hfirst h.last
  have hstart : (name.toList ++ '=' :: after.rdropWhile isBlank).head? ≠ some '#' := by
    rw [List.head?_append_of_ne_nil _ hne]
    exact fun hhead => (h.first _ hhead).2 rfl
  rw [entryOf?_eq, Text.trimChars_append_cons (by decide), hdrop, if_neg hstart, splitAtEquals_append hequals,
    Option.bind_some]
  simp only [keyText?, htrim, if_neg hne, Text.trimChars_rdropWhile, String.ofList_toList, Option.map_some]

/-- A name that a line can begin with as it is: no part of it is trimmed, escaped or taken for something else. -/
structure IsBare (name : String) : Prop where
  ne_empty : name ≠ ""
  first : ∀ c, name.toList.head? = some c → isBlank c = false ∧ c ≠ '#'
  last : ∀ c, name.toList.getLast? = some c → isBlank c = false
  letters : ∀ c ∈ name.toList, c ≠ '=' ∧ c ≠ '\\' ∧ c ≠ '\n' ∧ c ≠ '\r' ∧ c ≠ '\t'

theorem IsBare.isKey {name : String} (h : IsBare name) : IsKey name where
  ne_empty := h.ne_empty
  first := h.first
  last := h.last
  letters c hc := ⟨(h.letters c hc).1, (h.letters c hc).2.2.1⟩

/-! ### Only such keys -/

theorem keyText?_eq_some {before : List Char} {key : String} (h : keyText? before = some key) :
    key.toList = trimChars before ∧ trimChars before ≠ [] := by
  rw [keyText?] at h
  split at h
  · cases h
  · next hne =>
    cases h
    exact ⟨String.toList_ofList, hne⟩

theorem mem_of_mem_unquote {cs : List Char} {c : Char} (h : c ∈ unquote cs) : c ∈ cs := by
  unfold unquote at h
  split at h
  · split at h
    · exact List.mem_cons_of_mem _ (List.dropLast_subset _ h)
    · exact h
  · exact h

theorem unquote_quoted {q : Char} (hq : q = '"' ∨ q = '\'') (value : List Char) :
    unquote (q :: (value ++ [q])) = value := by
  rw [unquote, if_pos ⟨hq, List.getLast?_concat⟩, List.dropLast_concat]

/-- The line has no blank in front, so it begins with its key. -/
theorem head?_trimChars_before {cs before after : List Char}
    (hsplit : splitAtEquals (trimChars cs) = some (before, after)) (hne : trimChars before ≠ []) :
    (trimChars before).head? = (trimChars cs).head? := by
  obtain ⟨hcs, -⟩ := splitAtEquals_eq_some_iff.1 hsplit
  cases before with
  | nil => exact absurd rfl hne
  | cons c before =>
      have hc : isBlank c = false := Text.isBlank_of_head?_trimChars (by rw [hcs]; rfl)
      have htrim : trimChars (c :: before) = c :: before.rdropWhile isBlank := Text.trimChars_append_cons hc [] before
      rw [htrim, hcs]
      rfl

theorem isKey_of_entryOf? {line : List Char} {key value : String} (hline : '\n' ∉ line)
    (h : entryOf? line = some (key, value)) : IsKey key ∧ '\n' ∉ value.toList := by
  rw [entryOf?_eq] at h
  split at h
  · cases h
  next hstart =>
  obtain ⟨⟨before, after⟩, hsplit, hentry⟩ := Option.bind_eq_some_iff.1 h
  obtain ⟨_, hkeyText, heq⟩ := Option.map_eq_some_iff.1 hentry
  cases heq
  obtain ⟨hkey, hne⟩ := keyText?_eq_some hkeyText
  obtain ⟨htrimmed, hequals⟩ := splitAtEquals_eq_some_iff.1 hsplit
  have hfeed : '\n' ∉ before ++ '=' :: after := fun hmem =>
    hline (Text.mem_of_mem_trimChars (htrimmed ▸ hmem))
  refine ⟨⟨?_, ?_, ?_, ?_⟩, ?_⟩
  · rintro rfl
    exact hne hkey.symm
  · intro c hc
    rw [hkey] at hc
    refine ⟨Text.isBlank_of_head?_trimChars hc, ?_⟩
    rintro rfl
    rw [head?_trimChars_before hsplit hne] at hc
    exact hstart hc
  · intro c hc
    rw [hkey] at hc
    exact Text.isBlank_of_getLast?_trimChars hc
  · intro c hc
    rw [hkey] at hc
    refine ⟨?_, ?_⟩
    · rintro rfl
      exact hequals (Text.mem_of_mem_trimChars hc)
    · rintro rfl
      exact hfeed (List.mem_append_left _ (Text.mem_of_mem_trimChars hc))
  · rw [String.toList_ofList]
    intro hmem
    have hafter : '\n' ∈ after := Text.mem_of_mem_trimChars (mem_of_mem_unquote hmem)
    exact hfeed (List.mem_append_right _ (List.mem_cons_of_mem _ hafter))

/-! ### Contents -/

theorem value_parse (content : String) : (parse content).value = mapping content := rfl

theorem mapping_eq (content : String) :
    mapping content = .ofList ((Text.splitLines content.toList).filterMap entryOf?) := by
  rw [mapping, lines, List.filterMap_map]
  rfl

end SecretRefs.Properties

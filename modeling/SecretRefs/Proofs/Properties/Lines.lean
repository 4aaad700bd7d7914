import SecretRefs.Proofs.Dict
import SecretRefs.Proofs.Properties

/-! Properties line by line. What a content holds is what its lines hold, the later ones counting for more, and a line
is read without its blanks, so a carriage return at its end is not seen. Quotes keep the blanks of a value: written
between two of them, every map is read back whose names are keys and whose values stay on their lines. -/

namespace SecretRefs.Properties

open Text (isBlank trimChars splitLines withReturns)

theorem Line.ofChars_trimChars (cs : List Char) : Line.ofChars (trimChars cs) = Line.ofChars cs := by
  rw [Line.ofChars, Text.trimChars_trimChars, Line.ofChars]

theorem lines_eq (content : String) : lines content = ((splitLines content.toList).map trimChars).map Line.ofChars := by
  rw [lines, List.map_map]
  apply List.map_congr_left
  intro cs _
  exact (Line.ofChars_trimChars cs).symm

/-- No line reaches across a line feed. -/
theorem lines_append (content more : String) : lines (content ++ "\n" ++ more) = lines content ++ lines more := by
  have htext : (content ++ "\n" ++ more).toList = content.toList ++ '\n' :: more.toList := by simp
  rw [lines, htext, Text.splitLines_append_feed, List.map_append]
  rfl

theorem lines_withReturns (content : String) :
    lines (String.ofList (withReturns content.toList)) = lines content := by
  calc lines (String.ofList (withReturns content.toList))
      = ((splitLines (withReturns content.toList)).map trimChars).map Line.ofChars := by
        rw [lines_eq, String.toList_ofList]
    _ = ((splitLines content.toList).map trimChars).map Line.ofChars := by
        rw [Text.map_trimChars_splitLines_withReturns]
    _ = lines content := (lines_eq content).symm

/-- The lines tell all, also what is logged of those that hold nothing. -/
theorem parse_congr {content other : String} (h : lines content = lines other) : parse content = parse other := by
  simp only [parse, mapping, h]

theorem mapping_append (content more : String) :
    mapping (content ++ "\n" ++ more) = (mapping content).overriddenBy (mapping more) := by
  rw [mapping, lines_append, List.filterMap_append, Dict.ofList_append]
  rfl

/-! ### What lines can tell -/

/-- A map with the names of keys and with values that have no line feed. -/
structure SingleLine (texts : Dict String String) : Prop where
  keys : ∀ key ∈ texts.keys, IsKey key
  values : ∀ value ∈ texts.values, '\n' ∉ value.toList

theorem isKey_of_get?_mapping {content key value : String} (h : (mapping content).get? key = some value) :
    IsKey key ∧ '\n' ∉ value.toList := by
  rw [mapping_eq, Dict.get?_ofList] at h
  obtain ⟨later, earlier, hentries, -⟩ := List.lookup_eq_some_iff.1 h
  have hmem : (key, value) ∈ (splitLines content.toList).filterMap entryOf? := by
    rw [← List.mem_reverse, hentries]
    exact List.mem_append_right _ List.mem_cons_self
  obtain ⟨line, hline, hentry⟩ := List.mem_filterMap.1 hmem
  exact isKey_of_entryOf? (Text.not_mem_of_mem_splitLines hline) hentry

theorem singleLine_mapping (content : String) : SingleLine (mapping content) where
  keys key hkey := by
    obtain ⟨value, hvalue⟩ := (Dict.mem_keys_iff _).1 hkey
    exact (isKey_of_get?_mapping hvalue).1
  values value hmem := by
    obtain ⟨key, hvalue⟩ := (Dict.mem_values_iff _).1 hmem
    exact (isKey_of_get?_mapping hvalue).2

/-! ### Values between quotes -/

def quotedLine (q : Char) (e : String × String) : List Char := e.1.toList ++ '=' :: q :: (e.2.toList ++ [q])

/-- Some entries, each on a line of its own with its value between two quotes. -/
def quotedText (q : Char) (entries : List (String × String)) : String :=
  String.ofList (entries.flatMap fun e => quotedLine q e ++ ['\n'])

section Quoted

variable {q : Char} (hq : q = '"' ∨ q = '\'')
include hq

/-- The quotes keep the value from being trimmed, and only they are taken from it. -/
theorem entryOf?_quotedLine {e : String × String} (hkey : IsKey e.1) : entryOf? (quotedLine q e) = some e := by
  have hblank : isBlank q = false := by rcases hq with rfl | rfl <;> decide
  have hlast : (q :: (e.2.toList ++ [q])).getLast? = some q := by
    rw [← List.cons_append, List.getLast?_concat]
  have htrim : trimChars (q :: (e.2.toList ++ [q])) = q :: (e.2.toList ++ [q]) := by
    apply Text.trimChars_eq_self
    · intro c hc
      obtain rfl : q = c := Option.some.inj hc
      exact hblank
    · intro c hc
      obtain rfl : q = c := Option.some.inj (hlast.symm.trans hc)
      exact hblank
  rw [quotedLine, entryOf?_of_isKey hkey, htrim, unquote_quoted hq, String.ofList_toList]

theorem not_mem_quotedLine {e : String × String} (hkey : IsKey e.1) (hvalue : '\n' ∉ e.2.toList) :
    '\n' ∉ quotedLine q e := by
  have hname : '\n' ∉ e.1.toList := fun hmem => (hkey.letters _ hmem).2 rfl
  rcases hq with rfl | rfl <;> simp [quotedLine, hname, hvalue]

theorem mapping_quotedText {entries : List (String × String)} (h : ∀ e ∈ entries, IsKey e.1 ∧ '\n' ∉ e.2.toList) :
    mapping (quotedText q entries) = .ofList entries := by
  have hentries : (splitLines (quotedText q entries).toList).filterMap entryOf? = entries := by
    rw [quotedText, String.toList_ofList]
    induction entries with
    | nil => rfl
    | cons e entries ih =>
        obtain ⟨⟨hkey, hvalue⟩, hrest⟩ := List.forall_mem_cons.1 h
        rw [List.flatMap_cons, List.append_assoc, List.singleton_append,
          Text.splitLines_append (not_mem_quotedLine hq hkey hvalue),
          List.filterMap_cons_some (entryOf?_quotedLine hq hkey), ih hrest]
  rw [mapping_eq, hentries]

theorem singleLine_ofList {entries : List (String × String)} (h : ∀ e ∈ entries, IsKey e.1 ∧ '\n' ∉ e.2.toList) :
    SingleLine (.ofList entries) := by
  rw [← mapping_quotedText hq h]
  exact singleLine_mapping _

/-- **Between quotes a map is written and read back**, in whatever order its entries come, if lines can tell it at all. -/
theorem parse_quotedText_iff {texts : Dict String String} {entries : List (String × String)}
    (horder : entries.Perm texts.entries) : (parse (quotedText q entries)).value = texts ↔ SingleLine texts := by
  rw [value_parse]
  constructor
  · intro h
    rw [← h]
    exact singleLine_mapping _
  · intro h
    have hentries : ∀ e ∈ entries, IsKey e.1 ∧ '\n' ∉ e.2.toList := by
      intro e he
      have hmem : e ∈ texts.entries := horder.mem_iff.1 he
      exact ⟨h.keys e.1 (List.mem_map_of_mem hmem), h.values e.2 (List.mem_map_of_mem hmem)⟩
    rw [mapping_quotedText hq hentries, Dict.ofList_of_perm horder]

end Quoted

/-- Names and values that are full of quotes and of what a line is parted by. -/
theorem parse_quotedText_awkward :
    let texts := Dict.ofList [("\"", "'"), ("a b", " x=#\r"), ("c'", ""), ("d", "\"")]
    ('\'' = '"' ∨ '\'' = '\'') ∧ texts.entries.reverse.Perm texts.entries ∧
      (parse (quotedText '\'' texts.entries.reverse)).value = texts :=
  ⟨.inr rfl, List.reverse_perm _,
    (parse_quotedText_iff (.inr rfl) (List.reverse_perm _)).2 (singleLine_ofList (.inr rfl) (by decide))⟩

/-- **A content is read line by line.** A later part overrides an earlier one, the kind of line ending does not matter,
and the keys are of one class, all of which occur. -/
theorem parse_line_by_line :
    (∀ content more, (parse (content ++ "\n" ++ more)).value = (parse content).value.overriddenBy (parse more).value) ∧
      (∀ content, parse (String.ofList (withReturns content.toList)) = parse content) ∧
      ∀ key, (∃ content, key ∈ (parse content).value.keys) ↔ IsKey key := by
  refine ⟨mapping_append, fun content => parse_congr (lines_withReturns content), fun key => ?_⟩
  constructor
  · rintro ⟨content, hkey⟩
    exact (singleLine_mapping content).keys key hkey
  · intro hkey
    -- a line of its own will do, with an empty value between quotes
    have hmapping : mapping (quotedText '"' [(key, "")]) = .ofList [(key, "")] :=
      mapping_quotedText (.inl rfl) (List.forall_mem_singleton.2 ⟨hkey, by simp⟩)
    refine ⟨quotedText '"' [(key, "")], ?_⟩
    rw [value_parse, hmapping, Dict.mem_keys_ofList]
    exact List.mem_singleton.2 rfl

end SecretRefs.Properties

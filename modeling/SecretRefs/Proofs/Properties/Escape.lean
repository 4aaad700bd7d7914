import SecretRefs.Proofs.Dict
import SecretRefs.Properties

/-! Escaped texts. They are the texts without a line break or a tab in which every backslash begins an escape, and of
each the decoder makes the one text that it is the escaped form of. -/

namespace SecretRefs.Properties

/-- The letters of the escapes, each with the character that its escape stands for. -/
def escapes : List (Char × Char) := [('\\', '\\'), ('n', '\n'), ('r', '\r'), ('t', '\t')]

/-- The text that is meant by a text with escapes. There is none if a backslash begins no escape. -/
def unescape? : List Char → Option (List Char)
  | [] => some []
  | c :: cs =>
    if c = '\\' then
      match cs with
      | [] => none
      | letter :: rest => (escapes.lookup letter).bind fun meant => (unescape? rest).map (meant :: ·)
    else (unescape? cs).map (c :: ·)

/-- Every backslash begins an escape when the text is read from left to right. -/
inductive BackslashesEscape : List Char → Prop
  | nil : BackslashesEscape []
  | letter {c : Char} {cs : List Char} : c ≠ '\\' → BackslashesEscape cs → BackslashesEscape (c :: cs)
  | escape {letter : Char} {cs : List Char} : letter ∈ ['\\', 'n', 'r', 't'] → BackslashesEscape cs →
      BackslashesEscape ('\\' :: letter :: cs)

/-- A text without the characters that would break its line, or a field of it. -/
def Unbroken (cs : List Char) : Prop := '\n' ∉ cs ∧ '\r' ∉ cs ∧ '\t' ∉ cs

theorem unbroken_append {cs cs' : List Char} : Unbroken (cs ++ cs') ↔ Unbroken cs ∧ Unbroken cs' := by
  simp only [Unbroken, List.mem_append, not_or]
  grind

theorem unbroken_cons {c : Char} {cs : List Char} : Unbroken (c :: cs) ↔ Unbroken [c] ∧ Unbroken cs := by
  rw [← List.singleton_append, unbroken_append]

theorem unescape?_cons {c : Char} (hc : c ≠ '\\') (cs : List Char) :
    unescape? (c :: cs) = (unescape? cs).map (c :: ·) := by
  cases cs <;> simp [unescape?, hc]

theorem unescape?_escape {letter meant : Char} (h : escapes.lookup letter = some meant) (cs : List Char) :
    unescape? ('\\' :: letter :: cs) = (unescape? cs).map (meant :: ·) := by
  rw [unescape?, if_pos rfl, h, Option.bind_some]

/-- A character is escaped by a backslash and its letter, or stands for itself. -/
theorem escapeChar_cases (c : Char) :
    (∃ letter, escapes.lookup letter = some c ∧ escapeChar c = ['\\', letter]) ∨
      escapeChar c = [c] ∧ c ≠ '\\' ∧ Unbroken [c] := by
  unfold escapeChar
  split
  · next h => exact .inl ⟨'\\', by rw [h]; rfl, rfl⟩
  split
  · next h => exact .inl ⟨'n', by rw [h]; rfl, rfl⟩
  split
  · next h => exact .inl ⟨'r', by rw [h]; rfl, rfl⟩
  split
  · next h => exact .inl ⟨'t', by rw [h]; rfl, rfl⟩
  · next hbackslash hfeed hreturn htab =>
    exact .inr ⟨rfl, hbackslash, by simp [Unbroken, Ne.symm hfeed, Ne.symm hreturn, Ne.symm htab]⟩

theorem mem_of_lookup_escapes {letter meant : Char} (h : escapes.lookup letter = some meant) :
    letter ∈ ['\\', 'n', 'r', 't'] := Dict.exists_lookup_eq_some_iff.1 ⟨meant, h⟩

theorem exists_lookup_escapes {letter : Char} (h : letter ∈ ['\\', 'n', 'r', 't']) :
    ∃ meant, escapes.lookup letter = some meant ∧ escapeChar meant = ['\\', letter] := by
  simp only [List.mem_cons, List.not_mem_nil, or_false] at h
  rcases h with rfl | rfl | rfl | rfl
  · exact ⟨'\\', rfl, rfl⟩
  · exact ⟨'\n', rfl, rfl⟩
  · exact ⟨'\r', rfl, rfl⟩
  · exact ⟨'\t', rfl, rfl⟩

theorem escapeChar_of_unbroken {c : Char} (hc : c ≠ '\\') (h : Unbroken [c]) : escapeChar c = [c] := by
  obtain ⟨hfeed, hreturn, htab⟩ := h
  rw [List.mem_singleton] at hfeed hreturn htab
  rw [escapeChar, if_neg hc, if_neg (Ne.symm hfeed), if_neg (Ne.symm hreturn), if_neg (Ne.symm htab)]

/-! ### From a text to its escaped form and back -/

theorem unbroken_flatMap_escapeChar (text : List Char) : Unbroken (text.flatMap escapeChar) := by
  induction text with
  | nil => simp [Unbroken]
  | cons c text ih =>
      rw [List.flatMap_cons, unbroken_append]
      refine ⟨?_, ih⟩
      rcases escapeChar_cases c with ⟨letter, hletter, h⟩ | ⟨h, -, hc⟩
      · rw [h]
        have hmem := mem_of_lookup_escapes hletter
        simp only [List.mem_cons, List.not_mem_nil, or_false] at hmem
        rcases hmem with rfl | rfl | rfl | rfl <;> simp [Unbroken]
      · rwa [h]

theorem backslashesEscape_flatMap_escapeChar (text : List Char) :
    BackslashesEscape (text.flatMap escapeChar) := by
  induction text with
  | nil => exact .nil
  | cons c text ih =>
      rw [List.flatMap_cons]
      rcases escapeChar_cases c with ⟨letter, hletter, h⟩ | ⟨h, hc, -⟩
      · rw [h]
        exact .escape (mem_of_lookup_escapes hletter) ih
      · rw [h]
        exact .letter hc ih

theorem unescape?_escapeChar_append (c : Char) (rest : List Char) :
    unescape? (escapeChar c ++ rest) = (unescape? rest).map (c :: ·) := by
  rcases escapeChar_cases c with ⟨letter, hletter, h⟩ | ⟨h, hc, -⟩
  · rw [h]
    exact unescape?_escape hletter rest
  · rw [h]
    exact unescape?_cons hc rest

/-- The decoder takes an escaped text from what it is put in front of. -/
theorem unescape?_flatMap_escapeChar_append (text rest : List Char) :
    unescape? (text.flatMap escapeChar ++ rest) = (unescape? rest).map (text ++ ·) := by
  induction text with
  | nil => exact Option.map_id'.symm
  | cons c text ih =>
      rw [List.flatMap_cons, List.append_assoc, unescape?_escapeChar_append, ih, Option.map_map]
      rfl

theorem unescape?_flatMap_escapeChar (text : List Char) :
    unescape? (text.flatMap escapeChar) = some text := by
  have happend := unescape?_flatMap_escapeChar_append text []
  rwa [List.append_nil, unescape?, Option.map_some, List.append_nil] at happend

/-- A text that looks like an escaped one is one. -/
theorem exists_unescape?_eq {cs : List Char} (h : BackslashesEscape cs) (hunbroken : Unbroken cs) :
    ∃ text, unescape? cs = some text ∧ text.flatMap escapeChar = cs := by
  induction h with
  | nil => exact ⟨[], rfl, rfl⟩
  | letter hc _ ih =>
      obtain ⟨hfirst, hrest⟩ := unbroken_cons.1 hunbroken
      obtain ⟨text, htext, heq⟩ := ih hrest
      refine ⟨_ :: text, by rw [unescape?_cons hc, htext]; rfl, ?_⟩
      rw [List.flatMap_cons, escapeChar_of_unbroken hc hfirst, heq]
      rfl
  | escape hletter _ ih =>
      have hrest := (unbroken_cons.1 (unbroken_cons.1 hunbroken).2).2
      obtain ⟨text, htext, heq⟩ := ih hrest
      obtain ⟨meant, hmeant, hescape⟩ := exists_lookup_escapes hletter
      refine ⟨meant :: text, by rw [unescape?_escape hmeant, htext]; rfl, ?_⟩
      rw [List.flatMap_cons, hescape, heq]
      rfl

/-- Escaping leaves a text that has nothing to escape. -/
theorem flatMap_escapeChar_of_unbroken {cs : List Char} (hbackslash : '\\' ∉ cs) (h : Unbroken cs) :
    cs.flatMap escapeChar = cs := by
  induction cs with
  | nil => rfl
  | cons c cs ih =>
      obtain ⟨hfirst, hrest⟩ := unbroken_cons.1 h
      rw [List.flatMap_cons, escapeChar_of_unbroken (List.ne_of_not_mem_cons hbackslash).symm hfirst,
        ih (List.not_mem_of_not_mem_cons hbackslash) hrest]
      rfl

@[simp] theorem toList_escape (text : String) : (escape text).toList = text.toList.flatMap escapeChar :=
  String.toList_ofList

end SecretRefs.Properties

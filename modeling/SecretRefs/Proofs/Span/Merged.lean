import SecretRefs.Span

/-! Lists of spans without regard to how their literal text is cut. Merging adjacent literals and dropping
empty ones changes neither the text of a list nor its references. Two lists that merge alike still do so
with the same spans in front of them. -/

namespace SecretRefs.Span

/-- The text that a list of spans stands for. -/
def rawText (ss : List Span) : String := String.join (ss.map raw)

@[simp] theorem rawText_nil : rawText [] = "" := String.join_nil

@[simp] theorem rawText_cons (s : Span) (ss : List Span) : rawText (s :: ss) = s.raw ++ rawText ss := by
  rw [rawText, List.map_cons, String.join_cons, rawText]

theorem rawText_append (ss ts : List Span) : rawText (ss ++ ts) = rawText ss ++ rawText ts := by
  rw [rawText, List.map_append, String.join_append, rawText, rawText]

/-- The keys of the references among some spans. -/
def keys (ss : List Span) : List String := ss.filterMap key?

@[simp] theorem keys_nil : keys [] = [] := rfl

@[simp] theorem keys_literal (text : String) (ss : List Span) : keys (literal text :: ss) = keys ss := rfl

@[simp] theorem keys_reference (key : String) (ss : List Span) :
    keys (reference key :: ss) = key :: keys ss := rfl

theorem keys_append (ss ts : List Span) : keys (ss ++ ts) = keys ss ++ keys ts := List.filterMap_append

/-- Puts a text in front, as part of the literal there if the list begins with one. -/
def prepend (text : String) : List Span → List Span
  | literal next :: rest => literal (text ++ next) :: rest
  | rest => literal text :: rest

theorem prepend_nil (text : String) : prepend text [] = [literal text] := rfl

theorem prepend_literal (text next : String) (rest : List Span) :
    prepend text (literal next :: rest) = literal (text ++ next) :: rest := rfl

theorem prepend_reference (text key : String) (rest : List Span) :
    prepend text (reference key :: rest) = literal text :: reference key :: rest := rfl

/-- Merges adjacent literals and drops empty ones. -/
def merged : List Span → List Span
  | [] => []
  | reference key :: rest => reference key :: merged rest
  | literal text :: rest => if text = "" then merged rest else prepend text (merged rest)

@[simp] theorem merged_nil : merged [] = [] := rfl

@[simp] theorem merged_reference (key : String) (ss : List Span) :
    merged (reference key :: ss) = reference key :: merged ss := rfl

@[simp] theorem merged_literal_empty (ss : List Span) : merged (literal "" :: ss) = merged ss := if_pos rfl

theorem merged_literal {text : String} (htext : text ≠ "") (ss : List Span) :
    merged (literal text :: ss) = prepend text (merged ss) := if_neg htext

theorem rawText_prepend (text : String) (ss : List Span) : rawText (prepend text ss) = text ++ rawText ss := by
  rcases ss with _ | ⟨_ | _, _⟩ <;> simp [prepend, raw, String.append_assoc]

theorem keys_prepend (text : String) (ss : List Span) : keys (prepend text ss) = keys ss := by
  rcases ss with _ | ⟨_ | _, _⟩ <;> rfl

theorem prepend_prepend (text next : String) (ss : List Span) :
    prepend text (prepend next ss) = prepend (text ++ next) ss := by
  rcases ss with _ | ⟨_ | _, _⟩ <;> simp [prepend, String.append_assoc]

@[simp] theorem rawText_merged (ss : List Span) : rawText (merged ss) = rawText ss := by
  induction ss with
  | nil => rfl
  | cons s ss ih =>
      cases s with
      | reference key => rw [merged_reference, rawText_cons, rawText_cons, ih]
      | literal text =>
          by_cases htext : text = ""
          · subst htext
            rw [merged_literal_empty, ih, rawText_cons, raw, String.empty_append]
          · rw [merged_literal htext, rawText_prepend, ih, rawText_cons, raw]

@[simp] theorem keys_merged (ss : List Span) : keys (merged ss) = keys ss := by
  induction ss with
  | nil => rfl
  | cons s ss ih =>
      cases s with
      | reference key => rw [merged_reference, keys_reference, keys_reference, ih]
      | literal text =>
          by_cases htext : text = ""
          · subst htext
            rw [merged_literal_empty, ih, keys_literal]
          · rw [merged_literal htext, keys_prepend, ih, keys_literal]

/-! ### Merging behind a common front -/

theorem merged_literal_append (text next : String) (ss : List Span) :
    merged (literal (text ++ next) :: ss) = merged (literal text :: literal next :: ss) := by
  by_cases htext : text = ""
  · subst htext
    rw [String.empty_append, merged_literal_empty]
  · by_cases hnext : next = ""
    · subst hnext
      rw [String.append_empty, merged_literal htext, merged_literal htext, merged_literal_empty]
    · have happend : text ++ next ≠ "" := by simp [htext]
      rw [merged_literal happend, merged_literal htext, merged_literal hnext, prepend_prepend]

theorem merged_cons_congr (s : Span) {ss ts : List Span} (h : merged ss = merged ts) :
    merged (s :: ss) = merged (s :: ts) := by
  cases s with
  | literal text => rw [merged, merged, h]
  | reference key => rw [merged, merged, h]

theorem merged_append_congr (front : List Span) {ss ts : List Span} (h : merged ss = merged ts) :
    merged (front ++ ss) = merged (front ++ ts) := by
  induction front with
  | nil => exact h
  | cons s front ih => exact merged_cons_congr s ih

/-- Nothing is merged across a reference. -/
theorem merged_append_reference (ss : List Span) (key : String) (ts : List Span) :
    merged (ss ++ reference key :: ts) = merged ss ++ reference key :: merged ts := by
  have hprepend : ∀ (text : String) (us : List Span),
      prepend text (us ++ reference key :: merged ts) = prepend text us ++ reference key :: merged ts := by
    intro text us
    rcases us with _ | ⟨_ | _, _⟩ <;> rfl
  induction ss with
  | nil => rfl
  | cons s ss ih =>
      cases s with
      | reference k => rw [List.cons_append, merged_reference, merged_reference, ih, List.cons_append]
      | literal text =>
          by_cases htext : text = ""
          · subst htext
            rw [List.cons_append, merged_literal_empty, merged_literal_empty, ih]
          · rw [List.cons_append, merged_literal htext, merged_literal htext, ih, hprepend]

theorem exists_prepend_concat_literal (text next : String) (front : List Span) :
    ∃ before last, prepend text (front ++ [literal next]) = before ++ [literal last] := by
  rcases front with _ | ⟨head | key, rest⟩
  · exact ⟨[], text ++ next, rfl⟩
  · exact ⟨literal (text ++ head) :: rest, next, rfl⟩
  · exact ⟨literal text :: reference key :: rest, next, rfl⟩

/-- Behind a literal that is not empty no reference comes out last. -/
theorem exists_merged_concat_literal (ss : List Span) {text : String} (htext : text ≠ "") :
    ∃ front last, merged (ss ++ [literal text]) = front ++ [literal last] := by
  induction ss with
  | nil => exact ⟨[], text, merged_literal htext []⟩
  | cons s ss ih =>
      obtain ⟨front, last, hlast⟩ := ih
      cases s with
      | reference key => exact ⟨reference key :: front, last, by rw [List.cons_append, merged_reference, hlast]; rfl⟩
      | literal next =>
          by_cases hnext : next = ""
          · subst hnext
            exact ⟨front, last, by rw [List.cons_append, merged_literal_empty, hlast]⟩
          · rw [List.cons_append, merged_literal hnext, hlast]
            exact exists_prepend_concat_literal next last front

/-- A text with a literal for each of its letters. -/
def letters (cs : List Char) : List Span := cs.map fun c => literal (String.singleton c)

@[simp] theorem letters_nil : letters [] = [] := rfl

theorem letters_cons (c : Char) (cs : List Char) :
    letters (c :: cs) = literal (String.singleton c) :: letters cs := rfl

theorem letters_append (cs ds : List Char) : letters (cs ++ ds) = letters cs ++ letters ds := List.map_append

theorem toList_rawText_letters (cs : List Char) : (rawText (letters cs)).toList = cs := by
  induction cs with
  | nil => rfl
  | cons c cs ih => rw [letters_cons, rawText_cons, String.toList_append, ih, raw, String.toList_singleton]; rfl

@[simp] theorem keys_letters (cs : List Char) : keys (letters cs) = [] := by
  induction cs with
  | nil => rfl
  | cons c cs ih => rw [letters_cons, keys_literal, ih]

theorem merged_letters_append (cs : List Char) (ss : List Span) :
    merged (letters cs ++ ss) = merged (literal (String.ofList cs) :: ss) := by
  induction cs with
  | nil => exact (merged_literal_empty ss).symm
  | cons c cs ih =>
      have hcons : String.ofList (c :: cs) = String.singleton c ++ String.ofList cs := by
        apply String.toList_injective
        simp
      rw [letters_cons, List.cons_append, merged_cons_congr _ ih, hcons, merged_literal_append]

end SecretRefs.Span

import SecretRefs.Text.Quoted

/-! What a quoted text tells. Between the quotes a character is spelled in one of three ways: by a letter behind a
backslash, by its code point, or as it is. No spelling begins another, so a quoted text ends where it ends, and a list
of quoted texts tells the texts. -/

namespace SecretRefs.Text

/-! ### Code points -/

theorem digitChar_inj : ∀ a < 16, ∀ b < 16, Nat.digitChar a = Nat.digitChar b → a = b := by decide

theorem digitChar_ne : ∀ d < 16, Nat.digitChar d ≠ '\x7d' := by decide

/-- The last digit comes off the end. -/
theorem hexDigits_eq (n : Nat) :
    hexDigits n = (if n < 16 then [] else hexDigits (n / 16)) ++ [Nat.digitChar (n % 16)] := by
  rw [hexDigits, Nat.toDigits_eq_if (by decide)]
  split
  · next h => rw [Nat.mod_eq_of_lt h, List.nil_append]
  · rfl

theorem hexDigits_ne_nil (n : Nat) : hexDigits n ≠ [] := by
  rw [hexDigits_eq]
  exact List.append_ne_nil_of_right_ne_nil _ (List.cons_ne_nil _ _)

theorem hexDigits_inj {n m : Nat} (h : hexDigits n = hexDigits m) : n = m := by
  induction n using Nat.strongRecOn generalizing m with
  | ind n ih =>
      rw [hexDigits_eq n, hexDigits_eq m] at h
      obtain ⟨hfirst, hlast⟩ := List.append_inj' h rfl
      have hmod : n % 16 = m % 16 :=
        digitChar_inj _ (Nat.mod_lt n (by decide)) _ (Nat.mod_lt m (by decide)) (List.cons.inj hlast).1
      split at hfirst <;> split at hfirst
      · omega
      · exact absurd hfirst.symm (hexDigits_ne_nil _)
      · exact absurd hfirst (hexDigits_ne_nil _)
      · have hdiv : n / 16 = m / 16 := ih (n / 16) (by omega) hfirst
        omega

theorem ne_of_mem_hexDigits {n : Nat} {c : Char} (h : c ∈ hexDigits n) : c ≠ '\x7d' := by
  induction n using Nat.strongRecOn with
  | ind n ih =>
      rw [hexDigits_eq, List.mem_append, List.mem_singleton] at h
      rcases h with h | rfl
      · split at h
        · cases h
        · exact ih (n / 16) (by omega) h
      · exact digitChar_ne _ (Nat.mod_lt n (by decide))

/-- The digits end at the brace. -/
theorem hexDigits_append_inj {n m : Nat} {rest rest' : List Char}
    (h : hexDigits n ++ '\x7d' :: rest = hexDigits m ++ '\x7d' :: rest') : n = m ∧ rest = rest' := by
  have htake (k : Nat) (l : List Char) : (hexDigits k ++ '\x7d' :: l).takeWhile (· ≠ '\x7d') = hexDigits k := by
    rw [List.takeWhile_append_of_pos fun c hc => decide_eq_true (ne_of_mem_hexDigits hc),
      List.takeWhile_cons_of_neg (by decide), List.append_nil]
  have hdigits : hexDigits n = hexDigits m := by rw [← htake n rest, h, htake]
  rw [hdigits] at h
  exact ⟨hexDigits_inj hdigits, (List.cons.inj (List.append_cancel_left h)).2⟩

/-! ### Characters -/

/-- The character that a letter behind a backslash stands for. -/
def spelledBy (letter : Char) : Char :=
  if letter = 'n' then '\n' else if letter = 'r' then '\r' else if letter = 't' then '\t'
  else if letter = '0' then '\x00' else letter

/-- The ways to spell a character. -/
inductive Spelling (c : Char) : List Char → Prop
  | letter (letter : Char) : letter ≠ 'u' → spelledBy letter = c → Spelling c ['\\', letter]
  | codePoint : Spelling c (['\\', 'u', '\x7b'] ++ hexDigits c.toNat ++ ['\x7d'])
  | plain : c ≠ '"' → c ≠ '\\' → Spelling c [c]

theorem spelling_quoteChar (c : Char) : Spelling c (quoteChar c) := by
  unfold quoteChar
  -- the six characters that have a letter
  iterate 6
    split
    · next hc =>
      subst hc
      exact .letter _ (by decide) (by decide)
  next hquote hslash _ _ _ _ =>
    split
    · exact .codePoint
    · exact .plain hquote hslash

/-- No spelling begins another. -/
theorem Spelling.append_inj {c d : Char} {spelled spelled' rest rest' : List Char} (hc : Spelling c spelled)
    (hd : Spelling d spelled') (h : spelled ++ rest = spelled' ++ rest') : c = d ∧ rest = rest' := by
  cases hc with
  | letter letter hne hletter =>
      cases hd with
      | letter other hne' hother =>
          simp only [List.cons_append, List.nil_append, List.cons.injEq, true_and] at h
          rw [← hletter, ← hother, h.1]
          exact ⟨rfl, h.2⟩
      | codePoint =>
          simp only [List.cons_append, List.cons.injEq, true_and] at h
          exact absurd h.1 hne
      | plain hquote hslash => exact absurd (List.cons.inj h).1.symm hslash
  | codePoint =>
      cases hd with
      | letter other hne' hother =>
          simp only [List.cons_append, List.cons.injEq, true_and] at h
          exact absurd h.1.symm hne'
      | codePoint =>
          simp only [List.cons_append, List.nil_append, List.append_assoc, List.cons.injEq, true_and] at h
          obtain ⟨hpoint, hrest⟩ := hexDigits_append_inj h
          exact ⟨Char.toNat_inj.1 hpoint, hrest⟩
      | plain hquote hslash => exact absurd (List.cons.inj h).1.symm hslash
  | plain hquote hslash =>
      cases hd with
      | letter other hne' hother => exact absurd (List.cons.inj h).1 hslash
      | codePoint => exact absurd (List.cons.inj h).1 hslash
      | plain => exact List.cons.inj h

/-- No spelling begins with the quote that ends a text. -/
theorem Spelling.ne_quote {c : Char} {spelled rest rest' : List Char} (hc : Spelling c spelled) :
    spelled ++ rest ≠ '"' :: rest' := by
  intro h
  cases hc with
  | letter => exact absurd (List.cons.inj h).1 (by decide)
  | codePoint => exact absurd (List.cons.inj h).1 (by decide)
  | plain hquote => exact hquote (List.cons.inj h).1

/-! ### Texts -/

theorem flatMap_quoteChar_append_inj {cs ds rest rest' : List Char}
    (h : cs.flatMap quoteChar ++ '"' :: rest = ds.flatMap quoteChar ++ '"' :: rest') : cs = ds ∧ rest = rest' := by
  induction cs generalizing ds with
  | nil =>
      cases ds with
      | nil => exact ⟨rfl, (List.cons.inj h).2⟩
      | cons d ds =>
          rw [List.flatMap_cons, List.append_assoc] at h
          exact absurd h.symm (spelling_quoteChar d).ne_quote
  | cons c cs ih =>
      rw [List.flatMap_cons, List.append_assoc] at h
      cases ds with
      | nil => exact absurd h (spelling_quoteChar c).ne_quote
      | cons d ds =>
          rw [List.flatMap_cons, List.append_assoc] at h
          obtain ⟨rfl, htail⟩ := (spelling_quoteChar c).append_inj (spelling_quoteChar d) h
          obtain ⟨rfl, hrest⟩ := ih htail
          exact ⟨rfl, hrest⟩

theorem toList_quoted_append (s : String) (rest : List Char) :
    (quoted s).toList ++ rest = '"' :: (s.toList.flatMap quoteChar ++ '"' :: rest) := by
  rw [quoted, String.toList_ofList, List.cons_append, List.cons_append, List.append_assoc]
  rfl

/-- A quoted text ends where it ends. -/
theorem quoted_append_inj {s t : String} {rest rest' : List Char}
    (h : (quoted s).toList ++ rest = (quoted t).toList ++ rest') : s = t ∧ rest = rest' := by
  rw [toList_quoted_append, toList_quoted_append] at h
  obtain ⟨htext, hrest⟩ := flatMap_quoteChar_append_inj (List.cons.inj h).2
  exact ⟨String.toList_inj.1 htext, hrest⟩

/-- What stands behind the first text of a list. -/
def listTail : List String → List Char
  | [] => [']']
  | text :: texts => ',' :: ' ' :: ((quoted text).toList ++ listTail texts)

theorem toList_intercalate_quoted (text : String) (texts : List String) :
    (String.intercalate ", " ((text :: texts).map quoted)).toList ++ [']'] = (quoted text).toList ++ listTail texts := by
  induction texts generalizing text with
  | nil => rw [List.map_singleton, String.intercalate_singleton, listTail]
  | cons next texts ih =>
      rw [List.map_cons, List.map_cons, String.intercalate_cons_cons, ← List.map_cons, String.toList_append,
        String.toList_append, List.append_assoc, ih, listTail, List.append_assoc]
      rfl

theorem toList_quotedList_cons (text : String) (texts : List String) :
    (quotedList (text :: texts)).toList = '[' :: ((quoted text).toList ++ listTail texts) := by
  rw [quotedList, String.toList_append, String.toList_append, List.append_assoc]
  exact congrArg (List.cons '[') (toList_intercalate_quoted text texts)

/-- Behind the bracket stands a quote where there is a text, and the other bracket where there is none. -/
theorem quotedList_cons_ne (text : String) (texts : List String) : quotedList (text :: texts) ≠ quotedList [] := by
  intro h
  have hlist := congrArg String.toList h
  rw [toList_quotedList_cons, toList_quoted_append, show (quotedList []).toList = ['[', ']'] by decide] at hlist
  exact absurd (List.cons.inj (List.cons.inj hlist).2).1 (by decide)

theorem listTail_inj {texts others : List String} (h : listTail texts = listTail others) : texts = others := by
  induction texts generalizing others with
  | nil =>
      cases others with
      | nil => rfl
      | cons other others => exact absurd (List.cons.inj h).1 (by decide)
  | cons text texts ih =>
      cases others with
      | nil => exact absurd (List.cons.inj h).1 (by decide)
      | cons other others =>
          obtain ⟨rfl, htail⟩ := quoted_append_inj (List.cons.inj (List.cons.inj h).2).2
          rw [ih htail]

/-- A list of quoted texts tells the texts. -/
theorem quotedList_inj {texts others : List String} (h : quotedList texts = quotedList others) : texts = others := by
  rcases texts with _ | ⟨text, texts⟩ <;> rcases others with _ | ⟨other, others⟩
  · rfl
  · exact absurd h.symm (quotedList_cons_ne other others)
  · exact absurd h (quotedList_cons_ne text texts)
  · have hlist := congrArg String.toList h
    rw [toList_quotedList_cons, toList_quotedList_cons] at hlist
    obtain ⟨rfl, htail⟩ := quoted_append_inj (List.cons.inj hlist).2
    rw [listTail_inj htail]

end SecretRefs.Text

import SecretRefs.Json.Reader

/-! Texts of JSON values. The reader takes a string from its text again, whatever stands behind it. So a string ends
where it ends, and with the brackets around items and members the text of a value made of strings tells the value. -/

namespace SecretRefs.Json

/-! ### Strings -/

theorem hexValue?_hexDigit : ∀ n < 0x20, hexValue? ['0', '0', hexDigit (n / 16), hexDigit (n % 16)] = some n := by
  decide

theorem readChars_escapeChar (c : Char) (cs : List Char) :
    readChars (escapeChar c ++ cs) = consChar c (readChars cs) := by
  unfold escapeChar
  -- the seven characters that have an escape of their own
  iterate 7
    split
    · next hc => subst hc; rfl
  next hquote hslash _ _ _ _ _ =>
    split
    · next hc =>
      have hvalue := hexValue?_hexDigit c.toNat hc
      have hlow : isLowSurrogate c.toNat = false := by simp [isLowSurrogate]; omega
      have hhigh : isHighSurrogate c.toNat = false := by simp [isHighSurrogate]; omega
      simp only [List.cons_append, List.nil_append, readChars, hvalue, hlow, hhigh, Char.ofNat_toNat]
      rfl
    · next hc =>
      rw [List.singleton_append, readChars]
      · rw [if_neg hc]
      · exact hquote
      all_goals intros; exact absurd ‹_› hslash

/-- A string is read back from its text. -/
theorem readChars_flatMap_escapeChar (cs rest : List Char) :
    readChars (cs.flatMap escapeChar ++ '"' :: rest) = .ok (cs, rest) := by
  induction cs with
  | nil => rfl
  | cons c cs ih =>
      rw [List.flatMap_cons, List.append_assoc, readChars_escapeChar, ih]
      rfl

theorem toList_quote_append (s : String) (rest : List Char) :
    (quote s).toList ++ rest = '"' :: (s.toList.flatMap escapeChar ++ '"' :: rest) := by
  rw [quote, String.toList_ofList, List.cons_append, List.cons_append, List.append_assoc]
  rfl

theorem quote_append_inj {s t : String} {rest rest' : List Char}
    (h : (quote s).toList ++ rest = (quote t).toList ++ rest') : s = t ∧ rest = rest' := by
  rw [toList_quote_append, toList_quote_append] at h
  have hread := readChars_flatMap_escapeChar s.toList rest
  rw [(List.cons.inj h).2, readChars_flatMap_escapeChar] at hread
  obtain ⟨htext, hrest⟩ := Prod.mk.inj (Except.ok.inj hread)
  exact ⟨(String.toList_inj.1 htext).symm, hrest.symm⟩

/-! ### Brackets -/

namespace Value

theorem toList_lineStart (depth : Nat) : (lineStart depth).toList = '\n' :: List.replicate (2 * depth) ' ' := by
  rw [lineStart, String.toList_append, String.toList_ofList, String.toList_ofList]
  rfl

/-- The text of a block behind its first part. -/
def blockTail (closing : String) (depth : Nat) (parts : List String) (rest : List Char) : List Char :=
  match parts with
  | [] => (lineStart depth).toList ++ closing.toList ++ rest
  | part :: parts => ',' :: (lineStart (depth + 1)).toList ++ part.toList ++ blockTail closing depth parts rest

theorem toList_intercalate_lines (closing : String) (depth : Nat) (part : String) (parts : List String)
    (rest : List Char) :
    (String.intercalate "," ((part :: parts).map (lineStart (depth + 1) ++ ·))).toList ++
        ((lineStart depth).toList ++ closing.toList ++ rest) =
      (lineStart (depth + 1)).toList ++ part.toList ++ blockTail closing depth parts rest := by
  induction parts generalizing part with
  | nil => rw [List.map_singleton, String.intercalate_singleton, String.toList_append, blockTail]
  | cons next parts ih =>
      rw [List.map_cons, List.map_cons, String.intercalate_cons_cons, ← List.map_cons, String.toList_append,
        String.toList_append, List.append_assoc, ih, blockTail, String.toList_append]
      simp only [List.append_assoc, List.cons_append]
      rfl

theorem toList_block_nil (opening closing : String) (depth : Nat) (rest : List Char) :
    (block opening closing depth []).toList ++ rest = opening.toList ++ (closing.toList ++ rest) := by
  rw [block, List.isEmpty_nil, if_pos rfl, String.toList_append, List.append_assoc]

theorem toList_block_cons (opening closing : String) (depth : Nat) (part : String) (parts : List String)
    (rest : List Char) :
    (block opening closing depth (part :: parts)).toList ++ rest =
      opening.toList ++
        ((lineStart (depth + 1)).toList ++ part.toList ++ blockTail closing depth parts rest) := by
  rw [block, List.isEmpty_cons, if_neg Bool.false_ne_true, ← toList_intercalate_lines]
  simp only [String.toList_append, List.append_assoc]

/-- Only texts of the same thing can be at the front of one text. -/
def Separates {α : Type} (text : α → String) (a b : α) : Prop :=
  ∀ rest rest' : List Char, (text a).toList ++ rest = (text b).toList ++ rest' → a = b ∧ rest = rest'

section Block

variable {α : Type} {text : α → String} {opening closing : String} {depth : Nat} {as bs : List α}
  {rest rest' : List Char}

theorem blockTail_inj (hseparates : ∀ a ∈ as, ∀ b ∈ bs, Separates text a b)
    (h : blockTail closing depth (as.map text) rest = blockTail closing depth (bs.map text) rest') :
    as = bs ∧ rest = rest' := by
  induction as generalizing bs with
  | nil =>
      rcases bs with _ | ⟨b, bs⟩
      · exact ⟨rfl, List.append_cancel_left h⟩
      · rw [List.map_nil, List.map_cons, blockTail, blockTail, toList_lineStart] at h
        exact absurd (List.cons.inj h).1 (by decide)
  | cons a as ih =>
      rcases bs with _ | ⟨b, bs⟩
      · rw [List.map_nil, List.map_cons, blockTail, blockTail, toList_lineStart depth] at h
        exact absurd (List.cons.inj h).1 (by decide)
      · rw [List.map_cons, List.map_cons, blockTail, blockTail, List.append_assoc, List.append_assoc,
          List.append_cancel_left_eq] at h
        obtain ⟨rfl, htail⟩ := hseparates a List.mem_cons_self b List.mem_cons_self _ _ h
        obtain ⟨rfl, hrest⟩ := ih (fun a ha b hb =>
          hseparates a (List.mem_cons_of_mem _ ha) b (List.mem_cons_of_mem _ hb)) htail
        exact ⟨rfl, hrest⟩

/-- A block is told by its parts, if the closing bracket does not begin as a line does. -/
theorem separates_block {c : Char} (hclosing : closing.toList = [c]) (hc : c ≠ '\n')
    (hseparates : ∀ a ∈ as, ∀ b ∈ bs, Separates text a b) :
    Separates (fun as => block opening closing depth (as.map text)) as bs := by
  intro rest rest' h
  dsimp only at h
  rcases as with _ | ⟨a, as⟩ <;> rcases bs with _ | ⟨b, bs⟩
  · exact ⟨rfl, List.append_cancel_left h⟩
  · rw [List.map_nil, List.map_cons, toList_block_nil, toList_block_cons, List.append_cancel_left_eq, hclosing,
      toList_lineStart] at h
    exact absurd (List.cons.inj h).1 hc
  · rw [List.map_nil, List.map_cons, toList_block_nil, toList_block_cons, List.append_cancel_left_eq, hclosing,
      toList_lineStart] at h
    exact absurd (List.cons.inj h).1.symm hc
  · rw [List.map_cons, List.map_cons, toList_block_cons, toList_block_cons, List.append_cancel_left_eq,
      List.append_assoc, List.append_assoc, List.append_cancel_left_eq] at h
    obtain ⟨rfl, htail⟩ := hseparates a List.mem_cons_self b List.mem_cons_self _ _ h
    obtain ⟨rfl, hrest⟩ := blockTail_inj (fun a ha b hb =>
      hseparates a (List.mem_cons_of_mem _ ha) b (List.mem_cons_of_mem _ hb)) htail
    exact ⟨rfl, hrest⟩

end Block

/-! ### Values -/

/-- A value that is made of strings. -/
inductive IsTextual : Value → Prop
  | string (s : String) : IsTextual (.string s)
  | array {items : List Value} (h : ∀ v ∈ items, IsTextual v) : IsTextual (.array items)
  | object {members : List (String × Value)} (h : ∀ m ∈ members, IsTextual m.2) : IsTextual (.object members)

theorem prettyItems_eq (depth : Nat) (items : List Value) : prettyItems depth items = items.map (prettyAt depth) := by
  induction items with
  | nil => rw [prettyItems, List.map_nil]
  | cons v items ih => rw [prettyItems, ih, List.map_cons]

def prettyMember (depth : Nat) (m : String × Value) : String := quote m.1 ++ ": " ++ prettyAt depth m.2

theorem prettyMembers_eq (depth : Nat) (members : List (String × Value)) :
    prettyMembers depth members = members.map (prettyMember depth) := by
  induction members with
  | nil => rw [prettyMembers, List.map_nil]
  | cons m members ih => rw [prettyMembers, ih, List.map_cons, prettyMember]

theorem separates_prettyMember {depth : Nat} {m n : String × Value} (h : Separates (prettyAt depth) m.2 n.2) :
    Separates (prettyMember depth) m n := by
  intro rest rest' heq
  simp only [prettyMember, String.toList_append, List.append_assoc] at heq
  obtain ⟨hname, hvalue⟩ := quote_append_inj heq
  obtain ⟨hvalue, hrest⟩ := h _ _ (List.append_cancel_left hvalue)
  exact ⟨Prod.ext hname hvalue, hrest⟩

/-- What the text of a value that is made of strings begins with. -/
def front? : Value → Option Char
  | string _ => some '"'
  | array _ => some '['
  | object _ => some '\x7b'
  | null | bool _ | number _ => none

theorem head?_block_append (opening closing : String) (depth : Nat) (parts : List String) (rest : List Char)
    {c : Char} (hopening : opening.toList = [c]) :
    ((block opening closing depth parts).toList ++ rest).head? = some c := by
  rcases parts with _ | ⟨part, parts⟩
  · rw [toList_block_nil, hopening]
    rfl
  · rw [toList_block_cons, hopening]
    rfl

theorem IsTextual.head?_prettyAt_append {v : Value} (hv : v.IsTextual) (depth : Nat) (rest : List Char) :
    ((prettyAt depth v).toList ++ rest).head? = front? v := by
  cases hv with
  | string s => rw [prettyAt, toList_quote_append]; rfl
  | array h => rw [prettyAt, head?_block_append _ _ _ _ _ rfl]; rfl
  | object h => rw [prettyAt, head?_block_append _ _ _ _ _ rfl]; rfl

theorem front?_eq {v w : Value} (hv : v.IsTextual) (hw : w.IsTextual) {depth : Nat} {rest rest' : List Char}
    (h : (prettyAt depth v).toList ++ rest = (prettyAt depth w).toList ++ rest') : front? v = front? w := by
  rw [← hv.head?_prettyAt_append depth rest, h, hw.head?_prettyAt_append]

/-- The text of a value that is made of strings tells it. -/
theorem IsTextual.separates {v w : Value} (hv : v.IsTextual) (hw : w.IsTextual) (depth : Nat) :
    Separates (prettyAt depth) v w := by
  induction hv generalizing w depth with
  | string s =>
      intro rest rest' heq
      have hfront := front?_eq (.string s) hw heq
      cases hw with
      | string t =>
          rw [prettyAt, prettyAt] at heq
          obtain ⟨rfl, hrest⟩ := quote_append_inj heq
          exact ⟨rfl, hrest⟩
      | array | object => cases hfront
  | array hitems ih =>
      intro rest rest' heq
      have hfront := front?_eq (.array hitems) hw heq
      cases hw with
      | array hothers =>
          rw [prettyAt, prettyAt, prettyItems_eq, prettyItems_eq] at heq
          obtain ⟨rfl, hrest⟩ := separates_block rfl (by decide)
            (fun v hv w hw => ih v hv (hothers w hw) (depth + 1)) _ _ heq
          exact ⟨rfl, hrest⟩
      | string | object => cases hfront
  | object hmembers ih =>
      intro rest rest' heq
      have hfront := front?_eq (.object hmembers) hw heq
      cases hw with
      | object hothers =>
          rw [prettyAt, prettyAt, prettyMembers_eq, prettyMembers_eq] at heq
          obtain ⟨rfl, hrest⟩ := separates_block rfl (by decide)
            (fun m hm n hn => separates_prettyMember (ih m hm (hothers n hn) (depth + 1))) _ _ heq
          exact ⟨rfl, hrest⟩
      | string | array => cases hfront

theorem IsTextual.pretty_inj {v w : Value} (hv : v.IsTextual) (hw : w.IsTextual) (h : v.pretty = w.pretty) : v = w :=
  (hv.separates hw 0 [] [] (by rw [← pretty, ← pretty, h])).1

end Value

end SecretRefs.Json

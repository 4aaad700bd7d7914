import SecretRefs.Json.Reader

/-! What readers leave. Every reader takes something from the front of a text, so what it leaves stands at the end of that
text; and a fold over the items or members of a container keeps whatever its step keeps. -/

namespace SecretRefs

theorem bind_eq_ok_iff {ε α β : Type} {x : Except ε α} {f : α → Except ε β} {b : β} :
    x >>= f = .ok b ↔ ∃ a, x = .ok a ∧ f a = .ok b := by
  cases x with
  | error fault => exact ⟨nofun, nofun⟩
  | ok a =>
      constructor
      · exact fun h => ⟨a, rfl, h⟩
      · rintro ⟨_, ⟨⟩, h⟩
        exact h

namespace Json

/-- A reader leaves the end of the text that it is given. -/
def Consumes {α : Type} (read : Reader α) : Prop := ∀ ⦃cs a rest⦄, read cs = .ok (a, rest) → rest <:+ cs

theorem skipBlank_suffix (cs : List Char) : skipBlank cs <:+ cs := List.dropWhile_suffix _

theorem suffix_of_skipBlank_eq_cons {cs rest : List Char} {c : Char} (h : skipBlank cs = c :: rest) : rest <:+ cs := by
  have hblank := skipBlank_suffix cs
  rw [h] at hblank
  exact (List.suffix_cons c rest).trans hblank

theorem suffix_of_readWord {word cs rest : List Char} (h : readWord word cs = .ok rest) : rest <:+ cs := by
  induction word generalizing cs with
  | nil =>
      obtain rfl := Except.ok.inj h
      exact List.suffix_refl _
  | cons w word ih =>
      cases cs with
      | nil => cases h
      | cons c cs =>
          rw [readWord] at h
          split at h
          · exact (ih h).trans (List.suffix_cons c cs)
          · cases h

/-! ### Strings -/

theorem exists_of_consChar_eq_ok {c : Char} {x : Except Fault (List Char × List Char)} {cs rest : List Char}
    (h : consChar c x = .ok (cs, rest)) : ∃ tail, x = .ok (tail, rest) := by
  cases x with
  | error fault => cases h
  | ok read =>
      obtain ⟨-, rfl⟩ := Prod.mk.inj (Except.ok.inj h)
      exact ⟨read.1, rfl⟩

theorem consumes_readChars : Consumes readChars := by
  intro cs chars rest h
  fun_induction readChars cs generalizing chars with
  | case2 => exact (Prod.mk.inj (Except.ok.inj h)).2 ▸ List.suffix_cons _ _
  | case6 a b c d high _ _ _ a' b' c' d' tail low _ _ ih =>
      obtain ⟨_, htail⟩ := exists_of_consChar_eq_ok h
      exact (ih htail).trans (List.suffix_append ['\\', 'u', a, b, c, d, '\\', 'u', a', b', c', d'] tail)
  | case11 a b c d tail high _ _ _ ih =>
      obtain ⟨_, htail⟩ := exists_of_consChar_eq_ok h
      exact (ih htail).trans (List.suffix_append ['\\', 'u', a, b, c, d] tail)
  | case13 c tail _ _ e _ ih =>
      obtain ⟨_, htail⟩ := exists_of_consChar_eq_ok h
      exact (ih htail).trans (List.suffix_append ['\\', c] tail)
  | case17 c tail _ _ _ _ _ _ ih =>
      obtain ⟨_, htail⟩ := exists_of_consChar_eq_ok h
      exact (ih htail).trans (List.suffix_cons c tail)
  | _ => cases h

theorem suffix_of_skipChars {cs rest : List Char} (h : skipChars cs = .ok rest) : rest <:+ cs := by
  fun_induction skipChars cs with
  | case2 => exact Except.ok.inj h ▸ List.suffix_cons _ _
  | case3 a b c d tail _ ih => exact (ih h).trans (List.suffix_append ['\\', 'u', a, b, c, d] tail)
  | case6 c tail _ _ _ ih => exact (ih h).trans (List.suffix_append ['\\', c] tail)
  | case10 c tail _ _ _ _ _ _ ih => exact (ih h).trans (List.suffix_cons c tail)
  | _ => cases h

theorem consumes_readKey : Consumes readKey := by
  intro cs a rest h
  unfold readKey at h
  split at h
  · simp only [bind_eq_ok_iff, Prod.exists, Except.ok.injEq, Prod.mk.injEq] at h
    obtain ⟨_, _, hchars, -, rfl⟩ := h
    exact (consumes_readChars hchars).trans (List.suffix_cons _ _)
  · cases h

theorem consumes_skipKey : Consumes skipKey := by
  intro cs a rest h
  unfold skipKey at h
  split at h
  · simp only [bind_eq_ok_iff, Except.ok.injEq, Prod.mk.injEq] at h
    obtain ⟨_, hchars, -, rfl⟩ := h
    exact (suffix_of_skipChars hchars).trans (List.suffix_cons _ _)
  · cases h

theorem consumes_readString (expected : String) : Consumes (readString expected) := by
  intro cs a rest h
  unfold readString at h
  split at h
  · next hquote =>
    simp only [bind_eq_ok_iff, Prod.exists, Except.ok.injEq, Prod.mk.injEq] at h
    obtain ⟨_, _, hchars, -, rfl⟩ := h
    exact (consumes_readChars hchars).trans (suffix_of_skipBlank_eq_cons hquote)
  · cases h

theorem consumes_readBool : Consumes readBool := by
  intro cs a rest h
  unfold readBool at h
  split at h
  case h_1 hword | h_2 hword =>
    simp only [bind_eq_ok_iff, Except.ok.injEq, Prod.mk.injEq] at h
    obtain ⟨_, hread, -, rfl⟩ := h
    exact (suffix_of_readWord hread).trans (suffix_of_skipBlank_eq_cons hword)
  case h_3 => cases h

theorem suffix_of_readColon {cs rest : List Char} (h : readColon cs = .ok rest) : rest <:+ cs := by
  unfold readColon at h
  split at h
  · next hcolon =>
    obtain rfl := Except.ok.inj h
    exact suffix_of_skipBlank_eq_cons hcolon
  · cases h

/-! ### Numbers -/

theorem consumes_readDigits : Consumes readDigits := by
  intro cs a rest h
  unfold readDigits at h
  dsimp only at h
  split at h
  · cases h
  · exact (Prod.mk.inj (Except.ok.inj h)).2 ▸ List.dropWhile_suffix _

theorem consumes_readWhole : Consumes readWhole := by
  intro cs a rest h
  simp only [readWhole, bind_eq_ok_iff, Prod.exists] at h
  obtain ⟨digits, _, hdigits, h⟩ := h
  split at h
  · cases h
  · exact (Prod.mk.inj (Except.ok.inj h)).2 ▸ consumes_readDigits hdigits

theorem consumes_readFraction : Consumes readFraction := by
  intro cs a rest h
  unfold readFraction at h
  split at h
  · simp only [bind_eq_ok_iff, Prod.exists, Except.ok.injEq, Prod.mk.injEq] at h
    obtain ⟨_, _, hdigits, -, rfl⟩ := h
    exact (consumes_readDigits hdigits).trans (List.suffix_cons _ _)
  · exact (Prod.mk.inj (Except.ok.inj h)).2 ▸ List.suffix_refl _

theorem consumes_readPower : Consumes readPower := by
  intro cs a rest h
  unfold readPower at h
  split at h
  · split at h
    · simp only [bind_eq_ok_iff, Prod.exists, Except.ok.injEq, Prod.mk.injEq] at h
      obtain ⟨_, _, hdigits, -, rfl⟩ := h
      refine (consumes_readDigits hdigits).trans (List.IsSuffix.trans ?_ (List.suffix_cons _ _))
      split
      · exact List.suffix_cons _ _
      · exact List.suffix_cons _ _
      · exact List.suffix_refl _
    · exact (Prod.mk.inj (Except.ok.inj h)).2 ▸ List.suffix_refl _
  · exact (Prod.mk.inj (Except.ok.inj h)).2 ▸ List.suffix_refl _

theorem consumes_readNumberText : Consumes readNumberText := by
  intro cs a rest h
  simp only [readNumberText, bind_eq_ok_iff, Prod.exists, Except.ok.injEq, Prod.mk.injEq] at h
  obtain ⟨_, _, hwhole, _, _, hfraction, _, _, hpower, -, rfl⟩ := h
  exact (consumes_readPower hpower).trans ((consumes_readFraction hfraction).trans (consumes_readWhole hwhole))

theorem suffix_of_skipNumber {cs rest : List Char} (h : skipNumber cs = .ok rest) : rest <:+ cs := by
  unfold skipNumber at h
  split at h
  · next hnumber => exact Except.ok.inj h ▸ consumes_readNumberText hnumber
  · cases h

/-! ### Folds -/

section Folds

variable {κ σ : Type} {P : σ → List Char → Prop}

/-- A step of a fold, made at the state it has come to, keeps what holds of that state and the text behind it. -/
def Keeps (P : σ → List Char → Prop) (step : σ → Reader σ) : Prop :=
  ∀ ⦃s cs t rest⦄, P s cs → step s cs = .ok (t, rest) → P t rest

variable (hsuffix : ∀ ⦃s cs rest⦄, rest <:+ cs → P s cs → P s rest)
include hsuffix

theorem Keeps.foldItems {item : σ → Reader σ} (hitem : Keeps P item) (bound : Nat) (first : Bool) :
    Keeps P (foldItems item bound first) := by
  intro s cs t rest hcs h
  induction bound generalizing first s cs with
  | zero => cases h
  | succ bound ih =>
      rw [Json.foldItems] at h
      split at h
      · next hbracket =>
        obtain ⟨rfl, rfl⟩ := Prod.mk.inj (Except.ok.inj h)
        exact hsuffix (suffix_of_skipBlank_eq_cons hbracket) hcs
      · next hcomma =>
        split at h
        · cases h
        · split at h
          · cases h
          · simp only [bind_eq_ok_iff, Prod.exists] at h
            obtain ⟨_, _, hread, h⟩ := h
            refine ih _ (hitem (hsuffix ?_ hcs) hread) h
            exact (skipBlank_suffix _).trans (suffix_of_skipBlank_eq_cons hcomma)
      · split at h
        · simp only [bind_eq_ok_iff, Prod.exists] at h
          obtain ⟨_, _, hread, h⟩ := h
          exact ih _ (hitem (hsuffix (skipBlank_suffix _) hcs) hread) h
        · cases h

theorem Keeps.foldMembers {key : Reader κ} {member : κ → σ → Reader σ} (hkey : Consumes key)
    (hmember : ∀ k, Keeps P (member k)) (bound : Nat) (first : Bool) :
    Keeps P (foldMembers key member bound first) := by
  intro s cs t rest hcs h
  induction bound generalizing first s cs with
  | zero => cases h
  | succ bound ih =>
      rw [Json.foldMembers] at h
      split at h
      · next hbrace =>
        obtain ⟨rfl, rfl⟩ := Prod.mk.inj (Except.ok.inj h)
        exact hsuffix (suffix_of_skipBlank_eq_cons hbrace) hcs
      · next hcomma =>
        split at h
        · cases h
        · simp only [bind_eq_ok_iff, Prod.exists] at h
          obtain ⟨_, _, hname, _, _, hread, h⟩ := h
          refine ih _ (hmember _ (hsuffix ?_ hcs) hread) h
          exact (hkey hname).trans ((skipBlank_suffix _).trans (suffix_of_skipBlank_eq_cons hcomma))
      · split at h
        · simp only [bind_eq_ok_iff, Prod.exists] at h
          obtain ⟨_, _, hname, _, _, hread, h⟩ := h
          exact ih _ (hmember _ (hsuffix ((hkey hname).trans (skipBlank_suffix _)) hcs) hread) h
        · cases h

theorem Keeps.foldFields {fields : List (σ → Reader σ)} (hfields : ∀ field ∈ fields, Keeps P field) (first : Bool) :
    Keeps P (foldFields fields first) := by
  intro s cs t rest hcs h
  induction fields generalizing first s cs with
  | nil =>
      rw [Json.foldFields] at h
      split at h
      · next hbracket =>
        obtain ⟨rfl, rfl⟩ := Prod.mk.inj (Except.ok.inj h)
        exact hsuffix (suffix_of_skipBlank_eq_cons hbracket) hcs
      · cases h
      · cases h
  | cons field fields ih =>
      obtain ⟨hfield, hrest⟩ := List.forall_mem_cons.1 hfields
      rw [Json.foldFields] at h
      split at h
      · next hbracket =>
        obtain ⟨rfl, rfl⟩ := Prod.mk.inj (Except.ok.inj h)
        exact hsuffix (suffix_of_skipBlank_eq_cons hbracket) hcs
      · next hcomma =>
        split at h
        · cases h
        · split at h
          · cases h
          · simp only [bind_eq_ok_iff, Prod.exists] at h
            obtain ⟨_, _, hread, h⟩ := h
            refine ih hrest _ (hfield (hsuffix ?_ hcs) hread) h
            exact (skipBlank_suffix _).trans (suffix_of_skipBlank_eq_cons hcomma)
      · split at h
        · simp only [bind_eq_ok_iff, Prod.exists] at h
          obtain ⟨_, _, hread, h⟩ := h
          exact ih hrest _ (hfield (hsuffix (skipBlank_suffix _) hcs) hread) h
        · cases h

/-- What every member and every field keeps, a record keeps. -/
theorem Keeps.readRecord {member : String → σ → Reader σ} {fields : List (σ → Reader σ)}
    (hmember : ∀ name, Keeps P (member name)) (hfields : ∀ field ∈ fields, Keeps P field) (expected : String) :
    Keeps P (readRecord expected member fields) := by
  intro s cs t rest hcs h
  unfold Json.readRecord at h
  split at h
  · next hbrace =>
    exact Keeps.foldMembers hsuffix consumes_readKey hmember _ _
      (hsuffix (suffix_of_skipBlank_eq_cons hbrace) hcs) h
  · next hbracket =>
    exact Keeps.foldFields hsuffix hfields _ (hsuffix (suffix_of_skipBlank_eq_cons hbracket) hcs) h
  · cases h

end Folds

/-! ### Values that are passed over -/

theorem suffix_of_skipValueWithin {depth : Nat} {cs rest : List Char} (h : skipValueWithin depth cs = .ok rest) :
    rest <:+ cs := by
  fun_induction skipValueWithin depth cs generalizing rest with
  | case1 _ _ _ hblank | case2 _ _ _ hblank | case3 _ _ _ hblank =>
      exact (suffix_of_readWord h).trans (suffix_of_skipBlank_eq_cons hblank)
  | case4 _ _ _ hblank => exact (suffix_of_skipNumber h).trans (suffix_of_skipBlank_eq_cons hblank)
  | case5 _ _ _ hblank => exact (suffix_of_skipChars h).trans (suffix_of_skipBlank_eq_cons hblank)
  | case7 cs _ hblank depth =>
      rename_i item ih
      simp only [bind_eq_ok_iff, Prod.exists, Except.ok.injEq] at h
      obtain ⟨_, _, hfold, rfl⟩ := h
      refine Keeps.foldItems (P := fun _ rest => rest <:+ cs) (fun _ _ _ => List.IsSuffix.trans) ?_ _ _
        (suffix_of_skipBlank_eq_cons hblank) hfold
      intro _ _ _ _ hcs h
      simp only [item, bind_eq_ok_iff, Except.ok.injEq, Prod.mk.injEq] at h
      obtain ⟨_, hvalue, -, rfl⟩ := h
      exact (ih _ hvalue).trans hcs
  | case9 cs _ hblank depth =>
      rename_i member ih
      simp only [bind_eq_ok_iff, Prod.exists, Except.ok.injEq] at h
      obtain ⟨_, _, hfold, rfl⟩ := h
      refine Keeps.foldMembers (P := fun _ rest => rest <:+ cs) (fun _ _ _ => List.IsSuffix.trans) consumes_skipKey ?_ _ _
        (suffix_of_skipBlank_eq_cons hblank) hfold
      intro _ _ _ _ _ hcs h
      simp only [member, bind_eq_ok_iff, Except.ok.injEq, Prod.mk.injEq] at h
      obtain ⟨_, hcolon, _, hvalue, -, rfl⟩ := h
      exact (ih _ hvalue).trans ((suffix_of_readColon hcolon).trans hcs)
  | case10 _ _ _ _ _ _ _ _ _ _ _ hblank =>
      rw [← hblank] at h
      exact (suffix_of_skipNumber h).trans (skipBlank_suffix _)
  | case6 | case8 | case11 | case12 => cases h

theorem suffix_of_skipValue {cs rest : List Char} (h : skipValue cs = .ok rest) : rest <:+ cs :=
  suffix_of_skipValueWithin h

end Json

end SecretRefs

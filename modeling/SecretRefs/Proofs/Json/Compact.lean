import SecretRefs.Proofs.Json.Pretty

/-! Reading compact texts. A reader of strings, of booleans or of records takes a value from its text and leaves what is
behind it, whatever that is: a closing quote ends a string, a brace an object, and a word of known letters itself. For a
record it is enough that each of its members is taken so, in the order of the text. -/

namespace SecretRefs.Json

open Value (compactMembers)

/-- A reader makes something of a value when the text of the value is in front, whatever stands behind it. -/
def Takes {α : Type} (read : Reader α) (v : Value) (x : Except Fault α) : Prop :=
  ∀ rest, read (v.compact.toList ++ rest) = x.map (·, rest)

theorem Takes.finish {α : Type} {read : Reader α} {v : Value} {x : Except Fault α} (h : Takes read v x) :
    Json.finish (read v.compact.toList) = x := by
  have hread := h []
  rw [List.append_nil] at hread
  rw [hread]
  cases x <;> rfl

/-! ### Strings and booleans -/

theorem readKey_quote (name : String) (rest : List Char) :
    readKey ((quote name).toList ++ rest) = .ok (name, rest) := by
  rw [toList_quote_append, readKey, readChars_flatMap_escapeChar]
  change Except.ok (String.ofList name.toList, rest) = _
  rw [String.ofList_toList]

theorem takes_readString (expected text : String) : Takes (readString expected) (.string text) (.ok text) := by
  intro rest
  rw [Value.compact, toList_quote_append]
  change (readChars (text.toList.flatMap escapeChar ++ '"' :: rest)).bind _ = _
  rw [readChars_flatMap_escapeChar]
  change Except.ok (String.ofList text.toList, rest) = _
  rw [String.ofList_toList]
  rfl

theorem takes_readBool (b : Bool) : Takes readBool (.bool b) (.ok b) := by
  intro rest
  cases b <;> rfl

/-! ### Objects -/

/-- The text of the members behind the first of them, and of the brace. -/
def membersTail : List (String × Value) → List Char → List Char
  | [], rest => '\x7d' :: rest
  | (name, v) :: members, rest =>
    ',' :: ((quote name).toList ++ ':' :: (v.compact.toList ++ membersTail members rest))

theorem length_lt_length_membersTail (members : List (String × Value)) (rest : List Char) :
    members.length < (membersTail members rest).length := by
  induction members with
  | nil => exact Nat.zero_lt_succ _
  | cons m members ih =>
      simp only [membersTail, List.length_cons, List.length_append]
      omega

theorem toList_intercalate_compactMembers (name : String) (v : Value) (members : List (String × Value))
    (rest : List Char) :
    (String.intercalate "," (compactMembers ((name, v) :: members))).toList ++ '\x7d' :: rest =
      (quote name).toList ++ ':' :: (v.compact.toList ++ membersTail members rest) := by
  induction members generalizing name v with
  | nil =>
      rw [compactMembers, compactMembers, String.intercalate_singleton, membersTail]
      simp
  | cons m members ih =>
      obtain ⟨next, w⟩ := m
      rw [compactMembers, compactMembers, String.intercalate_cons_cons, ← compactMembers, String.toList_append,
        String.toList_append, List.append_assoc, ih, membersTail]
      simp

section Members

variable {σ : Type} {member : String → σ → Reader σ} {bound : Nat} {s : σ} {rest : List Char}

theorem foldMembers_brace (first : Bool) :
    foldMembers readKey member (bound + 1) first s ('\x7d' :: rest) = .ok (s, rest) := rfl

theorem foldMembers_comma (name : String) :
    foldMembers readKey member (bound + 1) false s (',' :: ((quote name).toList ++ rest)) =
      (member name s rest).bind fun (t, rest) => foldMembers readKey member bound false t rest := by
  have hkey := readKey_quote name rest
  rw [toList_quote_append] at hkey ⊢
  change (readKey ('"' :: _)).bind _ = _
  rw [hkey]
  rfl

theorem foldMembers_first (name : String) :
    foldMembers readKey member (bound + 1) true s ((quote name).toList ++ rest) =
      foldMembers readKey member (bound + 1) false s (',' :: ((quote name).toList ++ rest)) := by
  rw [foldMembers_comma]
  have hkey := readKey_quote name rest
  rw [toList_quote_append] at hkey ⊢
  change (readKey ('"' :: _)).bind _ = _
  rw [hkey]
  rfl

/-- A fold over the members of an object makes something of a list of them, whatever stands behind the object. -/
def TakesMembers (member : String → σ → Reader σ) (s : σ) (members : List (String × Value)) (x : Except Fault σ) :
    Prop :=
  ∀ bound rest, members.length < bound →
    foldMembers readKey member bound false s (membersTail members rest) = x.map (·, rest)

theorem TakesMembers.nil : TakesMembers member s [] (.ok s) := by
  rintro (_ | bound) rest hbound
  · cases hbound
  · exact foldMembers_brace false

/-- What is made of the first member decides about the others. -/
theorem TakesMembers.cons {name : String} {v : Value} {members : List (String × Value)} {x : Except Fault σ}
    {f : σ → Except Fault σ}
    (hmember : ∀ rest, member name s (':' :: (v.compact.toList ++ rest)) = x.map (·, rest))
    (h : ∀ t, x = .ok t → TakesMembers member t members (f t)) :
    TakesMembers member s ((name, v) :: members) (x.bind f) := by
  rintro (_ | bound) rest hbound
  · cases hbound
  · rw [membersTail, foldMembers_comma, hmember]
    cases x with
    | error fault => rfl
    | ok t => exact h t rfl bound rest (Nat.lt_of_succ_lt_succ hbound)

theorem TakesMembers.cons_ok {name : String} {v : Value} {members : List (String × Value)} {t : σ} {x : Except Fault σ}
    (hmember : ∀ rest, member name s (':' :: (v.compact.toList ++ rest)) = .ok (t, rest))
    (h : TakesMembers member t members x) : TakesMembers member s ((name, v) :: members) x := by
  refine .cons (x := .ok t) (f := fun _ => x) hmember ?_
  rintro _ ⟨⟩
  exact h

/-- A record is taken from the text of an object. -/
theorem TakesMembers.takes_readRecord {members : List (String × Value)} {x : Except Fault σ}
    (h : TakesMembers member s members x) (expected : String) (fields : List (σ → Reader σ)) :
    Takes (readRecord expected member fields s) (.object members) x := by
  intro rest
  rcases members with _ | ⟨⟨name, v⟩, members⟩
  · exact h 1 rest Nat.zero_lt_one
  · have htext : (Value.object ((name, v) :: members)).compact.toList ++ rest =
        '\x7b' :: ((quote name).toList ++ ':' :: (v.compact.toList ++ membersTail members rest)) := by
      rw [Value.compact, ← toList_intercalate_compactMembers]
      simp
    have hlength := length_lt_length_membersTail ((name, v) :: members) rest
    rw [htext]
    change foldMembers readKey member (_ + 1) true s _ = _
    rw [foldMembers_first]
    exact h _ rest hlength

end Members

end SecretRefs.Json

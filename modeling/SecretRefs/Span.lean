import SecretRefs.Text.Blank

/-! Texts with parameter references. A reference is a key between two percent signs; the key is not
empty and holds neither a percent sign nor a blank. Two adjacent percent signs are an escape and stay
literal, both of them, and so does every percent sign that opens no reference. A text is the
concatenation of its spans.

The reader looks for percent signs only. `firstReference?` goes from one to the next, and a `SpanReader`
hands out the spans one by one, a literal before the reference that ends it. -/

namespace SecretRefs

open Text (isBlank)

inductive Span
  /-- Text outside of any reference. -/
  | literal (text : String)
  /-- A complete reference, given by its key. -/
  | reference (key : String)
  deriving DecidableEq, Repr

namespace Span

/-- A key in reference form. -/
def referenceText (key : String) : String := "%" ++ key ++ "%"

/-- The text of a span as it stands in the input. -/
def raw : Span → String
  | literal text => text
  | reference key => referenceText key

def key? : Span → Option String
  | literal _ => none
  | reference key => some key

end Span

/-- The text before the first percent sign and the text after it. -/
def splitAtPercent : List Char → Option (List Char × List Char)
  | [] => none
  | c :: cs =>
    if c = '%' then some ([], cs)
    else (splitAtPercent cs).map fun (before, after) => (c :: before, after)

theorem splitAtPercent_eq_some {cs before after : List Char}
    (h : splitAtPercent cs = some (before, after)) :
    cs = before ++ '%' :: after ∧ '%' ∉ before := by
  induction cs generalizing before with
  | nil => simp [splitAtPercent] at h
  | cons c cs ih =>
    rw [splitAtPercent] at h
    split at h
    · next hc =>
      obtain ⟨rfl, rfl⟩ := Prod.mk.inj (Option.some.inj h)
      simp [hc]
    · next hc =>
      obtain ⟨⟨b, a⟩, hba, heq⟩ := Option.map_eq_some_iff.1 h
      obtain ⟨rfl, rfl⟩ := Prod.mk.inj heq
      obtain ⟨hcs, hb⟩ := ih hba
      exact ⟨by rw [hcs]; rfl, by simp [hb, Ne.symm hc]⟩

theorem splitAtPercent_length {cs before after : List Char}
    (h : splitAtPercent cs = some (before, after)) :
    before.length + after.length + 1 = cs.length := by
  have := congrArg List.length (splitAtPercent_eq_some h).1
  simp at this
  omega

/-- A reference found in a text, with the literal text before it and the text after it. -/
structure Found where
  before : List Char
  key : List Char
  after : List Char
  deriving DecidableEq, Repr

/-- Puts more literal text in front. -/
def Found.precededBy (skipped : List Char) (found : Found) : Found :=
  { found with before := skipped ++ found.before }

/-- The first reference of a text. After an escape the search goes on behind it; a key with a blank
is none, but the percent sign that would close it may still open a reference. A percent sign without
a later one opens nothing, and neither does any other in the rest of the text. -/
def firstReference? (cs : List Char) : Option Found :=
  match _hopen : splitAtPercent cs with
  | none => none
  | some (before, inner) =>
    match _hclose : splitAtPercent inner with
    | none => none
    | some ([], after) => (firstReference? after).map (·.precededBy (before ++ ['%', '%']))
    | some (k :: key, after) =>
      if (k :: key).any isBlank then
        (firstReference? ('%' :: after)).map (·.precededBy (before ++ '%' :: k :: key))
      else
        some ⟨before, k :: key, after⟩
termination_by cs.length
decreasing_by
  all_goals
    have h₁ := splitAtPercent_length _hopen
    have h₂ := splitAtPercent_length _hclose
    simp only [List.length_cons, List.length_nil] at h₁ h₂ ⊢
    omega

theorem firstReference?_length {cs : List Char} {found : Found} (h : firstReference? cs = some found) :
    found.before.length + found.after.length + 3 ≤ cs.length := by
  fun_induction firstReference? cs generalizing found with
  | case1 => simp at h
  | case2 => simp at h
  | case3 cs before inner hopen after hclose ih =>
    obtain ⟨f, hf, rfl⟩ := Option.map_eq_some_iff.1 h
    have := ih hf
    have h₁ := splitAtPercent_length hopen
    have h₂ := splitAtPercent_length hclose
    simp [Found.precededBy] at h₂ ⊢
    omega
  | case4 cs before inner hopen k key after hclose hblank ih =>
    obtain ⟨f, hf, rfl⟩ := Option.map_eq_some_iff.1 h
    have := ih hf
    have h₁ := splitAtPercent_length hopen
    have h₂ := splitAtPercent_length hclose
    simp [Found.precededBy] at this h₂ ⊢
    omega
  | case5 cs before inner hopen k key after hclose hblank =>
    obtain rfl := Option.some.inj h
    have h₁ := splitAtPercent_length hopen
    have h₂ := splitAtPercent_length hclose
    simp at h₂ ⊢
    omega

/-- A text that is being taken apart: what is still unread, and a reference that waits behind the
literal handed out before it. -/
structure SpanReader where
  unread : List Char
  pending : Option Span := none
  deriving DecidableEq, Repr

namespace SpanReader

def ofText (text : String) : SpanReader := { unread := text.toList }

/-- The next span, and the reader behind it. -/
def next? (r : SpanReader) : Option (Span × SpanReader) :=
  match r.pending with
  | some span => some (span, { unread := r.unread })
  | none =>
    if r.unread.isEmpty then none
    else
      match firstReference? r.unread with
      | none => some (.literal (String.ofList r.unread), { unread := [] })
      | some ⟨before, key, after⟩ =>
        let reference := Span.reference (String.ofList key)
        if before.isEmpty then some (reference, { unread := after })
        else
          some (.literal (String.ofList before), { unread := after, pending := some reference })

/-- How much a reader can still hand out. -/
def size (r : SpanReader) : Nat := r.unread.length + if r.pending.isSome then 1 else 0

theorem size_next? {r s : SpanReader} {span : Span} (h : r.next? = some (span, s)) :
    s.size < r.size := by
  obtain ⟨unread, pending⟩ := r
  cases pending with
  | some p =>
    obtain ⟨-, rfl⟩ := Prod.mk.inj (Option.some.inj h)
    simp [size]
  | none =>
    simp only [next?] at h
    split at h
    · simp at h
    · next hne =>
      split at h
      · obtain ⟨-, rfl⟩ := Prod.mk.inj (Option.some.inj h)
        cases unread <;> simp_all [size]
      · next before key after hfound =>
        have := firstReference?_length hfound
        simp only at this
        split at h
        · obtain ⟨-, rfl⟩ := Prod.mk.inj (Option.some.inj h)
          simp [size]; omega
        · obtain ⟨-, rfl⟩ := Prod.mk.inj (Option.some.inj h)
          simp [size]; omega

/-- All the spans that a reader hands out. -/
def drain (r : SpanReader) : List Span :=
  match _h : r.next? with
  | none => []
  | some (span, s) => span :: s.drain
termination_by r.size
decreasing_by exact size_next? _h

end SpanReader

/-- The spans of a text, in order. -/
def spans (text : String) : List Span := (SpanReader.ofText text).drain

/-- The keys of the references in a text, in order, duplicates kept. -/
def referenceKeys (text : String) : List String := (spans text).filterMap Span.key?

/-- A reference needs two percent signs; a text with fewer holds none. -/
def couldHoldReference (text : String) : Bool := 2 ≤ text.toList.count '%'

/-- Rebuilds a text. Each key is put to `accept`, in order; its answer takes the place of the
reference, and where it has none the reference stays. -/
def substitute {m : Type → Type} [Monad m] (text : String) (accept : String → m (Option String)) :
    m String :=
  (spans text).foldlM (fun output span =>
    match span with
    | .literal literal => pure (output ++ literal)
    | .reference key => return output ++ (← accept key).getD span.raw) ""

end SecretRefs

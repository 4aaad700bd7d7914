import SecretRefs.Span

/-! Spans by offsets. The reader here keeps the whole text and how far it has come, counted in bytes of UTF-8. It looks for
percent signs among the bytes and cuts the spans out of the text. A cut needs bounds that are in order, in the text, and
between characters; at any others it is a fault. -/

namespace SecretRefs

open Text (isBlank)

/-- Whether an offset stands between two characters of a text, or at one of its ends. -/
def IsBoundary (text : String) (offset : Nat) : Prop := String.Pos.Raw.IsValid text ⟨offset⟩

instance (text : String) (offset : Nat) : Decidable (IsBoundary text offset) :=
  decidable_of_iff (String.Pos.Raw.isValid text ⟨offset⟩ = true) String.Pos.Raw.isValid_eq_true_iff

/-- Bounds at which a text can be cut. -/
structure Cuttable (text : String) (start stop : Nat) : Prop where
  ordered : start ≤ stop
  inText : stop ≤ text.utf8ByteSize
  startBoundary : IsBoundary text start
  stopBoundary : IsBoundary text stop

instance (text : String) (start stop : Nat) : Decidable (Cuttable text start stop) :=
  decidable_of_iff
    (start ≤ stop ∧ stop ≤ text.utf8ByteSize ∧ IsBoundary text start ∧ IsBoundary text stop)
    ⟨fun ⟨h₁, h₂, h₃, h₄⟩ => ⟨h₁, h₂, h₃, h₄⟩, fun ⟨h₁, h₂, h₃, h₄⟩ => ⟨h₁, h₂, h₃, h₄⟩⟩

theorem Cuttable.isValidUTF8 {text : String} {start stop : Nat} (h : Cuttable text start stop) :
    (text.toByteArray.extract start stop).IsValidUTF8 :=
  (String.Pos.Raw.isValidUTF8_extract_iff ⟨start⟩ ⟨stop⟩ h.ordered h.inText).2
    (.inr ⟨h.startBoundary, h.stopBoundary⟩)

/-- A cut at bounds that do not allow it. -/
structure CutFault where
  start : Nat
  stop : Nat
  deriving DecidableEq, Repr

/-- The part of a text between two offsets. -/
def cut (text : String) (start stop : Nat) : Except CutFault String :=
  if h : Cuttable text start stop then
    .ok (String.fromUTF8 (text.toByteArray.extract start stop) h.isValidUTF8)
  else .error ⟨start, stop⟩

/-- The byte of the percent sign. -/
def percentByte : UInt8 := 0x25

/-- The offset of the first percent sign at or behind an offset. -/
def findPercent? (text : String) (start : Nat) : Option Nat :=
  if start ≤ text.utf8ByteSize then
    ((text.toByteArray.data.toList.drop start).findIdx? (· == percentByte)).map (start + ·)
  else none

theorem findPercent?_bounds {text : String} {start offset : Nat} (h : findPercent? text start = some offset) :
    start ≤ offset ∧ offset < text.utf8ByteSize := by
  rw [findPercent?] at h
  split at h
  · obtain ⟨i, hi, rfl⟩ := Option.map_eq_some_iff.1 h
    obtain ⟨hlt, -⟩ := List.findIdx?_eq_some_iff_getElem.1 hi
    rw [List.length_drop, Array.length_toList, ByteArray.size_data, String.size_toByteArray] at hlt
    omega
  · cases h

/-- What one round of the search for a reference comes to. -/
inductive Round
  | finished
  /-- A reference, with the bounds of its raw text. -/
  | found (start stop : Nat)
  /-- No reference here; the search goes on at another offset. -/
  | goOn (cursor : Nat)
  deriving DecidableEq, Repr

namespace Round

/-- What is between two percent signs decides: behind an escape the search goes on behind both, and behind a key with a
blank it goes on at the second, which may still open a reference. -/
def ofKey (opening closing : Nat) (key : String) : Round :=
  if key.isEmpty then goOn (closing + 1)
  else if key.toList.any isBlank then goOn closing
  else found opening (closing + 1)

def ofCursor (text : String) (cursor : Nat) : Except CutFault Round :=
  match findPercent? text cursor with
  | none => .ok finished
  | some opening =>
    match findPercent? text (opening + 1) with
    | none => .ok finished
    | some closing => (cut text (opening + 1) closing).map (ofKey opening closing)

theorem le_of_ofKey_eq_goOn {opening closing cursor : Nat} {key : String} (h : ofKey opening closing key = goOn cursor) :
    closing ≤ cursor ∧ cursor ≤ closing + 1 := by
  unfold ofKey at h
  split at h
  · cases h
    omega
  · split at h
    · cases h
      omega
    · cases h

/-- A round that is not the last one moves the cursor on. -/
theorem lt_of_ofCursor_eq_goOn {text : String} {cursor next : Nat} (h : ofCursor text cursor = .ok (goOn next)) :
    cursor < next ∧ next ≤ text.utf8ByteSize := by
  unfold ofCursor at h
  split at h
  · cases h
  · next opening hopening =>
    split at h
    · cases h
    · next closing hclosing =>
      have hopen := findPercent?_bounds hopening
      have hclose := findPercent?_bounds hclosing
      cases hkey : cut text (opening + 1) closing with
      | error fault =>
          rw [hkey] at h
          cases h
      | ok key =>
          rw [hkey] at h
          have hnext := le_of_ofKey_eq_goOn (Except.ok.inj h)
          omega

end Round

/-- The bounds of the first reference at or behind an offset. -/
def findReference? (text : String) (cursor : Nat) : Except CutFault (Option (Nat × Nat)) :=
  match _h : Round.ofCursor text cursor with
  | .error fault => .error fault
  | .ok .finished => .ok none
  | .ok (.found start stop) => .ok (some (start, stop))
  | .ok (.goOn next) => findReference? text next
termination_by text.utf8ByteSize - cursor
decreasing_by
  have hnext := Round.lt_of_ofCursor_eq_goOn _h
  omega

/-- A span as it is cut out of a text. -/
inductive Piece
  | literal (text : String)
  /-- A reference, with its key and its raw text. -/
  | reference (key raw : String)
  deriving DecidableEq, Repr

def Piece.raw : Piece → String
  | literal text => text
  | reference _ raw => raw

/-- A text that is being cut up: how far the reader has come, and a reference that waits behind the literal handed out
before it. -/
structure OffsetReader where
  text : String
  offset : Nat := 0
  pending : Option Piece := none
  deriving DecidableEq, Repr

namespace OffsetReader

/-- One call: the next piece, if there is one, and the reader behind it. -/
def next (r : OffsetReader) : Except CutFault (Option Piece × OffsetReader) :=
  match r.pending with
  | some piece => .ok (some piece, { r with pending := none })
  | none =>
    if r.text.utf8ByteSize ≤ r.offset then .ok (none, r)
    else do
      match ← findReference? r.text r.offset with
      | some (start, stop) =>
        let key ← cut r.text (start + 1) (stop - 1)
        let raw ← cut r.text start stop
        let reference := Piece.reference key raw
        if r.offset < start then
          let literal ← cut r.text r.offset start
          .ok (some (.literal literal), { r with offset := stop, pending := some reference })
        else .ok (some reference, { r with offset := stop })
      | none =>
        let literal ← cut r.text r.offset r.text.utf8ByteSize
        .ok (some (.literal literal), { r with offset := r.text.utf8ByteSize })

/-- Some calls in a row: what they answer, and the reader behind them. -/
def calls (r : OffsetReader) : Nat → Except CutFault (List (Option Piece) × OffsetReader)
  | 0 => .ok ([], r)
  | n + 1 => do
    let (answers, r) ← r.calls n
    let (answer, r) ← r.next
    .ok (answers ++ [answer], r)

end OffsetReader

end SecretRefs

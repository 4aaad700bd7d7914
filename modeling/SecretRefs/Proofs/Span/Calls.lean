import Mathlib.Data.List.ReduceOption
import SecretRefs.Proofs.Span.Offset

/-! Call after call. A reader by offsets and a reader by characters go through a text together: what the one has handed out,
what waits, and what is unread make up the text, and the offset is where the unread part begins. So no call faults, and the
calls hand out the spans of the text. A span is not empty, so there are no more of them than the text has bytes. -/

namespace SecretRefs

open SecretRefs.Span (rawText)

/-- A span as it is cut out. -/
def Piece.ofSpan : Span → Piece
  | .literal text => .literal text
  | .reference key => .reference key (Span.referenceText key)

theorem Piece.raw_ofSpan (span : Span) : (ofSpan span).raw = span.raw := by cases span <;> rfl

theorem Span.rawText_concat (spans : List Span) (span : Span) : rawText (spans ++ [span]) = rawText spans ++ span.raw := by
  simp [rawText_append]

theorem Span.rawText_eq_join_ofSpan (spans : List Span) :
    rawText spans = String.join ((spans.map Piece.ofSpan).map Piece.raw) := by
  rw [rawText, List.map_map]
  exact congrArg String.join (List.map_congr_left fun span _ => (Piece.raw_ofSpan span).symm)

namespace SpanReader

theorem next?_unread {unread : List Char} (h : unread ≠ []) :
    (SpanReader.mk unread none).next? =
      match firstReference? unread with
      | none => some (.literal (String.ofList unread), { unread := [] })
      | some ⟨before, key, after⟩ =>
        if before.isEmpty then some (.reference (String.ofList key), { unread := after })
        else
          some (.literal (String.ofList before), { unread := after, pending := some (.reference (String.ofList key)) }) :=
  if_neg (by simpa using h)

theorem next?_eq_none_iff {s : SpanReader} : s.next? = none ↔ s.pending = none ∧ s.unread = [] := by
  obtain ⟨unread, pending⟩ := s
  cases pending with
  | some span => simp [next?]
  | none =>
      by_cases h : unread = []
      · simp [next?, h]
      · rw [next?_unread h]
        rcases firstReference? unread with _ | ⟨before, key, after⟩
        · simp [h]
        · cases before <;> simp [h]

end SpanReader

/-! ### One call -/

namespace OffsetReader

variable {text literal key raw : String} {offset start stop : Nat} (hmore : offset < text.utf8ByteSize)
include hmore

theorem next_of_rest (hfind : findReference? text offset = .ok none)
    (hliteral : cut text offset text.utf8ByteSize = .ok literal) :
    (OffsetReader.mk text offset none).next =
      .ok (some (.literal literal), { text, offset := text.utf8ByteSize }) := by
  rw [next]
  dsimp only
  rw [if_neg (Nat.not_le.2 hmore), hfind]
  change (cut text offset text.utf8ByteSize).bind _ = _
  rw [hliteral]
  rfl

theorem next_of_reference (hfind : findReference? text offset = .ok (some (start, stop)))
    (hkey : cut text (start + 1) (stop - 1) = .ok key) (hraw : cut text start stop = .ok raw)
    (hliteral : cut text offset start = .ok literal) :
    (OffsetReader.mk text offset none).next =
      .ok
        (if offset < start then
          (some (.literal literal), { text, offset := stop, pending := some (.reference key raw) })
        else (some (.reference key raw), { text, offset := stop })) := by
  rw [next]
  dsimp only
  rw [if_neg (Nat.not_le.2 hmore), hfind]
  change (cut text (start + 1) (stop - 1)).bind _ = _
  rw [hkey]
  change (cut text start stop).bind _ = _
  rw [hraw]
  dsimp only [Except.bind]
  split
  · rw [hliteral]
    rfl
  · rfl

end OffsetReader

/-- An offset reader that has handed out some spans of a text stands where a span reader does. -/
structure Follows (text : String) (given : List Span) (r : OffsetReader) (s : SpanReader) : Prop where
  sameText : r.text = text
  whole : text = rawText (given ++ s.pending.toList) ++ String.ofList s.unread
  offset : r.offset = (rawText (given ++ s.pending.toList)).utf8ByteSize
  pending : r.pending = s.pending.map Piece.ofSpan

namespace Follows

variable {text : String} {given : List Span} {r : OffsetReader} {s s' : SpanReader} {span : Span} {unread : List Char}

theorem start (text : String) : Follows text [] { text } (.ofText text) where
  sameText := rfl
  whole := by simp [SpanReader.ofText]
  offset := rfl
  pending := rfl

theorem size_eq (h : Follows text given r s) :
    text.utf8ByteSize = r.offset + (String.ofList s.unread).utf8ByteSize := by
  rw [h.offset, ← String.utf8ByteSize_append, ← h.whole]

/-- At the end both stay where they are. -/
theorem next_of_none (h : Follows text given r s) (hnext : s.next? = none) : r.next = .ok (none, r) := by
  obtain ⟨hpending, hunread⟩ := SpanReader.next?_eq_none_iff.1 hnext
  have hend : r.text.utf8ByteSize ≤ r.offset := by
    rw [h.sameText, h.size_eq, hunread]
    exact Nat.le_refl _
  rw [OffsetReader.next, h.pending, hpending]
  exact if_pos hend

theorem next_of_pending (h : Follows text given r ⟨unread, some span⟩) :
    ∃ r', r.next = .ok (some (Piece.ofSpan span), r') ∧ Follows text (given ++ [span]) r' ⟨unread, none⟩ := by
  refine ⟨{ r with pending := none }, ?_, h.sameText, ?_, ?_, rfl⟩
  · rw [OffsetReader.next, h.pending]
    rfl
  · rw [Option.toList_none, List.append_nil]
    exact h.whole
  · rw [Option.toList_none, List.append_nil]
    exact h.offset

section Idle

variable (h : Follows text given r ⟨unread, none⟩)
include h

theorem eq_of_idle : r = ⟨text, (rawText given).utf8ByteSize, none⟩ ∧ text = rawText given ++ String.ofList unread := by
  obtain ⟨rtext, offset, pending⟩ := r
  obtain ⟨rfl, hwhole, rfl, rfl⟩ := h
  rw [Option.toList_none, List.append_nil] at hwhole ⊢
  exact ⟨rfl, hwhole⟩

theorem next_of_last (hunread : unread ≠ []) (hlast : firstReference? unread = none) :
    ∃ r', r.next = .ok (some (.literal (String.ofList unread)), r') ∧
      Follows text (given ++ [.literal (String.ofList unread)]) r' ⟨[], none⟩ := by
  obtain ⟨rfl, hwhole⟩ := h.eq_of_idle
  have hpos : 0 < (String.ofList unread).utf8ByteSize := by
    rw [Nat.pos_iff_ne_zero, ne_eq, String.utf8ByteSize_eq_zero_iff, String.ofList_eq_empty_iff]
    exact hunread
  have hsize : text.utf8ByteSize = (rawText given).utf8ByteSize + (String.ofList unread).utf8ByteSize := h.size_eq
  have hfind := findReference?_eq hwhole
  rw [hlast] at hfind
  have hend : text = rawText given ++ String.ofList unread ++ "" := by rwa [String.append_empty]
  refine ⟨_, OffsetReader.next_of_rest (by omega) hfind (cut_eq _ _ _ hend rfl hsize), rfl, ?_, ?_, rfl⟩
  · simpa [Span.rawText_concat, Span.raw] using hwhole
  · simpa [Span.rawText_concat, Span.raw] using hsize

theorem next_of_found {before key after : List Char} (hfound : firstReference? unread = some ⟨before, key, after⟩) :
    let reference := Span.reference (String.ofList key)
    let stop := (rawText given ++ String.ofList before ++ reference.raw).utf8ByteSize
    r.next = .ok
      (if before = [] then (some (.ofSpan reference), { text, offset := stop })
      else (some (.literal (String.ofList before)), { text, offset := stop, pending := some (.ofSpan reference) })) := by
  obtain ⟨rfl, hwhole⟩ := h.eq_of_idle
  cases hbounds : Found.bounds (rawText given).utf8ByteSize ⟨before, key, after⟩ with
  | mk start stop =>
  have hfind := findReference?_eq hwhole
  rw [hfound, Option.map_some, hbounds] at hfind
  obtain ⟨hkey, hraw, hliteral⟩ := cut_of_firstReference? hwhole hfound hbounds
  have htext := congrArg String.utf8ByteSize (eq_of_firstReference? hwhole hfound)
  rw [Found.bounds_eq] at hbounds
  obtain ⟨rfl, rfl⟩ := Prod.mk.inj hbounds
  have hmore : (rawText given).utf8ByteSize < text.utf8ByteSize := by
    have hpercent : "%".utf8ByteSize = 1 := rfl
    simp only [Span.referenceText, String.utf8ByteSize_append, hpercent] at htext
    omega
  have hbefore : before = [] ↔ ¬ (rawText given).utf8ByteSize < (rawText given ++ String.ofList before).utf8ByteSize := by
    rw [← String.ofList_eq_empty_iff, ← String.utf8ByteSize_eq_zero_iff, String.utf8ByteSize_append]
    omega
  rw [OffsetReader.next_of_reference hmore hfind hkey hraw hliteral]
  simp only [hbefore, ite_not]
  rfl

end Idle

/-- A call hands out what the span reader hands out. -/
theorem next_of_some (h : Follows text given r s) (hnext : s.next? = some (span, s')) :
    ∃ r', r.next = .ok (some (Piece.ofSpan span), r') ∧ Follows text (given ++ [span]) r' s' := by
  obtain ⟨unread, pending⟩ := s
  cases pending with
  | some waiting =>
      obtain ⟨rfl, rfl⟩ := Prod.mk.inj (Option.some.inj hnext)
      exact h.next_of_pending
  | none =>
      have hunread : unread ≠ [] := by
        rintro rfl
        cases hnext
      rw [SpanReader.next?_unread hunread] at hnext
      rcases hfound : firstReference? unread with _ | ⟨before, key, after⟩
      · rw [hfound] at hnext
        obtain ⟨rfl, rfl⟩ := Prod.mk.inj (Option.some.inj hnext)
        exact h.next_of_last hunread hfound
      · rw [hfound] at hnext
        have hcall := h.next_of_found hfound
        have htext := eq_of_firstReference? h.eq_of_idle.2 hfound
        by_cases hbefore : before = []
        · subst hbefore
          obtain ⟨rfl, rfl⟩ := Prod.mk.inj (Option.some.inj hnext)
          refine ⟨_, hcall, rfl, ?_, ?_, rfl⟩
          · simpa [Span.rawText_concat, Span.raw] using htext
          · simp [Span.rawText_concat, Span.raw]
        · dsimp only at hnext hcall htext
          rw [if_neg (by simpa using hbefore)] at hnext
          rw [if_neg hbefore] at hcall
          obtain ⟨rfl, rfl⟩ := Prod.mk.inj (Option.some.inj hnext)
          refine ⟨_, hcall, rfl, ?_, ?_, rfl⟩
          · simpa [Span.rawText_append, Span.raw, String.append_assoc] using htext
          · simp [Span.rawText_append, Span.raw, Nat.add_assoc]

/-- Behind the first spans of a text, a call answers the next one, if there is one. -/
theorem next_of_drain {n : Nat} (h : Follows text ((spans text).take n) r s) (hdrain : s.drain = (spans text).drop n) :
    ∃ r' s', r.next = .ok ((spans text)[n]?.map Piece.ofSpan, r') ∧
      Follows text ((spans text).take (n + 1)) r' s' ∧ s'.drain = (spans text).drop (n + 1) := by
  rw [List.take_add_one, ← List.head?_drop, ← List.tail_drop, ← hdrain]
  cases hnext : s.next? with
  | none =>
      rw [SpanReader.drain_of_next?_eq_none hnext]
      refine ⟨r, s, h.next_of_none hnext, ?_, SpanReader.drain_of_next?_eq_none hnext⟩
      rwa [List.head?_nil, Option.toList_none, List.append_nil]
  | some step =>
      obtain ⟨span, s'⟩ := step
      obtain ⟨r', hcall, hfollows⟩ := h.next_of_some hnext
      rw [SpanReader.drain_of_next?_eq_some hnext]
      exact ⟨r', s', hcall, hfollows, rfl⟩

theorem calls (text : String) (n : Nat) :
    ∃ r s,
      ({ text } : OffsetReader).calls n = .ok ((List.range n).map fun i => (spans text)[i]?.map Piece.ofSpan, r) ∧
        Follows text ((spans text).take n) r s ∧ s.drain = (spans text).drop n := by
  induction n with
  | zero => exact ⟨{ text }, .ofText text, rfl, start text, rfl⟩
  | succ n ih =>
      obtain ⟨r, s, hcalls, hfollows, hdrain⟩ := ih
      obtain ⟨r', s', hcall, hnext⟩ := hfollows.next_of_drain hdrain
      refine ⟨r', s', ?_, hnext⟩
      rw [OffsetReader.calls, hcalls, List.range_succ, List.map_append, List.map_singleton]
      change r.next.bind _ = _
      rw [hcall]
      rfl

end Follows

/-! ### Some calls in a row -/

theorem Span.raw_ne_empty {text : String} {span : Span} (h : span ∈ spans text) : span.raw ≠ "" := by
  rw [spans_eq_merged] at h
  have hsound := (wellFormed_merged_read text.toList).sound span h
  cases span with
  | literal text => exact hsound.1
  | reference key => simp [raw, referenceText]

theorem Span.length_le_utf8ByteSize_rawText {ss : List Span} (h : ∀ span ∈ ss, span.raw ≠ "") :
    ss.length ≤ (rawText ss).utf8ByteSize := by
  induction ss with
  | nil => exact Nat.zero_le _
  | cons span ss ih =>
      obtain ⟨hspan, hrest⟩ := List.forall_mem_cons.1 h
      have hpos : 0 < span.raw.utf8ByteSize := by
        rwa [Nat.pos_iff_ne_zero, ne_eq, String.utf8ByteSize_eq_zero_iff]
      have hlength := ih hrest
      rw [List.length_cons, Span.rawText_cons, String.utf8ByteSize_append]
      omega

theorem length_spans_le (text : String) : (spans text).length ≤ text.utf8ByteSize := by
  have h : (spans text).length ≤ (rawText (spans text)).utf8ByteSize :=
    Span.length_le_utf8ByteSize_rawText fun _ => Span.raw_ne_empty
  rwa [rawText_spans] at h

theorem reduceOption_map_range_getElem? {α β : Type} (f : α → β) (xs : List α) (n : Nat) :
    ((List.range n).map fun i => xs[i]?.map f).reduceOption = (xs.take n).map f := by
  induction n with
  | zero => rfl
  | succ n ih =>
      rw [List.range_succ, List.map_append, List.reduceOption_append, ih, List.take_add_one, List.map_append,
        List.map_singleton]
      cases xs[n]? <;> rfl

theorem SpanReader.next?_eq_none_of_drain {s : SpanReader} (h : s.drain = []) : s.next? = none := by
  cases hnext : s.next? with
  | none => rfl
  | some step =>
      rw [drain_of_next?_eq_some hnext] at h
      cases h

/-- What some calls in a row have come to, all of their cuts made. -/
structure CallsTo (text : String) (n : Nat) (answers : List (Option Piece)) (r : OffsetReader) : Prop where
  calls : ({ text } : OffsetReader).calls n = .ok (answers, r)
  eq_spans : answers = (List.range n).map fun i => (spans text)[i]?.map Piece.ofSpan
  inText : r.offset ≤ text.utf8ByteSize
  boundary : IsBoundary text r.offset
  /-- What is handed out, what waits and what is unread make up the text. -/
  whole : ∃ unread, cut text r.offset text.utf8ByteSize = .ok unread ∧
    text = String.join ((answers.reduceOption ++ r.pending.toList).map Piece.raw) ++ unread
  nonempty : ∀ piece, some piece ∈ answers → piece.raw ≠ ""
  length_le : answers.reduceOption.length ≤ text.utf8ByteSize
  /-- The reader stays where it is from the first call without a span on, and that comes within the size of the text. -/
  ended : none ∈ answers ∨ text.utf8ByteSize ≤ n → r.next = .ok (none, r)

/-- What holds of a text that is read by offsets. -/
structure ReadsByOffsets (text : String) : Prop where
  cuts : ∀ start stop, (∃ part, cut text start stop = .ok part) ↔ Cuttable text start stop
  /-- The search for a reference comes to an end, as each round of it moves on within the text. -/
  rounds : ∀ cursor next, Round.ofCursor text cursor = .ok (.goOn next) → cursor < next ∧ next ≤ text.utf8ByteSize
  calls : ∀ n, ∃ answers r, CallsTo text n answers r

theorem exists_cut_eq_ok_iff {text : String} {start stop : Nat} :
    (∃ part, cut text start stop = .ok part) ↔ Cuttable text start stop := by
  rw [cut]
  split <;> simp [*]

theorem Follows.callsTo {text : String} {n : Nat} {r : OffsetReader} {s : SpanReader}
    (hcalls : ({ text } : OffsetReader).calls n =
      .ok ((List.range n).map fun i => (spans text)[i]?.map Piece.ofSpan, r))
    (h : Follows text ((spans text).take n) r s) (hdrain : s.drain = (spans text).drop n) :
    CallsTo text n ((List.range n).map fun i => (spans text)[i]?.map Piece.ofSpan) r where
  calls := hcalls
  eq_spans := rfl
  inText := by
    rw [h.size_eq]
    omega
  boundary := by
    rw [h.offset]
    exact isBoundary_of_append h.whole
  whole := by
    refine ⟨String.ofList s.unread, cut_eq _ _ "" ?_ h.offset ?_, ?_⟩
    · rw [String.append_empty]
      exact h.whole
    · rw [h.size_eq, h.offset]
    · rw [reduceOption_map_range_getElem?, h.pending, Option.toList_map, ← List.map_append,
        ← Span.rawText_eq_join_ofSpan]
      exact h.whole
  nonempty piece hpiece := by
    obtain ⟨i, -, hi⟩ := List.mem_map.1 hpiece
    obtain ⟨span, hspan, rfl⟩ := Option.map_eq_some_iff.1 hi
    rw [Piece.raw_ofSpan]
    exact Span.raw_ne_empty (List.mem_of_getElem? hspan)
  length_le := by
    have hlength := length_spans_le text
    rw [reduceOption_map_range_getElem?, List.length_map, List.length_take]
    omega
  ended hend := by
    have hlength : (spans text).length ≤ n := by
      rcases hend with hnone | hsize
      · obtain ⟨i, hi, hnone⟩ := List.mem_map.1 hnone
        have hle := List.getElem?_eq_none_iff.1 (Option.map_eq_none_iff.1 hnone)
        have hlt := List.mem_range.1 hi
        omega
      · exact (length_spans_le text).trans hsize
    rw [List.drop_eq_nil_of_le hlength] at hdrain
    exact h.next_of_none (SpanReader.next?_eq_none_of_drain hdrain)

/-- **Reading by offsets is safe and comes to an end.** No cut is at bounds that do not allow it, whatever the text and
however often the reader is called; it hands out the spans of the text, each of them once and none of them empty. -/
theorem readsByOffsets (text : String) : ReadsByOffsets text where
  cuts _ _ := exists_cut_eq_ok_iff
  rounds _ _ := Round.lt_of_ofCursor_eq_goOn
  calls n :=
    have ⟨r, _, hcalls, hfollows, hdrain⟩ := Follows.calls text n
    ⟨_, r, hfollows.callsTo hcalls hdrain⟩

end SecretRefs

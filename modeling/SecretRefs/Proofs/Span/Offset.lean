import SecretRefs.Proofs.Span.WellFormed
import SecretRefs.Span.Offset

/-! Searching and cutting by offsets. Where a text is the part that is done and a rest, the offset is the size of the part
that is done. A percent sign is one byte, which no other character has among its own, so a search of the bytes finds what
a search of the characters finds, and whatever is cut out between two percent signs begins and ends between characters. -/

namespace SecretRefs

open Text (isBlank)

/-! ### Bytes -/

theorem percentByte_eq_ofNat_iff {n : Nat} (hn : n < 256) : percentByte = UInt8.ofNat n ↔ n = 0x25 := by
  rw [← UInt8.toNat_inj, UInt8.toNat_ofNat_of_lt' hn, eq_comm]
  rfl

/-- All bytes of a character beyond the first 128 have their highest bit set. -/
theorem percentByte_mem_utf8EncodeChar_iff {c : Char} : percentByte ∈ String.utf8EncodeChar c ↔ c = '%' := by
  have hc : c = '%' ↔ c.val.toNat = 0x25 := by
    rw [Char.ext_iff, ← UInt32.toNat_inj]
    rfl
  rw [hc, String.utf8EncodeChar]
  split_ifs <;>
    simp (disch := omega) only [List.mem_cons, List.not_mem_nil, or_false, percentByte_eq_ofNat_iff] <;> omega

theorem utf8EncodeChar_percent : String.utf8EncodeChar '%' = [percentByte] := by decide

/-- The first percent sign among the bytes is the first among the characters. -/
theorem findIdx?_percentByte (cs : List Char) :
    (cs.flatMap String.utf8EncodeChar).findIdx? (· == percentByte) =
      (splitAtPercent cs).map fun parts => (parts.1.flatMap String.utf8EncodeChar).length := by
  induction cs with
  | nil => rfl
  | cons c cs ih =>
      rw [List.flatMap_cons, List.findIdx?_append, ih, splitAtPercent]
      by_cases hc : c = '%'
      · subst hc
        rw [if_pos rfl, utf8EncodeChar_percent]
        rfl
      · have hnone : (String.utf8EncodeChar c).findIdx? (· == percentByte) = none := by
          rw [List.findIdx?_eq_none_iff]
          rintro b hb
          rw [beq_eq_false_iff_ne]
          rintro rfl
          exact hc (percentByte_mem_utf8EncodeChar_iff.1 hb)
        rw [hnone, if_neg hc, Option.none_or, Option.map_map, Option.map_map]
        congr 1
        funext parts
        simp [Nat.add_comm]

theorem toList_toByteArray (text : String) :
    text.toByteArray.data.toList = text.toList.flatMap String.utf8EncodeChar := by
  rw [← String.utf8Encode_toList, List.utf8Encode, List.data_toByteArray]

theorem length_flatMap_utf8EncodeChar (cs : List Char) :
    (cs.flatMap String.utf8EncodeChar).length = (String.ofList cs).utf8ByteSize := by
  rw [← String.size_toByteArray, ← ByteArray.size_data, ← Array.length_toList, toList_toByteArray, String.toList_ofList]

variable {text done : String} {cs : List Char}

theorem findPercent?_eq (h : text = done ++ String.ofList cs) :
    findPercent? text done.utf8ByteSize =
      (splitAtPercent cs).map fun parts => done.utf8ByteSize + (String.ofList parts.1).utf8ByteSize := by
  have hbytes : (text.toByteArray.data.toList.drop done.utf8ByteSize) = cs.flatMap String.utf8EncodeChar := by
    have hsize : done.utf8ByteSize = (done.toList.flatMap String.utf8EncodeChar).length := by
      rw [length_flatMap_utf8EncodeChar, String.ofList_toList]
    rw [toList_toByteArray, h, String.toList_append, String.toList_ofList, List.flatMap_append, hsize, List.drop_left]
  have hle : done.utf8ByteSize ≤ text.utf8ByteSize := by
    rw [h, String.utf8ByteSize_append]
    omega
  rw [findPercent?, if_pos hle, hbytes, findIdx?_percentByte, Option.map_map]
  simp only [Function.comp_def, length_flatMap_utf8EncodeChar]

/-! ### Cuts -/

theorem isBoundary_of_append {before after : String} (h : text = before ++ after) :
    IsBoundary text before.utf8ByteSize :=
  String.Pos.Raw.isValid_iff_exists_append.2 ⟨before, after, h, rfl⟩

/-- A part of a text is cut out by the sizes of what is before it and of what is before its end. -/
theorem cut_eq (before part after : String) (h : text = before ++ part ++ after) {start stop : Nat}
    (hstart : start = before.utf8ByteSize) (hstop : stop = before.utf8ByteSize + part.utf8ByteSize) :
    cut text start stop = .ok part := by
  have hcuttable : Cuttable text start stop := by
    subst hstart hstop
    have hsize : text.utf8ByteSize = before.utf8ByteSize + part.utf8ByteSize + after.utf8ByteSize := by
      rw [h, String.utf8ByteSize_append, String.utf8ByteSize_append]
    refine ⟨by omega, by omega, isBoundary_of_append (h.trans (String.append_assoc ..)), ?_⟩
    rw [← String.utf8ByteSize_append]
    exact isBoundary_of_append h
  rw [cut, dif_pos hcuttable, Except.ok.injEq, ← String.toByteArray_inj]
  change text.toByteArray.extract start stop = part.toByteArray
  rw [h, String.toByteArray_append, hstart, hstop, ← String.utf8ByteSize_append, ← String.size_toByteArray (s := before ++ part),
    ByteArray.extract_append_size_left, String.toByteArray_append]
  exact ByteArray.extract_append_eq_right String.size_toByteArray.symm ByteArray.size_append

/-! ### The search for a reference -/

theorem append_ofList_percent (done : String) (before inner : List Char) :
    done ++ String.ofList (before ++ '%' :: inner) = done ++ String.ofList before ++ "%" ++ String.ofList inner := by
  apply String.toList_injective
  simp

theorem utf8ByteSize_append_percent (before : String) : (before ++ "%").utf8ByteSize = before.utf8ByteSize + 1 :=
  String.utf8ByteSize_append

/-- What a round comes to, told by the characters. -/
theorem Round.ofCursor_eq (h : text = done ++ String.ofList cs) :
    ofCursor text done.utf8ByteSize = .ok
      (match splitAtPercent cs with
      | none => finished
      | some (before, inner) =>
        match splitAtPercent inner with
        | none => finished
        | some (key, _) =>
          let opening := done.utf8ByteSize + (String.ofList before).utf8ByteSize
          ofKey opening (opening + 1 + (String.ofList key).utf8ByteSize) (String.ofList key)) := by
  rw [ofCursor, findPercent?_eq h]
  rcases hopen : splitAtPercent cs with _ | ⟨before, inner⟩
  · rfl
  obtain ⟨rfl, -⟩ := splitAtPercent_eq_some hopen
  rw [append_ofList_percent] at h
  have hclose := findPercent?_eq h
  rw [utf8ByteSize_append_percent, String.utf8ByteSize_append] at hclose
  rw [Option.map_some]
  dsimp only
  rw [hclose]
  rcases hinner : splitAtPercent inner with _ | ⟨key, after⟩
  · rfl
  obtain ⟨rfl, -⟩ := splitAtPercent_eq_some hinner
  rw [append_ofList_percent, String.append_assoc] at h
  have hcut := cut_eq _ _ _ h rfl rfl
  rw [utf8ByteSize_append_percent, String.utf8ByteSize_append] at hcut
  rw [Option.map_some]
  dsimp only
  rw [hcut]
  rfl

theorem findReference?_eq_bind (text : String) (cursor : Nat) :
    findReference? text cursor = (Round.ofCursor text cursor).bind fun
      | .finished => .ok none
      | .found start stop => .ok (some (start, stop))
      | .goOn next => findReference? text next := by
  rw [findReference?]
  split <;> simp [*, Except.bind]

/-- The bounds of the raw text of a reference that is found behind some bytes. -/
def Found.bounds (start : Nat) (found : Found) : Nat × Nat :=
  (start + (String.ofList found.before).utf8ByteSize,
    start + (String.ofList found.before).utf8ByteSize + (String.ofList found.key).utf8ByteSize + 2)

theorem Found.map_bounds_precededBy (start : Nat) (skipped : List Char) (found? : Option Found) :
    (found?.map (·.precededBy skipped)).map (bounds start) =
      found?.map (bounds (start + (String.ofList skipped).utf8ByteSize)) := by
  rw [Option.map_map]
  apply Option.map_congr
  simp [bounds, precededBy, Nat.add_assoc]

theorem Round.ofKey_cons (opening closing : Nat) (k : Char) (key : List Char) :
    ofKey opening closing (String.ofList (k :: key)) =
      if (k :: key).any isBlank then goOn closing else found opening (closing + 1) := by
  have hne : (String.ofList (k :: key)).isEmpty = false := by simp
  rw [ofKey, hne, if_neg Bool.false_ne_true, String.toList_ofList]

/-- A search by offsets finds what a search by characters finds, and never faults. -/
theorem findReference?_eq (h : text = done ++ String.ofList cs) :
    findReference? text done.utf8ByteSize = .ok ((firstReference? cs).map (Found.bounds done.utf8ByteSize)) := by
  fun_induction firstReference? cs generalizing done with
  | case1 cs hopen =>
      rw [findReference?_eq_bind, Round.ofCursor_eq h, hopen]
      rfl
  | case2 cs before inner hopen hclose =>
      rw [findReference?_eq_bind, Round.ofCursor_eq h]
      simp only [hopen, hclose]
      rfl
  | case3 cs before inner hopen after hclose ih =>
      rw [findReference?_eq_bind, Round.ofCursor_eq h]
      simp only [hopen, hclose]
      obtain ⟨rfl, -⟩ := splitAtPercent_eq_some hopen
      obtain ⟨rfl, -⟩ := splitAtPercent_eq_some hclose
      have hrest : text = done ++ String.ofList (before ++ ['%', '%']) ++ String.ofList after := by
        rw [h]
        apply String.toList_injective
        simp
      have hsize : (String.ofList (before ++ ['%', '%'])).utf8ByteSize = (String.ofList before).utf8ByteSize + 2 := by
        rw [String.ofList_append, String.utf8ByteSize_append]
        rfl
      have hnext := ih hrest
      rw [String.utf8ByteSize_append, hsize] at hnext
      rw [Found.map_bounds_precededBy, hsize]
      exact hnext
  | case4 cs before inner hopen k key after hclose hblank ih =>
      rw [findReference?_eq_bind, Round.ofCursor_eq h]
      simp only [hopen, hclose, Round.ofKey_cons, if_pos hblank]
      obtain ⟨rfl, -⟩ := splitAtPercent_eq_some hopen
      obtain ⟨rfl, -⟩ := splitAtPercent_eq_some hclose
      have hrest : text = done ++ String.ofList (before ++ '%' :: k :: key) ++ String.ofList ('%' :: after) := by
        rw [h]
        apply String.toList_injective
        simp
      have hsize : (String.ofList (before ++ '%' :: k :: key)).utf8ByteSize =
          (String.ofList before).utf8ByteSize + 1 + (String.ofList (k :: key)).utf8ByteSize := by
        rw [← String.empty_append (s := String.ofList (before ++ '%' :: k :: key)), append_ofList_percent,
          String.utf8ByteSize_append, utf8ByteSize_append_percent, String.empty_append]
      have hnext := ih hrest
      rw [String.utf8ByteSize_append, hsize] at hnext
      rw [Found.map_bounds_precededBy, hsize]
      rw [← Nat.add_assoc, ← Nat.add_assoc] at hnext ⊢
      exact hnext
  | case5 cs before inner hopen k key after hclose hblank =>
      rw [findReference?_eq_bind, Round.ofCursor_eq h]
      simp only [hopen, hclose, Round.ofKey_cons, if_neg hblank]
      have hstop (opening size : Nat) : opening + 1 + size + 1 = opening + size + 2 := by omega
      simp only [Except.bind, Option.map_some, Found.bounds, hstop]

/-- What is found is a part of the text. -/
theorem firstReference?_eq_some {found : Found} (h : firstReference? cs = some found) :
    cs = found.before ++ '%' :: (found.key ++ '%' :: found.after) := by
  fun_induction firstReference? cs generalizing found with
  | case1 | case2 => cases h
  | case3 cs before inner hopen after hclose ih =>
      obtain ⟨rfl, -⟩ := splitAtPercent_eq_some hopen
      obtain ⟨rfl, -⟩ := splitAtPercent_eq_some hclose
      obtain ⟨next, hnext, rfl⟩ := Option.map_eq_some_iff.1 h
      simp [Found.precededBy, ← ih hnext]
  | case4 cs before inner hopen k key after hclose hblank ih =>
      obtain ⟨rfl, -⟩ := splitAtPercent_eq_some hopen
      obtain ⟨rfl, -⟩ := splitAtPercent_eq_some hclose
      obtain ⟨next, hnext, rfl⟩ := Option.map_eq_some_iff.1 h
      simp [Found.precededBy, ← ih hnext]
  | case5 cs before inner hopen k key after hclose hblank =>
      obtain ⟨rfl, -⟩ := splitAtPercent_eq_some hopen
      obtain ⟨rfl, -⟩ := splitAtPercent_eq_some hclose
      obtain rfl := Option.some.inj h
      rfl

theorem eq_of_firstReference? {found : Found} (h : text = done ++ String.ofList cs) (hfound : firstReference? cs = some found) :
    text = done ++ String.ofList found.before ++ Span.referenceText (String.ofList found.key) ++
      String.ofList found.after := by
  rw [h, firstReference?_eq_some hfound, append_ofList_percent, append_ofList_percent, Span.referenceText]
  simp only [String.append_assoc]

theorem Found.bounds_eq (done : String) (found : Found) :
    found.bounds done.utf8ByteSize =
      ((done ++ String.ofList found.before).utf8ByteSize,
        (done ++ String.ofList found.before ++ Span.referenceText (String.ofList found.key)).utf8ByteSize) := by
  have hpercent : "%".utf8ByteSize = 1 := rfl
  simp only [bounds, Span.referenceText, String.utf8ByteSize_append, hpercent, Prod.mk.injEq, true_and]
  omega

/-- Where a search finds a reference, its parts are cut out. -/
theorem cut_of_firstReference? {found : Found} (h : text = done ++ String.ofList cs) (hfound : firstReference? cs = some found)
    {start stop : Nat} (hbounds : found.bounds done.utf8ByteSize = (start, stop)) :
    cut text (start + 1) (stop - 1) = .ok (String.ofList found.key) ∧
      cut text start stop = .ok (Span.referenceText (String.ofList found.key)) ∧
      cut text done.utf8ByteSize start = .ok (String.ofList found.before) := by
  have htext := eq_of_firstReference? h hfound
  have hpercent : "%".utf8ByteSize = 1 := rfl
  rw [Found.bounds_eq] at hbounds
  obtain ⟨rfl, rfl⟩ := Prod.mk.inj hbounds
  rw [Span.referenceText] at htext ⊢
  refine ⟨cut_eq (done ++ String.ofList found.before ++ "%") _ ("%" ++ String.ofList found.after) ?_ ?_ ?_,
    cut_eq (done ++ String.ofList found.before) _ (String.ofList found.after) htext rfl String.utf8ByteSize_append,
    cut_eq done _ ("%" ++ String.ofList found.key ++ "%" ++ String.ofList found.after) ?_ rfl String.utf8ByteSize_append⟩
  · rw [htext]
    simp only [String.append_assoc]
  · rw [utf8ByteSize_append_percent]
  · simp only [String.utf8ByteSize_append, hpercent]
    omega
  · rw [htext]
    simp only [String.append_assoc]

end SecretRefs

import CodeHighlight.Proofs.Text.Boundary
import CodeHighlight.Proofs.Text.ByteOrder
import Mathlib.Order.Bounds.Basic

/-! # Going back to a boundary

The bytes of a text show where its characters begin: each character has one byte that begins it, and
all bytes after that one go on with it. So going back byte by byte from an offset comes to the
greatest boundary that is not beyond it, and as no character has more than four bytes it does so in
three steps at most. -/
namespace CodeHighlight.Text

/-! ## The bytes of a character -/

theorem encode_cons (c : Char) (cs : List Char) :
    encode (c :: cs) = String.utf8EncodeChar c ++ encode cs := List.flatMap_cons

@[simp]
theorem length_encode (cs : List Char) : (encode cs).length = byteLength cs := by
  induction cs with
  | nil => rfl
  | cons c cs ih =>
    rw [encode_cons, List.length_append, String.length_utf8EncodeChar, ih, byteLength]

theorem isContinuation_byte {n : Nat} (h : n < 256) :
    isContinuation (UInt8.ofNat n) = true ↔ 0x80 ≤ n ∧ n < 0xC0 := by
  simp [isContinuation, UInt8.le_iff_toNat_le, UInt8.lt_iff_toNat_lt, Nat.mod_eq_of_lt h]

/-- One byte begins a character, and all after it go on with it. -/
theorem exists_encodeChar (c : Char) :
    ∃ first others, String.utf8EncodeChar c = first :: others ∧ isContinuation first = false ∧
      ∀ byte ∈ others, isContinuation byte = true := by
  have hchar : c.val.toNat < 0x110000 := by
    rcases c.valid with h | ⟨-, h⟩ <;> omega
  simp only [String.utf8EncodeChar]
  generalize c.val.toNat = n at *
  split_ifs <;>
  · refine ⟨_, _, rfl, ?_, ?_⟩
    · rw [Bool.eq_false_iff, ne_eq, isContinuation_byte (by omega)]
      omega
    · simp (disch := omega) only [List.forall_mem_cons, List.not_mem_nil, false_implies,
        implies_true, and_true, isContinuation_byte] <;>
      omega

theorem isContinuation_encodeChar {c : Char} {offset : Nat} {byte : UInt8}
    (h : (String.utf8EncodeChar c)[offset]? = some byte) :
    isContinuation byte = true ↔ 0 < offset := by
  obtain ⟨first, others, hbytes, hfirst, hothers⟩ := exists_encodeChar c
  rw [hbytes] at h
  cases offset with
  | zero =>
    obtain rfl : first = byte := by simpa using h
    simp [hfirst]
  | succ offset =>
    rw [List.getElem?_cons_succ] at h
    simp [hothers byte (List.mem_of_getElem? h)]

theorem isContinuation_head {cs : List Char} {byte : UInt8} (h : (encode cs)[0]? = some byte) :
    isContinuation byte = false := by
  cases cs with
  | nil => cases h
  | cons c cs =>
    obtain ⟨first, others, hbytes, hfirst, -⟩ := exists_encodeChar c
    rw [encode_cons, hbytes] at h
    obtain rfl : first = byte := by simpa using h
    exact hfirst

/-! ## Where a text may be cut -/

/-- Within the first character of a text only its beginning is a cut. -/
theorem isCut_within {c : Char} (cs : List Char) {offset : Nat} (h : offset < c.utf8Size) :
    isCut (encode (c :: cs)) offset = true ↔ offset = 0 := by
  have hlt : offset < (String.utf8EncodeChar c).length := by
    rwa [String.length_utf8EncodeChar]
  have hbyte := List.getElem?_eq_getElem hlt
  have hcontinues := isContinuation_encodeChar hbyte
  rw [isCut, encode_cons, List.getElem?_append_left hlt, hbyte]
  by_cases hzero : offset = 0
  · simp [hzero]
  · simp [hzero, hcontinues.mpr (Nat.pos_of_ne_zero hzero)]

/-- The first character has no bearing on the cuts after it. -/
theorem isCut_after (c : Char) (cs : List Char) (offset : Nat) :
    isCut (encode (c :: cs)) (c.utf8Size + offset) = isCut (encode cs) offset := by
  have hpos := c.utf8Size_pos
  have hindex : (encode (c :: cs))[c.utf8Size + offset]? = (encode cs)[offset]? := by
    rw [encode_cons, List.getElem?_append_right (by simp), String.length_utf8EncodeChar,
      Nat.add_sub_cancel_left]
  have hlength : (encode (c :: cs)).length = c.utf8Size + (encode cs).length := by
    rw [length_encode, length_encode, byteLength]
  rw [isCut, isCut, hindex, hlength]
  cases hbyte : (encode cs)[offset]? with
  | none => simp
  | some byte =>
    by_cases hzero : offset = 0
    · subst hzero
      simp [isContinuation_head hbyte]
    · have hlater : c.utf8Size + offset ≠ 0 := by omega
      rw [beq_false_of_ne hzero, beq_false_of_ne hlater]

/-- The bytes show the boundaries. -/
theorem isCut_encode_iff {cs : List Char} {offset : Nat} :
    isCut (encode cs) offset = true ↔ IsBoundary cs offset := by
  induction cs generalizing offset with
  | nil =>
    rw [show isCut (encode []) offset = (offset == 0) from rfl, beq_iff_eq]
    constructor
    · rintro rfl
      exact isBoundary_zero []
    · intro h
      exact Nat.le_zero.mp h.le_byteLength
  | cons c cs ih =>
    have hpos := c.utf8Size_pos
    rw [isBoundary_cons]
    by_cases hwithin : offset < c.utf8Size
    · rw [isCut_within cs hwithin]
      constructor
      · exact Or.inl
      · rintro (h | ⟨rest, -, h⟩)
        · exact h
        · omega
    · obtain ⟨rest, rfl⟩ := Nat.exists_eq_add_of_le (Nat.not_lt.mp hwithin)
      rw [isCut_after, ih]
      constructor
      · intro h
        exact .inr ⟨rest, h, rfl⟩
      · rintro (h | ⟨other, hother, h⟩)
        · omega
        · obtain rfl : rest = other := Nat.add_left_cancel h
          exact hother

/-! ## Boundaries of a string -/

theorem byteLength_toList (text : String) : byteLength text.toList = text.utf8ByteSize := by
  rw [← length_encode, encode, ← bytes_eq]
  simp [bytes]

theorem isBoundary_toList_iff {text : String} {offset : Nat} :
    IsBoundary text.toList offset ↔ (⟨offset⟩ : String.Pos.Raw).IsValid text := by
  rw [String.Pos.Raw.isValid_iff_exists_append]
  constructor
  · rintro ⟨before, after, htext, rfl⟩
    refine ⟨String.ofList before, String.ofList after, ?_, ?_⟩
    · rw [← String.toList_inj, htext]
      simp
    · rw [String.Pos.Raw.ext_iff, String.byteIdx_rawEndPos, ← byteLength_toList,
        String.toList_ofList]
  · rintro ⟨before, after, rfl, hoffset⟩
    refine ⟨before.toList, after.toList, String.toList_append, ?_⟩
    rw [String.Pos.Raw.ext_iff, String.byteIdx_rawEndPos] at hoffset
    rw [byteLength_toList, ← hoffset]

/-! ## Going back -/

/-- All that is passed on the way back is no cut. -/
theorem retreat_isGreatest {bytes : List UInt8} (hzero : isCut bytes 0 = true) (offset : Nat) :
    IsGreatest {cut | isCut bytes cut = true ∧ cut ≤ offset} (retreat bytes offset) := by
  induction offset with
  | zero => exact ⟨⟨hzero, Nat.le_refl 0⟩, fun cut hcut => hcut.2⟩
  | succ offset ih =>
    obtain ⟨⟨hcut, hle⟩, hgreatest⟩ := ih
    rw [retreat]
    split
    · rename_i hhere
      exact ⟨⟨hhere, Nat.le_refl _⟩, fun cut hcut => hcut.2⟩
    · rename_i hnot
      refine ⟨⟨hcut, Nat.le_succ_of_le hle⟩, ?_⟩
      rintro cut ⟨hother, hbelow⟩
      apply hgreatest
      refine ⟨hother, ?_⟩
      by_cases hnext : cut = offset + 1
      · subst hnext
        exact absurd hother hnot
      · omega

theorem clampOffset_isGreatest (cs : List Char) (offset : Nat) :
    IsGreatest {boundary | IsBoundary cs boundary ∧ boundary ≤ min offset (byteLength cs)}
      (clampOffset cs offset) := by
  have h := retreat_isGreatest (isCut_encode_iff.mpr (isBoundary_zero cs))
    (min offset (byteLength cs))
  simp only [isCut_encode_iff] at h
  rw [clampOffset, length_encode]
  exact h

/-- Going back from the offset and going forward from the beginning come to the same boundary. -/
@[simp]
theorem clampOffset_eq_floorBoundary (cs : List Char) (offset : Nat) :
    clampOffset cs offset = floorBoundary cs offset := by
  refine (clampOffset_isGreatest cs offset).unique ⟨⟨isBoundary_floorBoundary cs offset, ?_⟩, ?_⟩
  · exact Nat.le_min.mpr ⟨floorBoundary_le_offset cs offset, floorBoundary_le_byteLength cs offset⟩
  · rintro boundary ⟨hboundary, hle⟩
    exact hboundary.le_floorBoundary (Nat.le_min.mp hle).1

/-- No character has more than four bytes, so there are three to go back at most. -/
theorem le_floorBoundary_add_three (cs : List Char) (offset : Nat) :
    min offset (byteLength cs) ≤ floorBoundary cs offset + 3 := by
  induction cs generalizing offset with
  | nil => simp [byteLength]
  | cons c cs ih =>
    have hfour := c.utf8Size_le_four
    have hrest := ih (offset - c.utf8Size)
    rw [floorBoundary, byteLength]
    split <;> omega

end CodeHighlight.Text

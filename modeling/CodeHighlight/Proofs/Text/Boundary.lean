import CodeHighlight.Text.Utf8

/-! # Boundaries and slices

Boundaries of a text are offsets between its characters. Clamping gives the greatest boundary that
is not beyond an offset, and two boundaries in order always enclose a slice. -/
namespace CodeHighlight.Text

theorem isBoundary_zero (cs : List Char) : IsBoundary cs 0 := ⟨[], cs, rfl, rfl⟩

theorem isBoundary_byteLength (cs : List Char) : IsBoundary cs (byteLength cs) :=
  ⟨cs, [], by simp, rfl⟩

theorem byteLength_eq_zero {cs : List Char} (h : byteLength cs = 0) : cs = [] := by
  cases cs with
  | nil => rfl
  | cons c cs =>
    have := c.utf8Size_pos
    rw [byteLength] at h
    omega

theorem IsBoundary.le_byteLength {cs : List Char} {offset : Nat} (h : IsBoundary cs offset) :
    offset ≤ byteLength cs := by
  obtain ⟨before, after, rfl, rfl⟩ := h
  simp

theorem isBoundary_cons {c : Char} {cs : List Char} {offset : Nat} :
    IsBoundary (c :: cs) offset ↔
      offset = 0 ∨ ∃ rest, IsBoundary cs rest ∧ offset = c.utf8Size + rest := by
  constructor
  · rintro ⟨before, after, heq, rfl⟩
    cases before with
    | nil => exact Or.inl rfl
    | cons b before =>
      obtain ⟨rfl, rfl⟩ := List.cons.inj heq
      exact Or.inr ⟨byteLength before, ⟨before, after, rfl, rfl⟩, rfl⟩
  · rintro (rfl | ⟨rest, ⟨before, after, rfl, rfl⟩, rfl⟩)
    · exact isBoundary_zero _
    · exact ⟨c :: before, after, rfl, rfl⟩

/-- No boundary lies between the clamped offset and the offset. -/
theorem IsBoundary.le_floorBoundary {cs : List Char} {boundary offset : Nat}
    (h : IsBoundary cs boundary) (hle : boundary ≤ offset) :
    boundary ≤ floorBoundary cs offset := by
  induction cs generalizing boundary offset with
  | nil => exact h.le_byteLength
  | cons c cs ih =>
    rcases isBoundary_cons.mp h with rfl | ⟨rest, hrest, rfl⟩
    · exact Nat.zero_le _
    · have : rest ≤ floorBoundary cs (offset - c.utf8Size) := ih hrest (by omega)
      rw [floorBoundary, if_pos (by omega)]
      omega

theorem floorBoundary_mono (cs : List Char) {offset other : Nat} (h : offset ≤ other) :
    floorBoundary cs offset ≤ floorBoundary cs other :=
  (isBoundary_floorBoundary cs offset).le_floorBoundary
    (Nat.le_trans (floorBoundary_le_offset cs offset) h)

theorem IsBoundary.floorBoundary_eq {cs : List Char} {boundary : Nat} (h : IsBoundary cs boundary) :
    floorBoundary cs boundary = boundary :=
  Nat.le_antisymm (floorBoundary_le_offset cs boundary) (h.le_floorBoundary (Nat.le_refl _))

/-- What comes after a text has no bearing on the offsets within it. -/
theorem floorBoundary_append_left {before : List Char} (after : List Char) {offset : Nat}
    (h : offset ≤ byteLength before) :
    floorBoundary (before ++ after) offset = floorBoundary before offset := by
  induction before generalizing offset with
  | nil =>
    rw [byteLength, Nat.le_zero] at h
    subst h
    exact Nat.le_zero.mp (floorBoundary_le_offset _ 0)
  | cons c cs ih =>
    rw [byteLength] at h
    rw [List.cons_append, floorBoundary, floorBoundary]
    split
    · rw [ih (by omega)]
    · rfl

theorem floorBoundary_append_right (before after : List Char) (offset : Nat) :
    floorBoundary (before ++ after) (byteLength before + offset) =
      byteLength before + floorBoundary after offset := by
  induction before with
  | nil => simp [byteLength]
  | cons c cs ih =>
    rw [List.cons_append, floorBoundary, byteLength, if_pos (by omega), Nat.add_assoc,
      Nat.add_sub_cancel_left, ih, Nat.add_assoc]

section

variable {before : List Char} (after : List Char) {c : Char} {offset : Nat}

/-- Every offset within a character is moved to where it begins. -/
theorem floorBoundary_within (hstart : byteLength before ≤ offset)
    (hstop : offset < byteLength before + c.utf8Size) :
    floorBoundary (before ++ c :: after) offset = byteLength before := by
  obtain ⟨past, rfl⟩ := Nat.exists_eq_add_of_le hstart
  have hpast : ¬ c.utf8Size ≤ past := by omega
  rw [floorBoundary_append_right, floorBoundary, if_neg hpast, Nat.add_zero]

theorem le_floorBoundary_beyond (h : byteLength before + c.utf8Size ≤ offset) :
    byteLength before + c.utf8Size ≤ floorBoundary (before ++ c :: after) offset := by
  have hboundary : IsBoundary (before ++ c :: after) (byteLength before + c.utf8Size) :=
    ⟨before ++ [c], after, by simp, by simp [byteLength]⟩
  exact hboundary.le_floorBoundary h

end

/-- Two boundaries in order cut a text in three. -/
theorem IsBoundary.split {cs : List Char} {start stop : Nat} (hstart : IsBoundary cs start)
    (hstop : IsBoundary cs stop) (hle : start ≤ stop) :
    ∃ before middle after, cs = before ++ middle ++ after ∧
      byteLength before = start ∧ byteLength middle = stop - start := by
  obtain ⟨before, rest, rfl, rfl⟩ := hstart
  obtain ⟨upto, after, heq, rfl⟩ := hstop
  rcases List.append_eq_append_iff.mp heq with ⟨middle, rfl, rfl⟩ | ⟨overlap, rfl, rfl⟩
  · exact ⟨before, middle, after, by simp, rfl, by simp⟩
  · rw [byteLength_append] at hle
    obtain rfl : overlap = [] := byteLength_eq_zero (by omega)
    exact ⟨upto, [], rest, by simp, by simp, by simp [byteLength]⟩

theorem dropBytes?_cons (c : Char) (cs : List Char) (offset : Nat) :
    dropBytes? (c :: cs) (c.utf8Size + offset) = dropBytes? cs offset := by
  have hpos := c.utf8Size_pos
  obtain ⟨n, hn⟩ : ∃ n, c.utf8Size + offset = n + 1 := ⟨c.utf8Size + offset - 1, by omega⟩
  rw [hn, dropBytes?, if_pos (by omega), show n + 1 - c.utf8Size = offset by omega]

theorem takeBytes?_cons (c : Char) (cs : List Char) (offset : Nat) :
    takeBytes? (c :: cs) (c.utf8Size + offset) = (takeBytes? cs offset).map (c :: ·) := by
  have hpos := c.utf8Size_pos
  obtain ⟨n, hn⟩ : ∃ n, c.utf8Size + offset = n + 1 := ⟨c.utf8Size + offset - 1, by omega⟩
  rw [hn, takeBytes?, if_pos (by omega), show n + 1 - c.utf8Size = offset by omega]

theorem dropBytes?_append (before after : List Char) :
    dropBytes? (before ++ after) (byteLength before) = some after := by
  induction before with
  | nil => simp [byteLength, dropBytes?]
  | cons c cs ih => rw [List.cons_append, byteLength, dropBytes?_cons, ih]

theorem takeBytes?_append (before after : List Char) :
    takeBytes? (before ++ after) (byteLength before) = some before := by
  induction before with
  | nil => simp [byteLength, takeBytes?]
  | cons c cs ih => rw [List.cons_append, byteLength, takeBytes?_cons, ih, Option.map_some]

theorem slice?_append (before middle after : List Char) :
    slice? (before ++ middle ++ after) (byteLength before)
      (byteLength before + byteLength middle) = some middle := by
  rw [slice?, if_pos (Nat.le_add_right _ _), List.append_assoc, dropBytes?_append,
    Option.bind_some, Nat.add_sub_cancel_left, takeBytes?_append]

end CodeHighlight.Text

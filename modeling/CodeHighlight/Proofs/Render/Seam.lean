import CodeHighlight.Proofs.Render.Text

/-! # Rendering in parts

Where one text ends and another begins no capture of either passes over. The captures of the first
text stop there at the latest and those of the second start there at the earliest, so a cut at the
seam splits a piece without spans or none, and both texts together render as one after the other. -/
namespace CodeHighlight.Render

open CodeHighlight.Text CodeHighlight.Markup

variable {before after : List Char} {left right : List Capture} {seam : Nat} {piece : Nat × Nat}

/-! ## Regions on either side -/

/-- The capture lies within a text of this length, whether its ends are in order or not. -/
def Within (length : Nat) (capture : Capture) : Prop :=
  capture.start ≤ length ∧ capture.stop ≤ length

instance (length : Nat) (capture : Capture) : Decidable (Within length capture) :=
  inferInstanceAs (Decidable (_ ∧ _))

theorem region_append_left {capture : Capture} (h : Within (byteLength before) capture) :
    region (before ++ after) capture = region before capture := by
  simp only [region, clamp_eq_floorBoundary, floorBoundary_append_left after h.1,
    floorBoundary_append_left after h.2]

theorem region_append_right (capture : Capture) :
    region (before ++ after) (capture.shift (byteLength before)) =
      (region after capture).shift (byteLength before) := by
  simp only [region, Capture.shift, clamp_eq_floorBoundary, floorBoundary_append_right]

theorem regions_append (hleft : ∀ capture ∈ left, Within (byteLength before) capture) :
    regions (before ++ after) (left ++ right.map (·.shift (byteLength before))) =
      regions before left ++ (regions after right).map (·.shift (byteLength before)) := by
  have hbefore : left.map (region (before ++ after)) = left.map (region before) :=
    List.map_congr_left fun capture hcapture => region_append_left (hleft capture hcapture)
  have hafter : (right.map (·.shift (byteLength before))).map (region (before ++ after)) =
      (right.map (region after)).map (·.shift (byteLength before)) := by
    rw [List.map_map, List.map_map]
    exact List.map_congr_left fun capture _ => region_append_right capture
  have hkept : ((right.map (region after)).map (·.shift (byteLength before))).filter
      (fun region => !region.isEmpty) =
        (regions after right).map (·.shift (byteLength before)) := by
    rw [List.filter_map, regions_eq]
    simp only [Function.comp_def, Capture.isEmpty_shift]
  rw [regions_eq, List.map_append, List.filter_append, hbefore, hafter, hkept,
    regions_eq before left]

/-! ## Covers on either side -/

theorem covers_shift (region : Capture) :
    covers (seam + piece.1, seam + piece.2) (region.shift seam) = covers piece region := by
  simp [covers]

/-- What starts at the seam or after it covers no piece that starts before. -/
theorem filter_covers_right (h : piece.1 < seam) :
    (right.map (·.shift seam)).filter (covers piece) = [] := by
  rw [List.filter_eq_nil_iff]
  intro region hregion
  obtain ⟨other, -, rfl⟩ := List.mem_map.mp hregion
  rw [covers_iff, Capture.start_shift, Capture.stop_shift]
  omega

/-- What stops at the seam or before it covers no piece that stops after. -/
theorem filter_covers_left (hleft : ∀ region ∈ left, region.stop ≤ seam) (h : seam < piece.2) :
    left.filter (covers piece) = [] := by
  rw [List.filter_eq_nil_iff]
  intro region hregion
  have := hleft region hregion
  rw [covers_iff]
  omega

theorem cover_append_left (h : piece.1 < seam) :
    cover (left ++ right.map (·.shift seam)) piece = cover left piece := by
  rw [cover_eq, List.filter_append, filter_covers_right h, List.append_nil, cover_eq]

theorem cover_append_right (hleft : ∀ region ∈ left, region.stop ≤ seam) (h : 0 < piece.2) :
    cover (left ++ right.map (·.shift seam)) (seam + piece.1, seam + piece.2) =
      (cover right piece).map (·.shift seam) := by
  have hnone : left.filter (covers (seam + piece.1, seam + piece.2)) = [] :=
    filter_covers_left hleft (Nat.lt_add_of_pos_right h)
  rw [cover_eq, List.filter_append, hnone, List.nil_append, List.filter_map, cover_eq]
  simp only [Function.comp_def, covers_shift]
  exact (List.map_mergeSort fun a _ b _ => by simp).symm

/-! ## Texts on either side -/

theorem pieceText_append_left (h : piece.2 ≤ byteLength before) :
    pieceText piece 0 (before ++ after) = pieceText piece 0 before := by
  have houtside : pieceText piece (0 + byteLength before) after = [] :=
    pieceText_outside (Or.inr (by omega))
  rw [pieceText_append, houtside, List.append_nil]

theorem pieceText_shift (piece : Nat × Nat) (distance offset : Nat) (cs : List Char) :
    pieceText (distance + piece.1, distance + piece.2) (distance + offset) cs =
      pieceText piece offset cs := by
  induction cs generalizing offset with
  | nil => rfl
  | cons c cs ih => simp [pieceText, Nat.add_assoc, ih]

theorem pieceText_append_right (piece : Nat × Nat) :
    pieceText (byteLength before + piece.1, byteLength before + piece.2) 0 (before ++ after) =
      pieceText piece 0 after := by
  have houtside :
      pieceText (byteLength before + piece.1, byteLength before + piece.2) 0 before = [] :=
    pieceText_outside (Or.inl (by omega))
  rw [pieceText_append, houtside, List.nil_append, Nat.zero_add]
  exact pieceText_shift piece (byteLength before) 0 after

/-! ## Pieces on either side -/

theorem markup_shift (theme : Theme) (text : List Char) (regions : List Capture) (distance : Nat) :
    markup theme text (regions.map (·.shift distance)) = markup theme text regions := by
  rw [markup, List.filter_map, List.map_map]
  rfl

theorem markup_uncovered (theme : Theme) (a b : List Char) :
    markup theme (a ++ b) [] = markup theme a [] ++ markup theme b [] := by
  simp [markup, nest, escape_append]

theorem pieceMarkup_append_left (theme : Theme) (hlt : piece.1 < piece.2)
    (h : piece.2 ≤ byteLength before) :
    pieceMarkup theme (before ++ after) (left ++ right.map (·.shift (byteLength before))) piece =
      pieceMarkup theme before left piece := by
  rw [pieceMarkup, pieceText_append_left h, cover_append_left (Nat.lt_of_lt_of_le hlt h),
    pieceMarkup]

theorem pieceMarkup_append_right (theme : Theme)
    (hleft : ∀ region ∈ left, region.stop ≤ byteLength before) (h : 0 < piece.2) :
    pieceMarkup theme (before ++ after) (left ++ right.map (·.shift (byteLength before)))
      (byteLength before + piece.1, byteLength before + piece.2) =
      pieceMarkup theme after right piece := by
  rw [pieceMarkup, pieceText_append_right, cover_append_right hleft h, markup_shift, pieceMarkup]

/-! ## Cuts on either side -/

theorem gaps_map (distance : Nat) (offsets : List Nat) :
    gaps (offsets.map (distance + ·)) =
      (gaps offsets).map fun piece => (distance + piece.1, distance + piece.2) := by
  cases offsets with
  | nil => rfl
  | cons a offsets =>
    induction offsets generalizing a with
    | nil => rfl
    | cons b offsets ih =>
      rw [List.map_cons, List.map_cons, gaps_cons_cons, ← List.map_cons, ih, gaps_cons_cons,
        List.map_append]
      by_cases h : a < b <;> simp [h]

/-- One more cut changes nothing if what is written for the piece that it divides, if any, is
written for its parts. -/
theorem join_gaps_cut {write : Nat × Nat → String} {first last : Nat} {earlier later : List Nat}
    (hwrite : ∀ a b, (a, b) ∈ gaps (first :: (earlier ++ (later ++ [last]))) → a < seam →
      seam < b → write (a, b) = write (a, seam) ++ write (seam, b))
    (hearlier : ∀ a ∈ first :: earlier, a ≤ seam) (hlater : ∀ b ∈ later ++ [last], seam ≤ b) :
    String.join ((gaps (first :: (earlier ++ (later ++ [last])))).map write) =
      String.join ((gaps (first :: (earlier ++ [seam]))).map write) ++
        String.join ((gaps (seam :: (later ++ [last]))).map write) := by
  induction earlier generalizing first with
  | nil =>
    obtain ⟨next, rest, hnext⟩ : ∃ next rest, later ++ [last] = next :: rest :=
      List.exists_cons_of_ne_nil (by simp)
    have hfirst : first ≤ seam := hearlier first List.mem_cons_self
    have hseam : seam ≤ next := hlater next (by simp [hnext])
    rw [hnext, List.nil_append] at hwrite
    rw [hnext, List.nil_append, List.nil_append, gaps_cons_cons, gaps_cons_cons, gaps_cons_cons]
    rcases Nat.lt_or_eq_of_le hfirst with hlt | rfl
    · rcases Nat.lt_or_eq_of_le hseam with hlt' | rfl
      · have hdivided :=
          hwrite first next (by simp [gaps_cons_cons, Nat.lt_trans hlt hlt']) hlt hlt'
        simp [hlt, hlt', Nat.lt_trans hlt hlt', hdivided, gaps, String.append_assoc]
      · simp [hlt, gaps]
    · simp [gaps]
  | cons next earlier ih =>
    rw [List.cons_append, gaps_cons_cons] at hwrite
    have htail := ih (fun a b hmem => hwrite a b (List.mem_append_right _ hmem))
      fun a ha => hearlier a (List.mem_cons_of_mem _ ha)
    rw [List.cons_append, List.cons_append, gaps_cons_cons, gaps_cons_cons, List.map_append,
      List.map_append, String.join_append, String.join_append, htail, String.append_assoc]

theorem offsets_append (hleft : ∀ capture ∈ left, Within (byteLength before) capture) :
    (events (before ++ after) (left ++ right.map (·.shift (byteLength before)))).map (·.offset) =
      (events before left).map (·.offset) ++
        ((events after right).map (·.offset)).map (byteLength before + ·) := by
  have hordered : ∀ source captures,
      ((events source captures).map (·.offset)).Pairwise (· ≤ ·) := fun source captures =>
    List.pairwise_map.mpr ((events_ordered source captures).imp Event.Before.offset_le)
  refine List.Perm.eq_of_pairwise (fun _ _ _ _ => Nat.le_antisymm) (hordered _ _) ?_ ?_
  · refine List.pairwise_append.mpr ⟨hordered _ _, ?_, ?_⟩
    · exact List.pairwise_map.mpr ((hordered _ _).imp fun h => Nat.add_le_add_left h _)
    · intro a ha b hb
      obtain ⟨event, hevent, rfl⟩ := List.mem_map.mp ha
      obtain ⟨offset, -, rfl⟩ := List.mem_map.mp hb
      exact Nat.le_add_right_of_le (event_isBoundary hevent).le_byteLength
  · refine (events_offsets_perm _ _).trans ?_
    rw [regions_append hleft, List.flatMap_append, List.flatMap_map]
    refine (events_offsets_perm before left).symm.append ?_
    refine List.Perm.trans ?_ ((events_offsets_perm after right).symm.map _)
    rw [List.map_flatMap]
    exact List.Perm.refl _

/-! ## Bare places -/

/-- A piece may be divided where no region goes over. -/
theorem pieceMarkup_divided (theme : Theme) {source : List Char} {regions : List Capture}
    (hbare : ∀ region ∈ regions, region.stop ≤ seam ∨ seam ≤ region.start) {a b : Nat}
    (hpiece : (a, b) ∈ pieces source regions) (ha : a < seam) (hb : seam < b) :
    pieceMarkup theme source regions (a, b) =
      pieceMarkup theme source regions (a, seam) ++ pieceMarkup theme source regions (seam, b) := by
  have huncovered : ∀ x y, a ≤ x → x ≤ seam → seam ≤ y → y ≤ b → x < y →
      cover regions (x, y) = [] := by
    intro x y hax hx hy hyb hxy
    have hnone : regions.filter (covers (x, y)) = [] := by
      rw [List.filter_eq_nil_iff]
      intro region hregion
      have hends := le_or_le_of_mem_pieces hpiece hregion
      have := hbare region hregion
      rw [covers_iff]
      dsimp only at hends ⊢
      omega
    rw [cover_eq, hnone, List.mergeSort_nil]
  have hle := Nat.le_of_lt ha
  have hle' := Nat.le_of_lt hb
  rw [pieceMarkup, pieceMarkup, pieceMarkup,
    huncovered a b (Nat.le_refl _) hle hle' (Nat.le_refl _) (Nat.lt_trans ha hb),
    huncovered a seam (Nat.le_refl _) hle (Nat.le_refl _) hle' ha,
    huncovered seam b hle (Nat.le_refl _) hle' (Nat.le_refl _) hb, ← markup_uncovered,
    pieceText_join hle hle']

/-- A rendering falls into two parts at a place that no region goes over. -/
theorem join_pieces_cut (theme : Theme) {source : List Char} {captures : List Capture}
    (hbare : ∀ region ∈ regions source captures, region.stop ≤ seam ∨ seam ≤ region.start)
    {earlier later : List Nat}
    (hoffsets : (events source captures).map (·.offset) = earlier ++ later)
    (hearlier : ∀ a ∈ earlier, a ≤ seam) (hlater : ∀ b ∈ later, seam ≤ b)
    (hseam : seam ≤ byteLength source) :
    String.join ((pieces source (regions source captures)).map
        (pieceMarkup theme source (regions source captures))) =
      String.join ((gaps (0 :: (earlier ++ [seam]))).map
          (pieceMarkup theme source (regions source captures))) ++
        String.join ((gaps (seam :: (later ++ [byteLength source]))).map
          (pieceMarkup theme source (regions source captures))) := by
  have hpieces : pieces source (regions source captures) =
      gaps (0 :: (earlier ++ (later ++ [byteLength source]))) := by
    rw [pieces_eq, hoffsets, List.append_assoc]
  rw [hpieces]
  apply join_gaps_cut
  · intro a b hpiece ha hb
    rw [← hpieces] at hpiece
    exact pieceMarkup_divided theme hbare hpiece ha hb
  · intro a ha
    rcases List.mem_cons.mp ha with rfl | ha
    · exact Nat.zero_le _
    · exact hearlier a ha
  · intro b hb
    rcases List.mem_append.mp hb with hb | hb
    · exact hlater b hb
    · rw [List.mem_singleton.mp hb]
      exact hseam

/-! ## Both texts together -/

theorem bare_append (hleft : ∀ capture ∈ left, Within (byteLength before) capture) :
    ∀ region ∈ regions (before ++ after) (left ++ right.map (·.shift (byteLength before))),
      region.stop ≤ byteLength before ∨ byteLength before ≤ region.start := by
  intro region hregion
  rw [regions_append hleft, List.mem_append] at hregion
  rcases hregion with hregion | hregion
  · exact .inl (stop_le_of_mem_regions hregion)
  · obtain ⟨other, -, rfl⟩ := List.mem_map.mp hregion
    exact .inr (Nat.le_add_right _ _)

/-- The pieces of the second text, moved behind the first one. -/
theorem gaps_offsets_shifted (before after : List Char) (captures : List Capture) :
    gaps (byteLength before ::
        (((events after captures).map (·.offset)).map (byteLength before + ·) ++
          [byteLength (before ++ after)])) =
      (pieces after (regions after captures)).map fun piece =>
        (byteLength before + piece.1, byteLength before + piece.2) := by
  rw [pieces_eq, ← gaps_map]
  simp

/-- Two texts, each with its own captures, render together as one after the other. -/
theorem inline_of_seam {before : String}
    (hleft : ∀ capture ∈ left, Within (byteLength before.toList) capture) (after : String)
    (right : List Capture) (theme : Theme) :
    inline (before ++ after) (left ++ right.map (·.shift (byteLength before.toList))) theme =
      inline before left theme ++ inline after right theme := by
  have hearlier :
      ∀ a ∈ (events before.toList left).map (·.offset), a ≤ byteLength before.toList := by
    intro a ha
    obtain ⟨event, hevent, rfl⟩ := List.mem_map.mp ha
    exact (event_isBoundary hevent).le_byteLength
  have hlater : ∀ b ∈ ((events after.toList right).map (·.offset)).map
      (byteLength before.toList + ·), byteLength before.toList ≤ b := by
    intro b hb
    obtain ⟨offset, -, rfl⟩ := List.mem_map.mp hb
    exact Nat.le_add_right _ _
  have hseam : byteLength before.toList ≤ byteLength (before.toList ++ after.toList) := by
    rw [byteLength_append]
    exact Nat.le_add_right _ _
  rw [inline_eq_pieceMarkup, inline_eq_pieceMarkup, inline_eq_pieceMarkup, String.toList_append,
    join_pieces_cut theme (bare_append hleft) (offsets_append hleft) hearlier hlater hseam,
    ← pieces_eq, gaps_offsets_shifted, List.map_map, regions_append hleft]
  have hfirst : ∀ piece ∈ pieces before.toList (regions before.toList left),
      pieceMarkup theme (before.toList ++ after.toList) (regions before.toList left ++
        (regions after.toList right).map (·.shift (byteLength before.toList))) piece =
      pieceMarkup theme before.toList (regions before.toList left) piece := by
    intro piece hpiece
    obtain ⟨hlt, -, hend⟩ := mem_pieces hpiece
    exact pieceMarkup_append_left theme hlt hend.le_byteLength
  have hsecond : ∀ piece ∈ pieces after.toList (regions after.toList right),
      (pieceMarkup theme (before.toList ++ after.toList) (regions before.toList left ++
        (regions after.toList right).map (·.shift (byteLength before.toList))) ∘ fun piece =>
          (byteLength before.toList + piece.1, byteLength before.toList + piece.2)) piece =
      pieceMarkup theme after.toList (regions after.toList right) piece := by
    intro piece hpiece
    have hstop : ∀ region ∈ regions before.toList left,
        region.stop ≤ byteLength before.toList := fun region h => stop_le_of_mem_regions h
    exact pieceMarkup_append_right theme hstop (Nat.zero_lt_of_lt (mem_pieces hpiece).1)
  rw [List.map_congr_left hfirst, List.map_congr_left hsecond]

/-- Captures that stop at the seam, or have their ends the wrong way round, and captures that start
at the seam, or stop past the end of all. -/
theorem inline_of_seam_meeting :
    (∀ capture ∈ [⟨"keyword", 0, 3⟩, ⟨"keyword.control", 1, 3⟩, ⟨"comment", 3, 2⟩],
      Within (byteLength "aé".toList) capture) ∧
      ∀ theme, inline ("aé" ++ "<b") [⟨"keyword", 0, 3⟩, ⟨"keyword.control", 1, 3⟩,
        ⟨"comment", 3, 2⟩, ⟨"string", 3, 12⟩, ⟨"_private", 4, 5⟩] theme =
          inline "aé" [⟨"keyword", 0, 3⟩, ⟨"keyword.control", 1, 3⟩, ⟨"comment", 3, 2⟩] theme ++
            inline "<b" [⟨"string", 0, 9⟩, ⟨"_private", 1, 2⟩] theme := by
  have hleft : ∀ capture ∈ [⟨"keyword", 0, 3⟩, ⟨"keyword.control", 1, 3⟩, ⟨"comment", 3, 2⟩],
      Within (byteLength "aé".toList) capture := by decide
  exact ⟨hleft, inline_of_seam hleft "<b" [⟨"string", 0, 9⟩, ⟨"_private", 1, 2⟩]⟩

end CodeHighlight.Render

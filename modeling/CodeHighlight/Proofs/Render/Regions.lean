import CodeHighlight.Proofs.Render.Stack
import CodeHighlight.Render.Pieces

/-! # Regions and the stack

The stretches that captures cover between boundaries, and the stack of the sweep told from them:
over any text between two events the open captures are those whose regions cover it, in the order in
which a cover is sorted. -/
namespace CodeHighlight.Render

open CodeHighlight.Text

variable {source : List Char} {captures : List Capture}

theorem mem_boundaries {cs : List Char} {offset : Nat} :
    offset ∈ boundaries cs ↔ IsBoundary cs offset := by
  induction cs generalizing offset with
  | nil =>
    rw [boundaries, List.mem_singleton]
    exact ⟨fun h => h ▸ isBoundary_zero _, fun h => Nat.le_zero.mp h.le_byteLength⟩
  | cons c cs ih =>
    rw [boundaries, List.mem_cons, List.mem_map, isBoundary_cons]
    refine or_congr_right (exists_congr fun rest => ?_)
    rw [ih, eq_comm]

theorem foldl_max_le_iff {offsets : List Nat} {first bound : Nat} :
    offsets.foldl max first ≤ bound ↔ first ≤ bound ∧ ∀ offset ∈ offsets, offset ≤ bound := by
  induction offsets generalizing first with
  | nil => simp
  | cons offset offsets ih =>
    rw [List.foldl_cons, ih, Nat.max_le, and_assoc, List.forall_mem_cons]

/-- The greatest of the boundaries up to an offset, found by choosing among all of them. -/
theorem clamp_eq_floorBoundary (source : List Char) (offset : Nat) :
    clamp source offset = floorBoundary source offset := by
  apply Nat.le_antisymm
  · refine foldl_max_le_iff.mpr ⟨Nat.zero_le _, fun boundary h => ?_⟩
    obtain ⟨hmem, hle⟩ := List.mem_filter.mp h
    exact (mem_boundaries.mp hmem).le_floorBoundary (of_decide_eq_true hle)
  · refine (foldl_max_le_iff.mp (Nat.le_refl (clamp source offset))).2 _ ?_
    refine List.mem_filter.mpr ⟨mem_boundaries.mpr (isBoundary_floorBoundary source offset), ?_⟩
    exact decide_eq_true (floorBoundary_le_offset source offset)

/-- A capture with both ends at boundaries. -/
def region (source : List Char) (capture : Capture) : Capture :=
  { capture with start := clamp source capture.start, stop := clamp source capture.stop }

theorem regions_eq (source : List Char) (captures : List Capture) :
    regions source captures =
      (captures.map (region source)).filter fun region => !region.isEmpty := rfl

theorem stop_le_of_mem_regions {region : Capture} (h : region ∈ regions source captures) :
    region.stop ≤ byteLength source := by
  obtain ⟨capture, -, rfl⟩ := List.mem_map.mp (List.mem_filter.mp h).1
  change clamp source capture.stop ≤ byteLength source
  rw [clamp_eq_floorBoundary]
  exact floorBoundary_le_byteLength _ _

/-- The regions, each with the place of its capture in the list. -/
def placedRegions (source : List Char) (captures : List Capture) : List (Capture × Nat) :=
  (captures.zipIdx.map fun (capture, index) => (region source capture, index)).filter
    fun (region, _) => !region.isEmpty

theorem map_fst_placedRegions (source : List Char) (captures : List Capture) :
    (placedRegions source captures).map (·.1) = regions source captures := by
  have h : captures = captures.zipIdx.map (·.1) := by simp
  conv => rhs; rw [regions, h]
  simp only [placedRegions, List.filter_map, List.map_map]
  rfl

theorem mem_placedRegions {entry : Capture × Nat} :
    entry ∈ placedRegions source captures ↔ ∃ capture, captures[entry.2]? = some capture ∧
      entry.1 = region source capture ∧ entry.1.start < entry.1.stop := by
  obtain ⟨entry, index⟩ := entry
  simp only [placedRegions, List.mem_filter, List.mem_map, Prod.mk.injEq, Prod.exists,
    List.mem_zipIdx_iff_getElem?, Capture.isEmpty, Bool.not_eq_true', decide_eq_false_iff_not,
    Nat.not_le]
  constructor
  · rintro ⟨⟨capture, _, hc, rfl, rfl⟩, hlt⟩
    exact ⟨capture, hc, rfl, hlt⟩
  · rintro ⟨capture, hc, rfl, hlt⟩
    exact ⟨⟨capture, index, hc, rfl, rfl⟩, hlt⟩

theorem spans_of_placed {entry : Capture × Nat} (h : entry ∈ placedRegions source captures) :
    Spans source captures entry.2 entry.1.start entry.1.stop := by
  obtain ⟨capture, hc, hentry, hlt⟩ := mem_placedRegions.mp h
  rw [hentry] at hlt ⊢
  exact ⟨capture, hc, (clamp_eq_floorBoundary ..).symm, (clamp_eq_floorBoundary ..).symm, hlt⟩

theorem Spans.placed {index start stop : Nat} (h : Spans source captures index start stop) :
    ∃ entry ∈ placedRegions source captures,
      entry.2 = index ∧ entry.1.start = start ∧ entry.1.stop = stop := by
  obtain ⟨capture, hc, rfl, rfl, hlt⟩ := h
  simp only [← clamp_eq_floorBoundary] at *
  exact ⟨(region source capture, index), mem_placedRegions.mpr ⟨capture, hc, rfl, hlt⟩,
    rfl, rfl, rfl⟩

theorem placedRegions_ordered (source : List Char) (captures : List Capture) :
    (placedRegions source captures).Pairwise (·.2 < ·.2) := by
  refine List.Pairwise.filter _ (List.pairwise_map.mpr ?_)
  refine List.pairwise_iff_getElem.mpr fun i j hi hj hij => ?_
  simp only [List.getElem_zipIdx]
  omega

/-- The region is over the whole of the piece. -/
def covers (piece : Nat × Nat) (region : Capture) : Bool :=
  region.start ≤ piece.1 && piece.2 ≤ region.stop

theorem covers_iff {piece : Nat × Nat} {region : Capture} :
    covers piece region ↔ region.start ≤ piece.1 ∧ piece.2 ≤ region.stop := by
  simp [covers]

theorem cover_eq (regions : List Capture) (piece : Nat × Nat) :
    cover regions piece =
      (regions.filter (covers piece)).mergeSort fun a b => a.start ≤ b.start := rfl

/-- The cover of a piece with the places of the captures. -/
def placedCover (source : List Char) (captures : List Capture) (piece : Nat × Nat) :
    List (Capture × Nat) :=
  ((placedRegions source captures).filter fun (region, _) =>
    region.start ≤ piece.1 && piece.2 ≤ region.stop).mergeSort fun a b => a.1.start ≤ b.1.start

theorem mem_placedCover {piece : Nat × Nat} {entry : Capture × Nat} :
    entry ∈ placedCover source captures piece ↔ entry ∈ placedRegions source captures ∧
      entry.1.start ≤ piece.1 ∧ piece.2 ≤ entry.1.stop := by
  simp [placedCover]

theorem map_fst_placedCover (source : List Char) (captures : List Capture) (piece : Nat × Nat) :
    (placedCover source captures piece).map (·.1) = cover (regions source captures) piece := by
  rw [placedCover, cover, ← map_fst_placedRegions, List.filter_map]
  exact List.map_mergeSort fun _ _ _ _ => rfl

theorem placedCover_ordered (source : List Char) (captures : List Capture) (piece : Nat × Nat) :
    ((placedCover source captures piece).map (·.2)).Pairwise (Outside source captures) := by
  have hties := (placedRegions_ordered source captures).filter fun (region, _) =>
    region.start ≤ piece.1 && piece.2 ≤ region.stop
  have hsorted : (placedCover source captures piece).Pairwise _ := pairwise_mergeSort_ties
    (by simp only [decide_eq_true_eq]; omega)
    (by simp only [Bool.or_eq_true, decide_eq_true_eq]; omega) hties
  refine List.pairwise_map.mpr (hsorted.imp_of_mem fun {a b} ha hb hab => ?_)
  rw [decide_eq_true_eq, decide_eq_true_eq] at hab
  rw [Outside, (spans_of_placed (mem_placedCover.mp ha).1).startOf_eq,
    (spans_of_placed (mem_placedCover.mp hb).1).startOf_eq]
  have := hab.2
  omega

/-- Two lists in the order of the stack that hold the same captures are equal. -/
theorem eq_of_outside {a b : List Nat} (ha : a.Pairwise (Outside source captures))
    (hb : b.Pairwise (Outside source captures)) (h : ∀ i, i ∈ a ↔ i ∈ b) : a = b := by
  refine List.Perm.eq_of_pairwise (fun _ _ _ _ hij hji => absurd hji hij.asymm) ha hb ?_
  exact (List.perm_ext_iff_of_nodup (ha.imp Outside.ne) (hb.imp Outside.ne)).mpr h

theorem Tracks.opened_eq {passed rest : List Event} {opened : List Nat} {piece : Nat × Nat}
    (h : Tracks source captures passed opened) (hsplit : passed ++ rest = events source captures)
    (hlt : piece.1 < piece.2) (hpassed : ∀ event ∈ passed, event.offset ≤ piece.1)
    (hrest : ∀ event ∈ rest, piece.2 ≤ event.offset) :
    opened = (placedCover source captures piece).map (·.2) := by
  refine eq_of_outside h.ordered (placedCover_ordered source captures piece) fun i => ?_
  rw [h.mem_iff_spans hsplit hlt hpassed hrest, List.mem_map]
  constructor
  · rintro ⟨start, stop, hs, hstart, hstop⟩
    obtain ⟨entry, hentry, rfl, rfl, rfl⟩ := hs.placed
    exact ⟨entry, mem_placedCover.mpr ⟨hentry, hstart, hstop⟩, rfl⟩
  · rintro ⟨entry, hentry, rfl⟩
    obtain ⟨hmem, hstart, hstop⟩ := mem_placedCover.mp hentry
    exact ⟨_, _, spans_of_placed hmem, hstart, hstop⟩

end CodeHighlight.Render

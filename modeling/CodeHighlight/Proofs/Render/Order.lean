import CodeHighlight.Proofs.Render.Pieces

/-! # The order of captures

Where a source is cut does not depend on the order of the captures, and over a piece only those that
start at one place are told apart by their order. So captures may be listed in any order as long as
those that start at one place are not exchanged. -/
namespace CodeHighlight.Render

open CodeHighlight.Text

/-- The captures that start at this offset once they are clamped, in the order of the list. -/
def startingAt (source : List Char) (captures : List Capture) (offset : Nat) : List Capture :=
  captures.filter fun capture => floorBoundary source capture.start = offset

variable {source : List Char} {captures others : List Capture}

theorem regions_perm (h : captures.Perm others) :
    (regions source captures).Perm (regions source others) :=
  (h.map _).filter _

theorem cuts_of_perm {regions others : List Capture} (h : regions.Perm others) :
    cuts source regions = cuts source others := by
  refine List.Perm.eq_of_pairwise (fun _ _ _ _ => Nat.le_antisymm) (cuts_ordered source _)
    (cuts_ordered source _) ?_
  have hoffsets := h.flatMap_right fun region => [region.start, region.stop]
  exact (List.mergeSort_perm _ _).trans
    (((hoffsets.cons _).cons _).trans (List.mergeSort_perm _ _).symm)

/-- The regions that start at an offset are those of the captures that start there. -/
theorem filter_start_regions (source : List Char) (captures : List Capture) (offset : Nat) :
    (regions source captures).filter (fun region => region.start = offset) =
      regions source (startingAt source captures offset) := by
  have hstart : ∀ capture : Capture, clamp source capture.start = offset ↔
      floorBoundary source capture.start = offset := by
    intro capture
    rw [clamp_eq_floorBoundary]
  simp only [regions, startingAt, List.filter_map, List.filter_filter, Function.comp_def, hstart]
  refine congrArg (List.map _) (List.filter_congr fun capture _ => ?_)
  rw [Bool.and_comm]

theorem cover_of_startingAt
    (h : ∀ offset, startingAt source captures offset = startingAt source others offset)
    (piece : Nat × Nat) :
    cover (regions source captures) piece = cover (regions source others) piece := by
  refine mergeSort_eq_of_filter_key fun offset => ?_
  rw [List.filter_comm, List.filter_comm (l := regions source others), filter_start_regions,
    filter_start_regions, h]

/-- Captures may change places with those that start elsewhere. -/
theorem inline_of_reordered {source : String} (hperm : captures.Perm others)
    (hstarts : ∀ offset, startingAt source.toList captures offset =
      startingAt source.toList others offset) (theme : Theme) :
    inline source captures theme = inline source others theme := by
  rw [inline_eq_pieceMarkup, inline_eq_pieceMarkup]
  have hpieces : pieces source.toList (regions source.toList captures) =
      pieces source.toList (regions source.toList others) := by
    rw [pieces, cuts_of_perm (regions_perm hperm)]
    rfl
  rw [hpieces]
  refine congrArg String.join (List.map_congr_left fun piece _ => ?_)
  rw [pieceMarkup, cover_of_startingAt hstarts, pieceMarkup]

namespace Crossing

/-- The second character is two bytes long. -/
def text : String := "aéb"

def outer : Capture := ⟨"keyword", 0, 3⟩

/-- Starts inside the second character and stops past the end. -/
def loose : Capture := ⟨"string", 2, 9⟩

def tight : Capture := ⟨"_string", 1, 3⟩

end Crossing

open Crossing in
/-- Two captures that start at one place after clamping stay in order while a third one moves from
the front to the back. -/
theorem inline_of_reordered_crossing :
    [outer, loose, tight].Perm [loose, tight, outer] ∧
      (∀ offset, startingAt Crossing.text.toList [outer, loose, tight] offset =
        startingAt Crossing.text.toList [loose, tight, outer] offset) ∧
      ∀ theme, inline Crossing.text [outer, loose, tight] theme =
        inline Crossing.text [loose, tight, outer] theme := by
  have hperm : [outer, loose, tight].Perm [loose, tight, outer] := by decide
  have hstarts : ∀ offset, startingAt Crossing.text.toList [outer, loose, tight] offset =
      startingAt Crossing.text.toList [loose, tight, outer] offset := by
    intro offset
    have houter : floorBoundary Crossing.text.toList outer.start = 0 := by decide
    have hloose : floorBoundary Crossing.text.toList loose.start = 1 := by decide
    have htight : floorBoundary Crossing.text.toList tight.start = 1 := by decide
    simp only [startingAt, List.filter_cons, List.filter_nil, houter, hloose, htight]
    by_cases hzero : 0 = offset
    · simp [← hzero]
    · simp [hzero]
  exact ⟨hperm, hstarts, inline_of_reordered hperm hstarts⟩

end CodeHighlight.Render

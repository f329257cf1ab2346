import CodeHighlight.Proofs.Markup.Reading
import CodeHighlight.Proofs.Render.Text

/-! # Captures that nobody sees

Read back, a rendering gives every character of the source with the tags of the shown regions over
it. A capture that is hidden or covers no text cuts pieces in two and changes no character's tags,
so with it or without it a rendering reads the same. -/
namespace CodeHighlight.Render

open CodeHighlight.Text CodeHighlight.Markup

variable {source : List Char} {captures : List Capture}

/-! ## Tags over a stretch -/

/-- What stands between the brackets of an opening tag. -/
def tagContent (theme : Theme) (name : String) : List Char :=
  ("span " ++ spanAttributes theme name).toList

/-- The tags around a stretch of the source, the outermost first. -/
def tagsOver (theme : Theme) (regions : List Capture) (stretch : Nat × Nat) : List (List Char) :=
  ((cover regions stretch).filter fun region => !region.isHidden).map fun region =>
    tagContent theme region.name

/-- Every character with the tags around it, in a text that begins at `offset`. -/
def tagged (tags : Nat × Nat → List (List Char)) (offset : Nat) :
    List Char → List (Char × List (List Char))
  | [] => []
  | c :: cs =>
    (c, tags (offset, offset + c.utf8Size)) :: tagged tags (offset + c.utf8Size) cs

section Tagged

variable {tags : Nat × Nat → List (List Char)} {offset : Nat}

theorem tagged_append (before after : List Char) :
    tagged tags offset (before ++ after) =
      tagged tags offset before ++ tagged tags (offset + byteLength before) after := by
  induction before generalizing offset with
  | nil => simp [tagged, byteLength]
  | cons c cs ih =>
    rw [List.cons_append, tagged, ih, tagged, byteLength, List.cons_append, Nat.add_assoc]

theorem map_fst_tagged (cs : List Char) : (tagged tags offset cs).map (·.1) = cs := by
  induction cs generalizing offset with
  | nil => rfl
  | cons c cs ih => rw [tagged, List.map_cons, ih]

/-- Characters that all have the same tags around them. -/
theorem tagged_of_same {same : List (List Char)} {cs : List Char}
    (h : ∀ start stop, offset ≤ start → start < stop → stop ≤ offset + byteLength cs →
      tags (start, stop) = same) : tagged tags offset cs = cs.map fun c => (c, same) := by
  induction cs generalizing offset with
  | nil => rfl
  | cons c cs ih =>
    have hsize := c.utf8Size_pos
    rw [byteLength] at h
    have hfirst : tags (offset, offset + c.utf8Size) = same :=
      h _ _ (Nat.le_refl _) (by omega) (by omega)
    have hrest : tagged tags (offset + c.utf8Size) cs = cs.map fun c => (c, same) :=
      ih fun start stop hstart hlt hstop => h start stop (by omega) hlt (by omega)
    rw [tagged, hfirst, hrest, List.map_cons]

/-- The texts of two neighbouring stretches are tagged as one text. -/
theorem tagged_pieceText_join {first place last : Nat} (hstart : IsBoundary source first)
    (hplace : IsBoundary source place) (hle : first ≤ place) (hlast : place ≤ last) :
    tagged tags first (pieceText (first, place) 0 source) ++
        tagged tags place (pieceText (place, last) 0 source) =
      tagged tags first (pieceText (first, last) 0 source) := by
  obtain ⟨_, _, -, -, hlength⟩ := @pieceText_between source (first, place) hstart hplace hle
  have hnext : first + byteLength (pieceText (first, place) 0 source) = place := by
    rw [hlength]
    omega
  rw [← pieceText_join hle hlast, tagged_append, hnext]

end Tagged

/-! ## A rendering read back -/

theorem tagContent_opens (theme : Theme) (name : String) :
    '>' ∉ tagContent theme name ∧ (tagContent theme name).head? ≠ some '/' := by
  have hattributes := (spanAttributes_wellFormed theme name).not_mem_right
  exact ⟨by simp [tagContent, hattributes], by simp [tagContent]⟩

theorem enclosedFrom_nest (theme : Theme) (text : List Char) (names : List String)
    (opened : List (List Char)) (rest : List Char) :
    enclosedFrom opened (items ((nest (escape (String.ofList text))
        (names.map (openTag theme))).toList ++ rest)) =
      text.map (fun c => (c, opened ++ names.map (tagContent theme))) ++
        enclosedFrom opened (items rest) := by
  induction names generalizing opened rest with
  | nil =>
    simp only [List.map_nil, nest, toList_escape, String.toList_ofList, List.append_nil]
    exact enclosedFrom_escape text
  | cons name names ih =>
    -- The first tag closes behind all that the others enclose, so they are read with it open.
    obtain ⟨hclosed, hopens⟩ := tagContent_opens theme name
    have htag : (nest (escape (String.ofList text))
        ((name :: names).map (openTag theme))).toList ++ rest =
          '<' :: (tagContent theme name ++ '>' :: ((nest (escape (String.ofList text))
            (names.map (openTag theme))).toList ++ ("</span>".toList ++ rest))) := by
      simp [nest, openTag_eq, tagContent]
    rw [htag, enclosedFrom_openTag hclosed hopens, ih, enclosedFrom_closeTag, List.map_cons,
      List.append_assoc, List.singleton_append]

theorem enclosedFrom_pieces (theme : Theme) (source : List Char) (regions : List Capture)
    (pieces : List (Nat × Nat)) :
    enclosedFrom [] (items (pieces.flatMap fun piece =>
        (pieceMarkup theme source regions piece).toList)) =
      pieces.flatMap fun piece =>
        (pieceText piece 0 source).map fun c => (c, tagsOver theme regions piece) := by
  induction pieces with
  | nil => simp [items, enclosedFrom]
  | cons piece pieces ih =>
    have hpiece := enclosedFrom_nest theme (pieceText piece 0 source)
      (((cover regions piece).filter fun region => !region.isHidden).map (·.name)) []
    simp only [List.map_map, List.nil_append] at hpiece
    rw [List.flatMap_cons, List.flatMap_cons, ← ih]
    exact hpiece _

/-- Whatever is over a part of a piece is over all of it. -/
theorem cover_within {regions : List Capture} {piece : Nat × Nat}
    (hpiece : piece ∈ pieces source regions) {start stop : Nat} (hstart : piece.1 ≤ start)
    (hlt : start < stop) (hstop : stop ≤ piece.2) :
    cover regions (start, stop) = cover regions piece := by
  -- No region starts or stops inside the piece, so one that is over the part reaches both its ends.
  rw [cover_eq, cover_eq]
  refine congrArg (List.mergeSort · _) (List.filter_congr fun region hregion => ?_)
  have hends := le_or_le_of_mem_pieces hpiece hregion
  rw [Bool.eq_iff_iff, covers_iff, covers_iff]
  dsimp only
  omega

theorem pieceText_tagged (theme : Theme) {piece : Nat × Nat}
    (hpiece : piece ∈ pieces source (regions source captures)) :
    (pieceText piece 0 source).map
        (fun c => (c, tagsOver theme (regions source captures) piece)) =
      tagged (tagsOver theme (regions source captures)) piece.1 (pieceText piece 0 source) := by
  obtain ⟨hlt, hstart, hstop⟩ := mem_pieces hpiece
  obtain ⟨_, _, -, -, hlength⟩ := pieceText_between hstart hstop (Nat.le_of_lt hlt)
  refine (tagged_of_same fun start stop hge hlt hle => ?_).symm
  rw [tagsOver, cover_within hpiece hge hlt (by omega), tagsOver]

/-- The pieces, tagged one after the other, are the source with its tags. -/
theorem pieces_tagged (tags : Nat × Nat → List (List Char)) (source : List Char)
    (captures : List Capture) :
    (pieces source (regions source captures)).flatMap
        (fun piece => tagged tags piece.1 (pieceText piece 0 source)) = tagged tags 0 source := by
  have hordered := cuts_ordered source (regions source captures)
  have hboundary : ∀ place ∈ cuts source (regions source captures), IsBoundary source place :=
    fun _ => isBoundary_of_mem_cuts
  rw [cuts_eq] at hordered hboundary
  have hjoined := gaps_join (fun piece => tagged tags piece.1 (pieceText piece 0 source)) hordered
    (fun place => by rw [pieceText_empty, tagged])
    fun a ha b hb => tagged_pieceText_join (hboundary a ha) (hboundary b hb)
  rw [pieces_eq, hjoined, pieceText_inside (Nat.le_refl 0) (by simp)]

/-- A rendering gives every character of the source with the tags of the shown regions over it. -/
theorem enclosed_inline (source : String) (captures : List Capture) (theme : Theme) :
    enclosed (inline source captures theme) =
      tagged (tagsOver theme (regions source.toList captures)) 0 source.toList := by
  rw [enclosed, inline_eq_pieceMarkup, String.toList_join, List.flatMap_map, enclosedFrom_pieces,
    List.flatMap_congr fun piece hpiece => pieceText_tagged theme hpiece, pieces_tagged]

/-! ## What is not seen -/

/-- The capture is shown and some text is left of it between boundaries. -/
def isSeen (source : List Char) (capture : Capture) : Bool :=
  !capture.isHidden && !(region source capture).isEmpty

theorem regions_seen (source : List Char) (captures : List Capture) :
    regions source (captures.filter (isSeen source)) =
      (regions source captures).filter fun region => !region.isHidden := by
  have hhidden : ∀ capture : Capture, (region source capture).isHidden = capture.isHidden :=
    fun _ => rfl
  simp only [regions_eq, List.filter_map, List.filter_filter, Function.comp_def, hhidden, isSeen]
  refine congrArg (List.map _) (List.filter_congr fun capture _ => ?_)
  rw [Bool.and_comm, Bool.and_assoc, Bool.and_self]

/-- What is hidden covers a stretch without a tag, and what is shown is sorted alike without it. -/
theorem tagsOver_shown (theme : Theme) (regions : List Capture) :
    tagsOver theme (regions.filter fun region => !region.isHidden) = tagsOver theme regions := by
  funext stretch
  have hcover : cover (regions.filter fun region => !region.isHidden) stretch =
      (cover regions stretch).filter fun region => !region.isHidden := by
    rw [cover_eq, cover_eq, filter_mergeSort_by_key Capture.start, List.filter_comm]
  rw [tagsOver, tagsOver, hcover, List.filter_filter]
  simp only [Bool.and_self]

/-- A rendering reads as the source, each character with the tags around it, and reads the same
without the captures that are not seen. Where none is seen it is the source, escaped. -/
theorem enclosed_inline_seen (source : String) (captures : List Capture) (theme : Theme) :
    (enclosed (inline source captures theme)).map (·.1) = source.toList ∧
      enclosed (inline source (captures.filter (isSeen source.toList)) theme) =
        enclosed (inline source captures theme) ∧
      ((∀ capture ∈ captures, ¬ isSeen source.toList capture) →
        inline source captures theme = escape source) := by
  refine ⟨?_, ?_, fun hunseen => ?_⟩
  · rw [enclosed_inline, map_fst_tagged]
  · rw [enclosed_inline, enclosed_inline, regions_seen, tagsOver_shown]
  · have hshown := regions_seen source.toList captures
    rw [List.filter_eq_nil_iff.mpr hunseen] at hshown
    refine inline_of_hidden (fun region hregion => ?_) theme
    simpa using List.filter_eq_nil_iff.mp hshown.symm region hregion

/-- Two hidden names, a capture inside the second character and one with its ends the wrong way
round. -/
def Unseen.marks : List Capture :=
  [⟨"_helper", 0, 4⟩, ⟨"", 1, 3⟩, ⟨"keyword", 1, 2⟩, ⟨"string", 4, 1⟩]

theorem enclosed_inline_seen_of_none :
    (∀ capture ∈ Unseen.marks, ¬ isSeen "aé<".toList capture) ∧
      ∀ theme, inline "aé<" Unseen.marks theme = "aé&lt;" := by
  have hunseen : ∀ capture ∈ Unseen.marks, ¬ isSeen "aé<".toList capture := by decide
  have hescape : escape "aé<" = "aé&lt;" := by decide
  refine ⟨hunseen, fun theme => ?_⟩
  obtain ⟨-, -, hplain⟩ := enclosed_inline_seen "aé<" Unseen.marks theme
  rw [hplain hunseen, hescape]

end CodeHighlight.Render

import CodeHighlight.Proofs.Markup.Escape
import CodeHighlight.Proofs.Render.Regions
import Mathlib.Data.List.Basic

/-! # The sweep and the pieces

The sweep renders a source exactly as its pieces tell: its runs are the pieces between neighbouring
cuts, the stack over a run is the cover of the piece in order, and the table of attributes answers
for a capture name what the theme says of it. -/
namespace CodeHighlight.Render

open CodeHighlight.Text CodeHighlight.Markup

variable {source : List Char} {captures : List Capture} {theme : Theme}

/-! ## The text of a piece -/

theorem pieceText_append (piece : Nat × Nat) (offset : Nat) (before after : List Char) :
    pieceText piece offset (before ++ after) =
      pieceText piece offset before ++ pieceText piece (offset + byteLength before) after := by
  induction before generalizing offset with
  | nil => simp [pieceText, byteLength]
  | cons c cs ih =>
    rw [List.cons_append, pieceText, pieceText, ih, byteLength, List.append_assoc, Nat.add_assoc]

theorem pieceText_outside {piece : Nat × Nat} {offset : Nat} {cs : List Char}
    (h : offset + byteLength cs ≤ piece.1 ∨ piece.2 ≤ offset) : pieceText piece offset cs = [] := by
  induction cs generalizing offset with
  | nil => rfl
  | cons c cs ih =>
    have := c.utf8Size_pos
    rw [byteLength] at h
    rw [pieceText, ih (by omega), if_neg]
    · rfl
    · simp only [Bool.and_eq_true, decide_eq_true_eq]
      omega

theorem pieceText_inside {piece : Nat × Nat} {offset : Nat} {cs : List Char}
    (hstart : piece.1 ≤ offset) (hstop : offset + byteLength cs ≤ piece.2) :
    pieceText piece offset cs = cs := by
  induction cs generalizing offset with
  | nil => rfl
  | cons c cs ih =>
    have := c.utf8Size_pos
    rw [byteLength] at hstop
    rw [pieceText, ih (by omega) (by omega), if_pos]
    · rfl
    · simp only [Bool.and_eq_true, decide_eq_true_eq]
      omega

/-- A piece whose ends are boundaries takes what is between them. -/
theorem pieceText_between {piece : Nat × Nat} (hstart : IsBoundary source piece.1)
    (hstop : IsBoundary source piece.2) (hle : piece.1 ≤ piece.2) :
    ∃ before after, source = before ++ pieceText piece 0 source ++ after ∧
      byteLength before = piece.1 ∧
      byteLength (pieceText piece 0 source) = piece.2 - piece.1 := by
  obtain ⟨before, middle, after, rfl, hbefore, hmiddle⟩ := hstart.split hstop hle
  have hmiddleText : pieceText piece 0 (before ++ middle ++ after) = middle := by
    rw [pieceText_append, pieceText_append]
    rw [pieceText_outside (Or.inl (by omega)), pieceText_inside (by omega) (by omega),
      pieceText_outside (Or.inr (by rw [byteLength_append]; omega))]
    simp
  rw [hmiddleText]
  exact ⟨before, after, rfl, hbefore, hmiddle⟩

theorem slice?_eq_pieceText {piece : Nat × Nat} (hstart : IsBoundary source piece.1)
    (hstop : IsBoundary source piece.2) (hle : piece.1 ≤ piece.2) :
    slice? source piece.1 piece.2 = some (pieceText piece 0 source) := by
  obtain ⟨before, after, hsource, hbefore, hlength⟩ := pieceText_between hstart hstop hle
  have hslice := slice?_append before (pieceText piece 0 source) after
  rw [← hsource, hbefore, hlength, Nat.add_sub_cancel' hle] at hslice
  exact hslice

/-! ## The cuts -/

/-- The stretches between neighbouring offsets of an ordered list. -/
def gaps (offsets : List Nat) : List (Nat × Nat) :=
  (offsets.zip offsets.tail).filter fun piece => piece.1 < piece.2

theorem gaps_cons_cons (a b : Nat) (offsets : List Nat) :
    gaps (a :: b :: offsets) = (if a < b then [(a, b)] else []) ++ gaps (b :: offsets) := by
  by_cases h : a < b <;> simp [gaps, h]

/-- No offset of an ordered list lies inside one of its gaps. -/
theorem le_or_le_of_mem_gaps {piece : Nat × Nat} {offsets : List Nat}
    (hordered : offsets.Pairwise (· ≤ ·)) (hpiece : piece ∈ gaps offsets)
    {offset : Nat} (hoffset : offset ∈ offsets) :
    offset ≤ piece.1 ∨ piece.2 ≤ offset := by
  cases offsets with
  | nil => cases hoffset
  | cons a offsets =>
    induction offsets generalizing a with
    | nil => cases hpiece
    | cons b offsets ih =>
      rw [List.pairwise_cons] at hordered
      rw [gaps_cons_cons, List.mem_append] at hpiece
      rcases hpiece with hpiece | hpiece
      · split at hpiece
        · obtain rfl := List.mem_singleton.mp hpiece
          rcases List.mem_cons.mp hoffset with rfl | hoffset
          · exact .inl (Nat.le_refl _)
          · rcases List.mem_cons.mp hoffset with rfl | hoffset
            · exact .inr (Nat.le_refl _)
            · exact .inr ((List.pairwise_cons.mp hordered.2).1 offset hoffset)
        · cases hpiece
      · rcases List.mem_cons.mp hoffset with rfl | hoffset
        · have hmem := (List.of_mem_zip (List.mem_filter.mp hpiece).1).1
          exact .inl (hordered.1 _ hmem)
        · exact ih b hordered.2 hpiece hoffset

theorem event_isBoundary {event : Event} (h : event ∈ events source captures) :
    IsBoundary source event.offset := by
  obtain ⟨_, _, ⟨capture, -, rfl, rfl, -⟩, ⟨-, h⟩ | ⟨-, h⟩⟩ := mem_events.mp h
  all_goals
    rw [h]
    exact isBoundary_floorBoundary _ _

theorem captureEvents_offsets (source : List Char) (entries : List (Capture × Nat)) :
    (entries.flatMap fun (capture, index) => captureEvents source capture index).map (·.offset) =
      (regions source (entries.map (·.1))).flatMap fun region => [region.start, region.stop] := by
  unfold regions
  induction entries with
  | nil => rfl
  | cons entry entries ih =>
    obtain ⟨capture, index⟩ := entry
    rw [List.flatMap_cons, List.map_append, ih, List.map_cons, List.map_cons, List.filter_cons]
    by_cases h : floorBoundary source capture.start < floorBoundary source capture.stop
    · simp [captureEvents_eq, h, Capture.isEmpty, clamp_eq_floorBoundary]
    · simp [captureEvents_eq, h, Capture.isEmpty, clamp_eq_floorBoundary, Nat.not_lt.mp h]

theorem events_offsets_perm (source : List Char) (captures : List Capture) :
    ((events source captures).map (·.offset)).Perm
      ((regions source captures).flatMap fun region => [region.start, region.stop]) := by
  have hoffsets := captureEvents_offsets source captures.zipIdx
  rw [List.zipIdx_map_fst] at hoffsets
  rw [← hoffsets]
  exact (List.mergeSort_perm _ _).map _

theorem cuts_ordered (source : List Char) (regions : List Capture) :
    (cuts source regions).Pairwise (· ≤ ·) :=
  mergeSort_key_ordered (fun offset => offset) _

/-- The source is cut at its ends and at the offsets of the events. -/
theorem cuts_eq (source : List Char) (captures : List Capture) :
    cuts source (regions source captures) =
      0 :: ((events source captures).map (·.offset) ++ [byteLength source]) := by
  have hordered : ((events source captures).map (·.offset)).Pairwise (· ≤ ·) :=
    List.pairwise_map.mpr ((events_ordered source captures).imp Event.Before.offset_le)
  have hbound : ∀ a ∈ (events source captures).map (·.offset), ∀ b ∈ [byteLength source],
      a ≤ b := by
    intro a ha b hb
    obtain ⟨event, hevent, rfl⟩ := List.mem_map.mp ha
    rw [List.mem_singleton.mp hb]
    exact (event_isBoundary hevent).le_byteLength
  refine List.Perm.eq_of_pairwise (fun _ _ _ _ => Nat.le_antisymm) (cuts_ordered source _) ?_ ?_
  · refine List.pairwise_cons.mpr ⟨fun _ _ => Nat.zero_le _, ?_⟩
    exact List.pairwise_append.mpr ⟨hordered, List.pairwise_singleton _ _, hbound⟩
  · refine (List.mergeSort_perm _ _).trans (.cons 0 ?_)
    refine ((events_offsets_perm source captures).symm.cons (byteLength source)).trans ?_
    exact (List.perm_append_singleton _ _).symm

/-- The ends of a region are cuts, so none lies inside a piece. -/
theorem le_or_le_of_mem_pieces {piece : Nat × Nat} {regions : List Capture}
    (hpiece : piece ∈ pieces source regions) {region : Capture} (hregion : region ∈ regions) :
    (region.start ≤ piece.1 ∨ piece.2 ≤ region.start) ∧
      (region.stop ≤ piece.1 ∨ piece.2 ≤ region.stop) := by
  have hcut : ∀ offset ∈ [region.start, region.stop], offset ∈ cuts source regions := by
    intro offset hoffset
    rw [cuts, List.mem_mergeSort]
    exact List.mem_cons_of_mem _ (List.mem_cons_of_mem _
      (List.mem_flatMap.mpr ⟨region, hregion, hoffset⟩))
  have hgap := fun offset hoffset =>
    le_or_le_of_mem_gaps (cuts_ordered source regions) hpiece (hcut offset hoffset)
  exact ⟨hgap _ (by simp), hgap _ (by simp)⟩

theorem pieces_eq (source : List Char) (captures : List Capture) :
    pieces source (regions source captures) =
      gaps (0 :: ((events source captures).map (·.offset) ++ [byteLength source])) := by
  rw [← cuts_eq]
  rfl

/-! ## The runs -/

/-- A piece as the sweep leaves it. -/
def pieceRun (source : List Char) (captures : List Capture) (piece : Nat × Nat) : Run :=
  ⟨piece.1, piece.2, (placedCover source captures piece).map (·.2)⟩

theorem Tracks.runTo_eq {passed rest : List Event} {state : State} {offset : Nat}
    (h : Tracks source captures passed state.opened)
    (hsplit : passed ++ rest = events source captures)
    (hpassed : ∀ event ∈ passed, event.offset ≤ state.cursor)
    (hrest : ∀ event ∈ rest, offset ≤ event.offset) :
    state.runTo offset =
      (if state.cursor < offset then [(state.cursor, offset)] else []).map
        (pieceRun source captures) := by
  rw [State.runTo]
  split
  · rename_i hlt
    have hopened : state.opened =
        (placedCover source captures (state.cursor, offset)).map (·.2) :=
      h.opened_eq hsplit hlt hpassed hrest
    rw [List.map_singleton, pieceRun, hopened]
  · rfl

/-- From any point on, the sweep leaves the pieces between the cursor, the offsets of the events to
come and the end. -/
theorem runsFrom_eq {passed rest : List Event} {state : State}
    (h : Tracks source captures passed state.opened)
    (hsplit : passed ++ rest = events source captures)
    (hpassed : ∀ event ∈ passed, event.offset ≤ state.cursor)
    (hrest : ∀ event ∈ rest, state.cursor ≤ event.offset) :
    runsFrom (byteLength source) state rest =
      (gaps (state.cursor :: (rest.map (·.offset) ++ [byteLength source]))).map
        (pieceRun source captures) := by
  induction rest generalizing passed state with
  | nil =>
    rw [runsFrom, h.runTo_eq hsplit hpassed (by simp), List.map_nil, List.nil_append,
      gaps_cons_cons]
    simp [gaps]
  | cons event rest ih =>
    have hevent : state.cursor ≤ event.offset := hrest event List.mem_cons_self
    have hcursor : (state.next event).cursor = event.offset := Nat.max_eq_right hevent
    have hordered := events_ordered source captures
    rw [← hsplit, List.pairwise_append, List.pairwise_cons] at hordered
    obtain ⟨-, ⟨hbefore, -⟩, -⟩ := hordered
    have hlater : ∀ later ∈ rest, event.offset ≤ later.offset := fun later hl =>
      (hbefore later hl).offset_le
    have hearlier : ∀ earlier ∈ passed ++ [event], earlier.offset ≤ event.offset := by
      intro earlier he
      rcases List.mem_append.mp he with he | he
      · exact Nat.le_trans (hpassed earlier he) hevent
      · obtain rfl := List.mem_singleton.mp he
        exact Nat.le_refl _
    have htail := ih (h.next hsplit) (by simpa using hsplit) (hcursor ▸ hearlier)
      (hcursor ▸ hlater)
    rw [runsFrom, htail, hcursor, h.runTo_eq hsplit hpassed (by simpa using hlater),
      List.map_cons, List.cons_append, gaps_cons_cons, List.map_append]

theorem runs_eq (source : List Char) (captures : List Capture) :
    runs source captures =
      (pieces source (regions source captures)).map (pieceRun source captures) := by
  rw [pieces_eq]
  exact runsFrom_eq Tracks.initial (by rfl) (by simp) (by simp [State.initial])

theorem isBoundary_of_mem_cuts {offset : Nat}
    (h : offset ∈ cuts source (regions source captures)) : IsBoundary source offset := by
  rw [cuts_eq] at h
  rcases List.mem_cons.mp h with rfl | h
  · exact isBoundary_zero _
  · rcases List.mem_append.mp h with h | h
    · obtain ⟨event, hevent, rfl⟩ := List.mem_map.mp h
      exact event_isBoundary hevent
    · rw [List.mem_singleton.mp h]
      exact isBoundary_byteLength _

theorem mem_pieces {piece : Nat × Nat} (h : piece ∈ pieces source (regions source captures)) :
    piece.1 < piece.2 ∧ IsBoundary source piece.1 ∧ IsBoundary source piece.2 := by
  obtain ⟨hmem, hlt⟩ := List.mem_filter.mp h
  obtain ⟨hfirst, hsecond⟩ := List.of_mem_zip hmem
  exact ⟨of_decide_eq_true hlt, isBoundary_of_mem_cuts hfirst,
    isBoundary_of_mem_cuts (List.mem_of_mem_tail hsecond)⟩

theorem pieceRun_text {piece : Nat × Nat} (h : piece ∈ pieces source (regions source captures)) :
    (pieceRun source captures piece).text source = pieceText piece 0 source := by
  obtain ⟨hlt, hstart, hstop⟩ := mem_pieces h
  rw [Run.text, pieceRun, slice?_eq_pieceText hstart hstop (Nat.le_of_lt hlt), Option.getD_some]

/-! ## The tags -/

/-- The attributes that the table is to hold for a name. -/
def shownAttributes (theme : Theme) (name : String) : Option String :=
  if isHiddenName name then none else some (spanAttributes theme name)

/-- An entry once made stays, so every name keeps what its first capture gave. -/
theorem get?_foldl_attributes (theme : Theme) (captures : List Capture)
    (table : Catalog (Option String)) (name : String) :
    (captures.foldl (fun table capture =>
        if table.contains capture.name then table
        else table.insert capture.name
          (if capture.isHidden then none else some (spanAttributes theme capture.name)))
      table).get? name =
      (table.get? name).or
        (if ∃ capture ∈ captures, capture.name = name then some (shownAttributes theme name)
          else none) := by
  induction captures generalizing table with
  | nil => simp
  | cons capture captures ih =>
    rw [List.foldl_cons, ih]
    by_cases hname : capture.name = name
    · subst hname
      cases hget : table.get? capture.name with
      | some attributes => simp [Catalog.contains, hget]
      | none =>
        simp [Catalog.contains, hget]
        rfl
    · split <;> simp [hname, Catalog.get?_insert, Ne.symm hname]

theorem get?_attributeTable {capture : Capture} (h : capture ∈ captures) :
    (attributeTable theme captures).get? capture.name =
      some (shownAttributes theme capture.name) := by
  rw [attributeTable, get?_foldl_attributes, Catalog.get?_empty, Option.none_or,
    if_pos ⟨capture, h, rfl⟩]

theorem openTag_eq (theme : Theme) (name : String) :
    openTag theme name = "<span " ++ spanAttributes theme name ++ ">" := by
  change "<span class=\"" ++ escape (className name) ++ "\"" ++ styleAttribute theme name ++ ">" = _
  rw [styleAttribute, spanAttributes]
  cases theme.color? name .foreground <;>
    exact String.toList_injective (by simp)

theorem tableTag_eq {index : Nat} {capture : Capture} (h : captures[index]? = some capture) :
    (captures[index]?.bind fun capture =>
      ((attributeTable theme captures).get? capture.name).join.map
        fun attributes => "<span " ++ attributes ++ ">") =
      if capture.isHidden then none else some (openTag theme capture.name) := by
  rw [h, Option.bind_some, get?_attributeTable (List.mem_of_getElem? h), Option.join_some,
    shownAttributes, openTag_eq, Capture.isHidden]
  split <;> rfl

theorem filterMap_shown (theme : Theme) (entries : List (Capture × Nat)) :
    (entries.filterMap fun entry =>
      if entry.1.isHidden then none else some (openTag theme entry.1.name)) =
      ((entries.map (·.1)).filter fun region => !region.isHidden).map
        fun region => openTag theme region.name := by
  induction entries with
  | nil => rfl
  | cons entry entries ih =>
    rw [List.filterMap_cons, List.map_cons, List.filter_cons, ih]
    cases entry.1.isHidden <;> rfl

/-- The tags over a piece are those of the captures in its cover that are shown. -/
theorem pieceRun_tags (theme : Theme) (source : List Char) (captures : List Capture)
    (piece : Nat × Nat) :
    (pieceRun source captures piece).tags (attributeTable theme captures) captures =
      ((cover (regions source captures) piece).filter fun region => !region.isHidden).map
        fun region => openTag theme region.name := by
  rw [← map_fst_placedCover, ← filterMap_shown, Run.tags, pieceRun, List.filterMap_map]
  refine List.filterMap_congr fun entry hentry => ?_
  obtain ⟨capture, hc, hregion, -⟩ := mem_placedRegions.mp (mem_placedCover.mp hentry).1
  rw [Function.comp_apply, tableTag_eq hc, hregion]
  rfl

/-! ## The spans -/

theorem closeTags_comm (tags : List String) :
    closeTag ++ String.join (tags.map fun _ => closeTag) =
      String.join (tags.map fun _ => closeTag) ++ closeTag := by
  induction tags with
  | nil => simp
  | cons tag tags ih =>
    rw [List.map_cons, String.join_cons, String.append_assoc, ← ih]

theorem wrap_eq_nest (tags : List String) (text : List Char) :
    wrap tags text = nest (escape (String.ofList text)) tags := by
  rw [wrap, appendEscaped_eq]
  induction tags with
  | nil => simp [nest]
  | cons tag tags ih =>
    rw [nest, ← ih, List.map_cons, String.join_cons, String.join_cons, closeTags_comm]
    simp only [String.append_assoc]
    rfl

theorem inline_eq_join (source : String) (captures : List Capture) (theme : Theme) :
    inline source captures theme =
      String.join ((pieces source.toList (regions source.toList captures)).map fun piece =>
        nest (escape (String.ofList (pieceText piece 0 source.toList)))
          ((pieceRun source.toList captures piece).tags (attributeTable theme captures)
            captures)) := by
  rw [inline, runs_eq, List.map_map]
  refine congrArg String.join (List.map_congr_left fun piece hpiece => ?_)
  rw [Function.comp_apply, wrap_eq_nest, pieceRun_text hpiece]

/-- Text inside the spans of the regions over it, the hidden ones left out. -/
def markup (theme : Theme) (text : List Char) (regions : List Capture) : String :=
  nest (escape (String.ofList text))
    ((regions.filter fun region => !region.isHidden).map fun region => openTag theme region.name)

def pieceMarkup (theme : Theme) (source : List Char) (regions : List Capture)
    (piece : Nat × Nat) : String :=
  markup theme (pieceText piece 0 source) (cover regions piece)

theorem inline_eq_pieceMarkup (source : String) (captures : List Capture) (theme : Theme) :
    inline source captures theme =
      String.join ((pieces source.toList (regions source.toList captures)).map
        (pieceMarkup theme source.toList (regions source.toList captures))) := by
  rw [inline_eq_join]
  refine congrArg String.join (List.map_congr_left fun piece _ => ?_)
  rw [pieceRun_tags, pieceMarkup, markup]

end CodeHighlight.Render

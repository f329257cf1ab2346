import CodeHighlight.Proofs.Markup.Inline
import CodeHighlight.Proofs.Render.Pieces

/-! # What rendering keeps and what it adds

The pieces of a source follow on one another and leave no character out. The markup of each is its
text, escaped, inside whole spans. So deleting the tags and replacing the entities gives the source
back, and the rendering as a whole is inline markup. -/
namespace CodeHighlight.Render

open CodeHighlight.Text CodeHighlight.Markup

variable {source : List Char} {captures : List Capture} {theme : Theme}

/-! ## The pieces leave nothing out -/

/-- A piece up to an offset and the piece from there on have the text of both together. -/
theorem pieceText_join {first middle last : Nat} (hfirst : first ≤ middle) (hlast : middle ≤ last)
    (offset : Nat) (cs : List Char) :
    pieceText (first, middle) offset cs ++ pieceText (middle, last) offset cs =
      pieceText (first, last) offset cs := by
  induction cs generalizing offset with
  | nil => rfl
  | cons c cs ih =>
    simp only [pieceText]
    by_cases hmiddle : offset < middle
    · have hlt : offset < last := Nat.lt_of_lt_of_le hmiddle hlast
      simp [Nat.not_le.mpr hmiddle, hmiddle, hlt, ih]
    · have hle : middle ≤ offset := Nat.not_lt.mp hmiddle
      have hempty : pieceText (first, middle) (offset + c.utf8Size) cs = [] :=
        pieceText_outside (Or.inr (Nat.le_trans hle (Nat.le_add_right _ _)))
      have htail := ih (offset + c.utf8Size)
      rw [hempty, List.nil_append] at htail
      simp [hmiddle, hle, Nat.le_trans hfirst hle, hempty, htail]

theorem pieceText_empty (offset : Nat) (cs : List Char) (place : Nat) :
    pieceText (place, place) offset cs = [] := by
  induction cs generalizing offset with
  | nil => rfl
  | cons c cs ih =>
    rw [pieceText, ih, if_neg]
    · rfl
    · simp only [Bool.and_eq_true, decide_eq_true_eq]
      omega

/-- What is written for two neighbouring stretches together is written for all gaps together. -/
theorem gaps_join {β : Type} (write : Nat × Nat → List β) {first last : Nat} {offsets : List Nat}
    (hordered : (first :: (offsets ++ [last])).Pairwise (· ≤ ·))
    (hempty : ∀ place, write (place, place) = [])
    (hjoin : ∀ a ∈ first :: (offsets ++ [last]), ∀ b ∈ first :: (offsets ++ [last]), a ≤ b →
      b ≤ last → write (a, b) ++ write (b, last) = write (a, last)) :
    (gaps (first :: (offsets ++ [last]))).flatMap write = write (first, last) := by
  induction offsets generalizing first with
  | nil =>
    have hle : first ≤ last := (List.pairwise_cons.mp hordered).1 last (by simp)
    rw [List.nil_append, gaps_cons_cons]
    split
    · simp [gaps]
    · rw [show first = last by omega, hempty]
      simp [gaps]
  | cons offset offsets ih =>
    rw [List.cons_append] at hordered hjoin
    obtain ⟨hfirst, hrest⟩ := List.pairwise_cons.mp hordered
    have hle : first ≤ offset := hfirst offset List.mem_cons_self
    have hlast : offset ≤ last := (List.pairwise_cons.mp hrest).1 last (by simp)
    have htail := ih hrest fun a ha b hb =>
      hjoin a (List.mem_cons_of_mem _ ha) b (List.mem_cons_of_mem _ hb)
    rw [List.cons_append, gaps_cons_cons, List.flatMap_append, htail,
      ← hjoin first List.mem_cons_self offset (by simp) hle hlast]
    refine congrArg (· ++ write (offset, last)) ?_
    split
    · simp
    · rw [show first = offset by omega, hempty]
      rfl

/-- The texts of the pieces, one after the other, are the source. -/
theorem pieces_text (source : List Char) (captures : List Capture) :
    (pieces source (regions source captures)).flatMap (fun piece => pieceText piece 0 source) =
      source := by
  have hordered := cuts_ordered source (regions source captures)
  rw [cuts_eq] at hordered
  have hjoined := gaps_join (pieceText · 0 source) hordered (pieceText_empty 0 source)
    fun _ _ _ _ hle hlast => pieceText_join hle hlast 0 source
  rw [pieces_eq, hjoined, pieceText_inside] <;> simp

theorem pieceText_ne_nil {piece : Nat × Nat}
    (h : piece ∈ pieces source (regions source captures)) : pieceText piece 0 source ≠ [] := by
  obtain ⟨hlt, hstart, hstop⟩ := mem_pieces h
  obtain ⟨_, _, -, -, hlength⟩ := pieceText_between hstart hstop (Nat.le_of_lt hlt)
  intro hnil
  rw [hnil, byteLength] at hlength
  omega

/-! ## The markup of a piece -/

theorem spanAttributes_wellFormed (theme : Theme) (name : String) :
    SpanAttributes (spanAttributes theme name).toList := by
  have hname := plain_toList_escape (className name)
  rw [spanAttributes]
  cases theme.color? name .foreground with
  | none => simpa using SpanAttributes.named hname
  | some color => simpa using SpanAttributes.colored hname (plain_toList_escape color)

theorem opensSpan_openTag (theme : Theme) (name : String) : OpensSpan (openTag theme name).toList :=
  ⟨_, spanAttributes_wellFormed theme name, by simp [openTag_eq]⟩

theorem opensSpan_of_mem {piece : Nat × Nat} {tag : String}
    (h : tag ∈ (pieceRun source captures piece).tags (attributeTable theme captures) captures) :
    OpensSpan tag.toList := by
  rw [pieceRun_tags] at h
  obtain ⟨region, -, rfl⟩ := List.mem_map.mp h
  exact opensSpan_openTag theme region.name

theorem dropTags_nest {tags : List String} (h : ∀ tag ∈ tags, OpensSpan tag.toList)
    {content : String} (hcontent : Plain content.toList) (rest : List Char) :
    dropTags ((nest content tags).toList ++ rest) = content.toList ++ dropTags rest := by
  induction tags generalizing rest with
  | nil => exact dropTags_append hcontent.not_mem_left
  | cons tag tags ih =>
    rw [nest, String.toList_append, String.toList_append, List.append_assoc, List.append_assoc,
      dropTags_openTag (h tag List.mem_cons_self),
      ih fun other hmem => h other (List.mem_cons_of_mem _ hmem), dropTags_closeTag]

theorem inline_nest {tags : List String} (h : ∀ tag ∈ tags, OpensSpan tag.toList)
    {content : String} (hne : content.toList ≠ []) (hcontent : Plain content.toList) :
    Inline true (nest content tags).toList := by
  induction tags with
  | nil => exact inline_plain hne hcontent
  | cons tag tags ih =>
    rw [nest, String.toList_append, String.toList_append]
    exact inline_span (h tag List.mem_cons_self)
      (ih fun other hmem => h other (List.mem_cons_of_mem _ hmem))

theorem escape_ne_nil {text : List Char} (h : text ≠ []) : text.flatMap escapeChar ≠ [] := by
  obtain ⟨c, cs, rfl⟩ := List.exists_cons_of_ne_nil h
  rw [List.flatMap_cons]
  rcases escapeChar_cases c with ⟨-, heq⟩ | ⟨entity, hmem, -, heq⟩
  · simp [heq]
  · obtain ⟨rest, hrest, -⟩ := ampersand_of_mem hmem
    simp [heq, hrest]

theorem pieces_escaped (source : List Char) (captures : List Capture) :
    (pieces source (regions source captures)).flatMap
      (fun piece => (escape (String.ofList (pieceText piece 0 source))).toList) =
        source.flatMap escapeChar := by
  simp only [toList_escape, String.toList_ofList]
  rw [← List.flatMap_assoc, pieces_text]

/-- Without its tags a rendering is the source, escaped. -/
theorem dropTags_inline (source : String) (captures : List Capture) (theme : Theme) :
    dropTags (inline source captures theme).toList = source.toList.flatMap escapeChar := by
  rw [inline_eq_join, String.toList_join, List.flatMap_map,
    ← pieces_escaped source.toList captures]
  exact dropTags_flatMap (fun piece rest =>
    dropTags_nest (fun _ => opensSpan_of_mem) (plain_toList_escape _) rest) _

/-- Where no region is shown a rendering is the source, escaped. -/
theorem inline_of_hidden {source : String}
    (h : ∀ region ∈ regions source.toList captures, region.isHidden) (theme : Theme) :
    inline source captures theme = escape source := by
  have hcover : ∀ piece, ((cover (regions source.toList captures) piece).filter
      fun region => !region.isHidden) = [] := by
    intro piece
    rw [List.filter_eq_nil_iff]
    intro region hregion
    have hmem := (List.mem_filter.mp (List.mem_mergeSort.mp hregion)).1
    simp [h region hmem]
  rw [inline_eq_join]
  simp only [pieceRun_tags, hcover, List.map_nil, nest]
  apply String.toList_injective
  rw [String.toList_join, List.flatMap_map, pieces_escaped, toList_escape]

/-- No text is lost, doubled or altered. -/
theorem unescape_dropTags_inline (source : String) (captures : List Capture) (theme : Theme) :
    (∀ c ∈ dropTags (inline source captures theme).toList, c ∉ ['<', '>', '"', '\'']) ∧
      unescape (dropTags (inline source captures theme).toList) = source.toList := by
  rw [dropTags_inline]
  exact ⟨(plain_escape _).not_delimiter, unescape_escape _⟩

/-- The markup of a piece has the text of the piece in it. -/
theorem inline_piece {piece : Nat × Nat}
    (h : piece ∈ pieces source (regions source captures)) (theme : Theme) :
    Inline true (nest (escape (String.ofList (pieceText piece 0 source)))
      ((pieceRun source captures piece).tags (attributeTable theme captures) captures)).toList := by
  refine inline_nest (fun _ => opensSpan_of_mem) ?_ (plain_toList_escape _)
  rw [toList_escape, String.toList_ofList]
  exact escape_ne_nil (pieceText_ne_nil h)

/-- A rendering is inline markup: tags nest, every span has text in it, and nothing that delimits
markup comes from the source, a name or a color. -/
theorem inline_isInline (source : String) (captures : List Capture) (theme : Theme) :
    ∃ textual, Inline textual (inline source captures theme).toList := by
  rw [inline_eq_join, String.toList_join, List.flatMap_map]
  exact inline_flatMap fun piece hpiece => ⟨true, inline_piece hpiece theme⟩

end CodeHighlight.Render

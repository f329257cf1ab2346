import CodeHighlight.Proofs.Markup.Escape

/-! # Tags and inline markup

Deleting tags passes over text and over whole tags, and inline markup may be put together from
parts. An opening tag has no bracket inside, whatever name and color it was made from. -/
namespace CodeHighlight.Markup

variable {text rest content : List Char}

theorem afterTag_append (h : '>' ∉ content) : afterTag (content ++ '>' :: rest) = rest := by
  induction content with
  | nil => simp [afterTag]
  | cons c cs ih =>
    rw [List.mem_cons, not_or] at h
    have := ih h.2
    simpa [afterTag, Ne.symm h.1] using this

theorem dropTags_append (h : '<' ∉ text) : dropTags (text ++ rest) = text ++ dropTags rest := by
  induction text with
  | nil => rfl
  | cons c cs ih =>
    rw [List.mem_cons, not_or] at h
    rw [List.cons_append, dropTags, if_neg (Ne.symm h.1), ih h.2, List.cons_append]

theorem dropTags_tag (h : '>' ∉ content) :
    dropTags ('<' :: (content ++ '>' :: rest)) = dropTags rest := by
  rw [dropTags, if_pos rfl, afterTag_append h]

theorem Plain.not_mem_left (h : Plain text) : '<' ∉ text := fun hmem =>
  h.not_delimiter _ hmem (by decide)

theorem Plain.not_mem_right (h : Plain text) : '>' ∉ text := fun hmem =>
  h.not_delimiter _ hmem (by decide)

theorem SpanAttributes.not_mem_right {attributes : List Char} (h : SpanAttributes attributes) :
    '>' ∉ attributes := by
  cases h with
  | named hname => simp [hname.not_mem_right]
  | colored hname hcolor => simp [hname.not_mem_right, hcolor.not_mem_right]

/-- The tag opens a span. -/
def OpensSpan (tag : List Char) : Prop :=
  ∃ attributes, SpanAttributes attributes ∧ tag = "<span ".toList ++ attributes ++ ">".toList

theorem dropTags_openTag {tag : List Char} (h : OpensSpan tag) :
    dropTags (tag ++ rest) = dropTags rest := by
  obtain ⟨attributes, hattributes, rfl⟩ := h
  have hcontent : '>' ∉ "span ".toList ++ attributes := by
    simp [hattributes.not_mem_right]
  have h : dropTags ('<' :: ("span ".toList ++ attributes ++ '>' :: rest)) = dropTags rest :=
    dropTags_tag hcontent
  simpa using h

theorem dropTags_closeTag : dropTags ("</span>".toList ++ rest) = dropTags rest := by
  have hcontent : '>' ∉ "/span".toList := by decide
  exact dropTags_tag hcontent

theorem dropTags_flatMap {α : Type} {write read : α → List Char}
    (h : ∀ part rest, dropTags (write part ++ rest) = read part ++ dropTags rest)
    (parts : List α) : dropTags (parts.flatMap write) = parts.flatMap read := by
  induction parts with
  | nil => simp [dropTags]
  | cons part parts ih => rw [List.flatMap_cons, h, ih, List.flatMap_cons]

theorem dropTags_span {tag : List Char} (htag : OpensSpan tag)
    (hcontent : ∀ after, dropTags (content ++ after) = dropTags content ++ dropTags after) :
    dropTags (tag ++ content ++ "</span>".toList ++ rest) = dropTags content ++ dropTags rest := by
  rw [List.append_assoc, List.append_assoc, dropTags_openTag htag, hcontent, dropTags_closeTag]

/-- All the tags of inline markup end in it, so what follows is read by itself. -/
theorem Inline.dropTags_append {textual : Bool} (h : Inline textual content) (rest : List Char) :
    dropTags (content ++ rest) = dropTags content ++ dropTags rest := by
  induction h generalizing rest with
  | nil => simp [dropTags]
  | text hne hplain _ ih =>
    rw [List.append_assoc, Markup.dropTags_append hplain.not_mem_left,
      Markup.dropTags_append hplain.not_mem_left, ih, List.append_assoc]
  | span hattributes _ _ ihContent ihRest =>
    rw [List.append_assoc, dropTags_span ⟨_, hattributes, rfl⟩ ihContent,
      dropTags_span ⟨_, hattributes, rfl⟩ ihContent, ihRest, List.append_assoc]

theorem inline_append {textual other : Bool} {a b : List Char} (ha : Inline textual a)
    (hb : Inline other b) : Inline (textual || other) (a ++ b) := by
  induction ha with
  | nil => exact hb
  | text hne hplain _ ih =>
    rw [List.append_assoc]
    exact .text hne hplain ih
  | span hattributes hcontent _ _ ih =>
    rw [List.append_assoc]
    exact .span hattributes hcontent ih

theorem inline_plain (hne : text ≠ []) (hplain : Plain text) : Inline true text := by
  simpa using Inline.text hne hplain .nil

theorem inline_span {tag : List Char} (htag : OpensSpan tag) (hcontent : Inline true content) :
    Inline true (tag ++ content ++ "</span>".toList) := by
  obtain ⟨attributes, hattributes, rfl⟩ := htag
  simpa using Inline.span hattributes hcontent .nil

theorem inline_flatMap {α : Type} {parts : List α} {write : α → List Char}
    (h : ∀ part ∈ parts, ∃ textual, Inline textual (write part)) :
    ∃ textual, Inline textual (parts.flatMap write) := by
  induction parts with
  | nil => exact ⟨false, .nil⟩
  | cons part parts ih =>
    obtain ⟨first, hfirst⟩ := h part List.mem_cons_self
    obtain ⟨others, hothers⟩ := ih fun other hmem => h other (List.mem_cons_of_mem _ hmem)
    exact ⟨_, inline_append hfirst hothers⟩

end CodeHighlight.Markup

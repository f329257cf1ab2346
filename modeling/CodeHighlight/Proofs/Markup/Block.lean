import CodeHighlight.Markup.Block
import CodeHighlight.Proofs.Markup.Inline

/-! # Reading blocks back

The values of a block's attributes end at the first quotation mark and its markup before the last
two tags. So a block can be read in one way only, and unescaping the values gives what they were
written for. -/
namespace CodeHighlight.Markup

theorem Plain.not_mem_quote {text : List Char} (h : Plain text) : '"' ∉ text := fun hmem =>
  h.not_delimiter _ hmem (by decide)

/-- Texts that are alike up to a first quotation mark and after it are alike. -/
theorem eq_of_quote {a b x y : List Char} (ha : '"' ∉ a) (hb : '"' ∉ b)
    (h : a ++ '"' :: x = b ++ '"' :: y) : a = b ∧ x = y := by
  induction a generalizing b with
  | nil =>
    cases b with
    | nil => exact ⟨rfl, (List.cons_eq_cons.mp h).2⟩
    | cons d ds =>
      obtain ⟨rfl, -⟩ := List.cons_eq_cons.mp h
      exact absurd List.mem_cons_self hb
  | cons c cs ih =>
    cases b with
    | nil =>
      obtain ⟨rfl, -⟩ := List.cons_eq_cons.mp h
      exact absurd List.mem_cons_self ha
    | cons d ds =>
      rw [List.mem_cons, not_or] at ha hb
      obtain ⟨rfl, htail⟩ := List.cons_eq_cons.mp h
      obtain ⟨rfl, hrest⟩ := ih ha.2 hb.2 htail
      exact ⟨rfl, hrest⟩

namespace BlockMarkup

theorem write_eq (block : BlockMarkup) :
    block.write = "<pre class=\"".toList ++ (block.classes ++ '"' :: (" style=\"".toList ++
      (block.style ++ '"' :: ("><code>".toList ++
        (block.content ++ "</code></pre>".toList))))) := by
  have hstyle : "\" style=\"".toList = '"' :: " style=\"".toList := by simp
  have hcode : "\"><code>".toList = '"' :: "><code>".toList := by simp
  unfold write
  simp only [List.append_assoc, hstyle, hcode, List.cons_append]

/-- Markup is written for one block only. -/
theorem write_injective {block other : BlockMarkup} (h : block.write = other.write) :
    block = other := by
  rw [write_eq, write_eq, List.append_cancel_left_eq] at h
  obtain ⟨hclasses, hafter⟩ :=
    eq_of_quote block.classes_plain.not_mem_quote other.classes_plain.not_mem_quote h
  rw [List.append_cancel_left_eq] at hafter
  obtain ⟨hstyle, hinside⟩ :=
    eq_of_quote block.style_plain.not_mem_quote other.style_plain.not_mem_quote hafter
  rw [List.append_cancel_left_eq, List.append_cancel_right_eq] at hinside
  cases block
  cases other
  cases hclasses
  cases hstyle
  cases hinside
  rfl

/-- Without its tags a block has the text of its markup. -/
theorem dropTags_write (block : BlockMarkup) : dropTags block.write = dropTags block.content := by
  obtain ⟨textual, hcontent⟩ := block.content_inline
  have hattributes : '>' ∉ "pre class=\"".toList ++ (block.classes ++ '"' ::
      (" style=\"".toList ++ (block.style ++ ['"']))) := by
    simp [block.classes_plain.not_mem_right, block.style_plain.not_mem_right]
  have hwrite : block.write = '<' :: ("pre class=\"".toList ++ (block.classes ++ '"' ::
      (" style=\"".toList ++ (block.style ++ ['"']))) ++ '>' :: ("<code>".toList ++
        (block.content ++ ("</code>".toList ++ ("</pre>".toList ++ []))))) := by
    rw [write_eq]
    simp
  have hcode : ∀ rest, dropTags ("<code>".toList ++ rest) = dropTags rest := fun rest =>
    @dropTags_tag rest "code".toList (by decide)
  have hcodeEnd : ∀ rest, dropTags ("</code>".toList ++ rest) = dropTags rest := fun rest =>
    @dropTags_tag rest "/code".toList (by decide)
  have hpreEnd : ∀ rest, dropTags ("</pre>".toList ++ rest) = dropTags rest := fun rest =>
    @dropTags_tag rest "/pre".toList (by decide)
  rw [hwrite, dropTags_tag hattributes, hcode, hcontent.dropTags_append, hcodeEnd, hpreEnd,
    dropTags, List.append_nil]

/-- The block that is written for two values and some inline markup. -/
def ofValues (classes style : String) (content : List Char)
    (content_inline : ∃ textual, Inline textual content) : BlockMarkup where
  classes := (escape classes).toList
  style := (escape style).toList
  content
  classes_plain := plain_toList_escape classes
  style_plain := plain_toList_escape style
  content_inline

section

variable {classes style : String} {content : List Char} {h : ∃ textual, Inline textual content}

theorem content_ofValues : (ofValues classes style content h).content = content := rfl

theorem unescape_classes :
    unescape (ofValues classes style content h).classes = classes.toList := by
  have hvalue : (ofValues classes style content h).classes = (escape classes).toList := by
    rw [ofValues]
  rw [hvalue, toList_escape, unescape_escape]

theorem unescape_style : unescape (ofValues classes style content h).style = style.toList := by
  have hvalue : (ofValues classes style content h).style = (escape style).toList := by
    rw [ofValues]
  rw [hvalue, toList_escape, unescape_escape]

end

end BlockMarkup

theorem escape_classes (themeClass : String) :
    escape (blockClass ++ " " ++ themeClass) = blockClass ++ " " ++ escape themeClass := by
  have hclass : escape (blockClass ++ " ") = blockClass ++ " " := rfl
  rw [escape_append, hclass]

theorem escape_style (background foreground : String) :
    escape ("background-color: " ++ background ++ "; color: " ++ foreground) =
      "background-color: " ++ escape background ++ "; color: " ++ escape foreground := by
  have hbackground : escape "background-color: " = "background-color: " := rfl
  have hforeground : escape "; color: " = "; color: " := rfl
  rw [escape_append, escape_append, escape_append, hbackground, hforeground]

/-- A code block is written with its class and its colors as attribute values. -/
theorem toList_codeBlock {content : String} (h : ∃ textual, Inline textual content.toList)
    (themeClass background foreground : String) :
    (codeBlock content themeClass background foreground).toList =
      (BlockMarkup.ofValues (blockClass ++ " " ++ themeClass)
        ("background-color: " ++ background ++ "; color: " ++ foreground)
        content.toList h).write := by
  have hstyle : "\" style=\"background-color: ".toList =
      "\" style=\"".toList ++ "background-color: ".toList := by simp
  unfold codeBlock BlockMarkup.write BlockMarkup.ofValues
  simp only [escape_classes, escape_style, String.toList_append, List.append_assoc, hstyle]

end CodeHighlight.Markup

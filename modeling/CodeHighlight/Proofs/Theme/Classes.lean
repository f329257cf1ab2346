import CodeHighlight.Proofs.Highlighter.Blocks
import CodeHighlight.Proofs.Text.Words

/-! # The class of a theme

A theme that has an id with a word in it, or no id at all, gives its block one class of its own. An
id of nothing but blanks gives none: its words are joined, and there are none to join. -/
namespace CodeHighlight

open CodeHighlight.Markup CodeHighlight.Text

/-! ## Class names -/

theorem Markup.classNames_pair {first second : List Char}
    (hfirst : ∀ c ∈ first, isAsciiBlank c = false) (hne : first ≠ [])
    (hsecond : ∀ c ∈ second, isAsciiBlank c = false) :
    classNames (first ++ ' ' :: second) = if second = [] then [first] else [first, second] := by
  rw [classNames, List.splitOnP_append_cons_of_forall_mem hfirst ' ' (by decide),
    List.splitOnP_eq_singleton hsecond]
  split
  · rename_i hsecond
    simp [hne, hsecond]
  · rename_i hsecond
    simp [hne, hsecond]

namespace Theme

variable {theme : Theme}

theorem cssClass_of_empty (h : theme.id = "") : theme.cssClass = defaultThemeId := by
  rw [cssClass, h]
  rfl

theorem cssClass_of_ne (h : theme.id ≠ "") :
    theme.cssClass = String.intercalate "-" (words theme.id) := by
  rw [cssClass, if_neg]
  simpa using h

theorem not_isBlank_of_mem_cssClass {c : Char} (h : c ∈ theme.cssClass.toList) :
    isBlank c = false := by
  by_cases hid : theme.id = ""
  · rw [cssClass_of_empty hid] at h
    have hplain : defaultThemeId.toList.all (isBlank · = false) = true := by decide
    exact of_decide_eq_true (List.all_eq_true.mp hplain c h)
  · rw [cssClass_of_ne hid] at h
    exact not_isBlank_of_mem_joined h

/-- The class is missing where the id is there but has no word in it. -/
theorem cssClass_eq_empty_iff : theme.cssClass = "" ↔ theme.id ≠ "" ∧ isBlankText theme.id := by
  by_cases hid : theme.id = ""
  · rw [cssClass_of_empty hid, hid]
    simp [defaultThemeId]
  · rw [cssClass_of_ne hid, and_iff_right hid, joined_eq_empty_iff]

/-- The values of a block's class attribute. -/
theorem classNames_cssClass (theme : Theme) :
    classNames (blockClass ++ " " ++ theme.cssClass).toList =
      if theme.cssClass = "" then [blockClass.toList]
      else [blockClass.toList, theme.cssClass.toList] := by
  have hvalue : (blockClass ++ " " ++ theme.cssClass).toList =
      blockClass.toList ++ ' ' :: theme.cssClass.toList := by simp
  have hclass : ∀ c ∈ theme.cssClass.toList, isAsciiBlank c = false := by
    intro c hc
    rw [Bool.eq_false_iff]
    intro hascii
    have hblank := isBlank_of_isAsciiBlank hascii
    rw [not_isBlank_of_mem_cssClass hc] at hblank
    cases hblank
  have hblock : blockClass.toList.all (isAsciiBlank · = false) = true := by decide
  have hblockClass : ∀ c ∈ blockClass.toList, isAsciiBlank c = false := by
    intro c hc
    exact of_decide_eq_true (List.all_eq_true.mp hblock c hc)
  rw [hvalue, classNames_pair hblockClass (by decide) hclass]
  simp

/-- The class of a theme has no blank in it. It is there, and is the one class of a block beside the
class of all blocks, exactly when the theme has no id or an id with a word in it; and of an id that
begins and ends with a word it is the id with a hyphen for every stretch of blanks. -/
theorem one_class_unless_blank (theme : Theme) :
    (∀ c ∈ theme.cssClass.toList, isBlank c = false) ∧
      (theme.cssClass ≠ "" ↔ theme.id = "" ∨ ¬ isBlankText theme.id) ∧
      (∀ code captures, ∃ block : BlockMarkup,
        Highlighter.themedBlock theme (Render.inline code captures theme) =
          String.ofList block.write ∧
        (classNames (unescape block.classes) = ["treelight".toList, theme.cssClass.toList] ↔
          theme.id = "" ∨ ¬ isBlankText theme.id)) ∧
      (theme.id ≠ "" → IsTrimmed theme.id →
        theme.cssClass.toList = hyphenated theme.id.toList) := by
  have hthere : theme.cssClass ≠ "" ↔ theme.id = "" ∨ ¬ isBlankText theme.id := by
    rw [Ne, cssClass_eq_empty_iff, not_and_or, not_ne_iff]
  refine ⟨fun c hc => not_isBlank_of_mem_cssClass hc, hthere, fun code captures => ?_,
    fun hne htrimmed => ?_⟩
  · obtain ⟨block, hblock, hclasses, -⟩ := Highlighter.exists_block theme code captures
    refine ⟨block, hblock, ?_⟩
    have hname : blockClass.toList = "treelight".toList := rfl
    rw [hclasses, classNames_cssClass, hname, ← hthere]
    split
    · rename_i hempty
      simp [hempty]
    · rename_i hpresent
      simp [hpresent]
  · rw [cssClass_of_ne hne, joined_of_isTrimmed hne htrimmed]

namespace Spaced

/-- Three blanks, one of them outside ASCII, stand between the words. -/
def night : Theme := ⟨"solar \u00a0 night", none, .empty⟩

/-- The id is a blank. -/
def blank : Theme := ⟨" ", none, .empty⟩

theorem isTrimmed_id : IsTrimmed Spaced.night.id := by
  rintro c (hc | hc) <;>
  · obtain rfl := Option.some.inj hc
    decide

end Spaced

/-- A stretch of three blanks becomes one hyphen. -/
theorem one_class_unless_blank_of_words :
    Spaced.night.id ≠ "" ∧ IsTrimmed Spaced.night.id ∧ Spaced.night.cssClass = "solar-night" ∧
      hyphenated Spaced.night.id.toList = "solar-night".toList := by
  have hne : Spaced.night.id ≠ "" := by decide
  have hclass : Spaced.night.cssClass = "solar-night" := by decide
  obtain ⟨-, -, -, hhyphens⟩ := one_class_unless_blank Spaced.night
  refine ⟨hne, Spaced.isTrimmed_id, hclass, ?_⟩
  rw [← hhyphens hne Spaced.isTrimmed_id, hclass]

/-- An id that is a blank gives no class, and its block has only the class of all blocks. -/
theorem blank_id_gives_no_class :
    Spaced.blank.cssClass = "" ∧ ∃ block : BlockMarkup,
      Highlighter.themedBlock Spaced.blank (Render.inline "x" [] Spaced.blank) =
        String.ofList block.write ∧
      classNames (unescape block.classes) = ["treelight".toList] := by
  have hclass : Spaced.blank.cssClass = "" := by decide
  obtain ⟨block, hblock, hclasses, -⟩ := Highlighter.exists_block Spaced.blank "x" []
  refine ⟨hclass, block, hblock, ?_⟩
  rw [hclasses, classNames_cssClass, if_pos hclass]
  rfl

end Theme

end CodeHighlight

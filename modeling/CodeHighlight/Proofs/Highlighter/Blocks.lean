import CodeHighlight.Proofs.Highlighter.Strictness
import CodeHighlight.Proofs.Markup.Block

/-! # Every answer is a block

Whether code was highlighted or is shown as it stands, what a call answers with is one block around
inline markup. The block can be read in one way only, and read so it gives the class of the theme,
its colors and the code. -/
namespace CodeHighlight.Highlighter

open CodeHighlight.Markup

variable {engine : Engine} {highlighter : Highlighter} {code language : String}

/-- The content of a block is a rendering: that of the captures, or one without any. -/
theorem content_eq_inline {theme : Theme} {timeout : Option Nat} {strict : Bool} {content : String}
    (h : degrade strict code (highlighter.highlightInline engine code language theme timeout).1 =
      .ok content) :
    ∃ captures, content = Render.inline code captures theme := by
  cases hinline : (highlighter.highlightInline engine code language theme timeout).1 with
  | ok markup =>
    rw [hinline] at h
    cases h
    rw [highlightInline_answer] at hinline
    obtain ⟨state, -, hparse⟩ := Failure.ok_of_bind hinline
    obtain ⟨captures, -, hrender⟩ := Failure.ok_of_bind hparse
    cases hrender
    exact ⟨captures, rfl⟩
  | error failure =>
    rw [hinline, degrade] at h
    split at h <;> cases h
    exact ⟨[], (Render.inline_of_hidden (by simp [Render.regions]) theme).symm⟩

/-- A call that answers does so with the block of the chosen theme around a rendering of the
code. -/
theorem highlight_eq_block {options : HighlightOptions} {html : String}
    (h : (highlighter.highlight engine code language options).1 = .ok html) :
    ∃ theme captures, highlighter.themes.choose options.theme = .ok theme ∧
      html = themedBlock theme (Render.inline code captures theme) := by
  cases htheme : highlighter.themes.choose options.theme with
  | error failure =>
    rw [highlight_of_choose_error htheme] at h
    cases h
  | ok theme =>
    rw [highlight_answer htheme] at h
    cases hcontent : degrade options.strict code
        (highlighter.highlightInline engine code language theme options.timeout).1 with
    | error failure =>
      rw [hcontent] at h
      cases h
    | ok content =>
      rw [hcontent] at h
      cases h
      obtain ⟨captures, rfl⟩ := content_eq_inline hcontent
      exact ⟨theme, captures, rfl, rfl⟩

/-- A rendering in the block of a theme has the class of the theme beside the class of all blocks,
and is the code once tags and entities are gone. -/
theorem exists_block (theme : Theme) (code : String) (captures : List Capture) :
    ∃ block : BlockMarkup,
      themedBlock theme (Render.inline code captures theme) = String.ofList block.write ∧
      unescape block.classes = (blockClass ++ " " ++ theme.cssClass).toList ∧
      unescape (dropTags block.write) = code.toList := by
  have hinline : ∃ textual, Inline textual (Render.inline code captures theme).toList := by
    rw [Render.inline_eq_join, String.toList_join, List.flatMap_map]
    exact inline_flatMap fun piece hpiece => ⟨true, Render.inline_piece hpiece theme⟩
  refine ⟨.ofValues (blockClass ++ " " ++ theme.cssClass)
    ("background-color: " ++ theme.blockBackground ++ "; color: " ++ theme.blockForeground)
    (Render.inline code captures theme).toList hinline, ?_, ?_, ?_⟩
  · rw [← toList_codeBlock hinline, String.ofList_toList, themedBlock]
  · rw [BlockMarkup.unescape_classes]
  · rw [BlockMarkup.dropTags_write, BlockMarkup.content_ofValues, Render.dropTags_inline,
      unescape_escape]

/-- What a call answers reads as one block and no other. Its values are the classes and the colors
of the chosen theme, escaped, and its markup without the tags is the code, escaped. -/
theorem highlight_reads_back {options : HighlightOptions} {html : String}
    (h : (highlighter.highlight engine code language options).1 = .ok html) :
    ∃ theme, highlighter.themes.choose options.theme = .ok theme ∧
      ∃ block : BlockMarkup, html.toList = block.write ∧
        (∀ other : BlockMarkup, html.toList = other.write → other = block) ∧
        unescape block.classes = ("treelight " ++ theme.cssClass).toList ∧
        unescape block.style =
          ("background-color: " ++ theme.blockBackground ++ "; color: "
            ++ theme.blockForeground).toList ∧
        unescape (dropTags block.content) = code.toList := by
  obtain ⟨theme, captures, htheme, rfl⟩ := highlight_eq_block h
  have hinline : ∃ textual, Inline textual (Render.inline code captures theme).toList := by
    rw [Render.inline_eq_join, String.toList_join, List.flatMap_map]
    exact inline_flatMap fun piece hpiece => ⟨true, Render.inline_piece hpiece theme⟩
  have hwrite := toList_codeBlock hinline theme.cssClass theme.blockBackground
    theme.blockForeground
  have hclass : blockClass ++ " " = "treelight " := rfl
  rw [hclass] at hwrite
  refine ⟨theme, htheme, _, hwrite, ?_, ?_, ?_, ?_⟩
  · intro other hother
    exact BlockMarkup.write_injective (hother.symm.trans hwrite)
  · rw [BlockMarkup.unescape_classes]
  · rw [BlockMarkup.unescape_style]
  · rw [BlockMarkup.content_ofValues, Render.dropTags_inline, unescape_escape]

namespace Hostile

/-- The id, the colors and a key try to break out of the markup. -/
def theme : Theme where
  id := "a\"><b"
  name := none
  styles := Catalog.ofList [("ui.background", .color "\" onload=\"x"), ("</code>", .color "<i>")]

def themed : Highlighter := (Highlighter.new.registerThemeAs theme.id theme).2

def options : HighlightOptions := ⟨some theme.id, false, none⟩

def html : String :=
  "<pre class=\"treelight a&quot;&gt;&lt;b\" style=\"background-color: &quot; onload=&quot;x; " ++
    "color: #000000\"><code>&lt;/code&gt;</code></pre>"

theorem chosen : themed.themes.choose options.theme = .ok theme := by
  have hid : normalizeThemeId theme.id = theme.id := by decide +kernel
  have hchoose := ThemeStore.choose_registerAs .withBuiltins theme.id theme
  rw [hid] at hchoose
  exact hchoose

end Hostile

open Counterexample (silentEngine) in
/-- Code that cannot be highlighted reads back from its block, whatever its theme. -/
theorem highlight_reads_back_of_hostile :
    (Hostile.themed.highlight silentEngine "</code>" "b" Hostile.options).1 = .ok Hostile.html ∧
      ∃ block : BlockMarkup, Hostile.html.toList = block.write ∧
        unescape block.classes = "treelight a\"><b".toList ∧
        unescape block.style = "background-color: \" onload=\"x; color: #000000".toList ∧
        unescape (dropTags block.content) = "</code>".toList := by
  have hblock : themedBlock Hostile.theme (escape "</code>") = Hostile.html := by decide +kernel
  have hanswer : (Hostile.themed.highlight silentEngine "</code>" "b" Hostile.options).1 =
      .ok Hostile.html := by
    rw [highlight_answer Hostile.chosen, ← hblock]
    rfl
  obtain ⟨theme, htheme, block, hwrite, -, hclasses, hstyle, hcode⟩ := highlight_reads_back hanswer
  obtain rfl := Except.ok.inj (Hostile.chosen.symm.trans htheme)
  exact ⟨hanswer, block, hwrite, hclasses, hstyle, hcode⟩

end CodeHighlight.Highlighter

import CodeHighlight.Proofs.Theme.Cascade
import CodeHighlight.Render.Sweep
import Mathlib.Data.List.Basic

/-! # The colors that a rendering asks for

A rendering asks its theme for the foreground of every name that is shown, and a block for two
colors of its own. An answer comes from the names that head the key asked for and from no other
entry, so themes with one id that agree on these names render alike. -/
namespace CodeHighlight

namespace Theme

variable {a b c : Theme} {key : String}

/-- What heads the key has one and the same style in both themes, or in neither. -/
def AgreeOn (a b : Theme) (key : String) : Prop :=
  ∀ name, Heads name key → a.styles.get? name = b.styles.get? name

theorem AgreeOn.trans (hab : a.AgreeOn b key) (hbc : b.AgreeOn c key) : a.AgreeOn c key :=
  fun name hheads => (hab name hheads).trans (hbc name hheads)

/-- A new entry is of no account for the keys that it does not head. -/
theorem agreeOn_insert (theme : Theme) {name : String} (style : Style) (h : ¬ Heads name key) :
    theme.AgreeOn { theme with styles := theme.styles.insert name style } key := by
  intro other hother
  have hne : other ≠ name := fun heq => h (heq ▸ hother)
  exact (theme.styles.get?_insert_of_ne style hne).symm

/-- Every name that the search comes to heads the key, so it takes the same way in both themes. -/
theorem AgreeOn.search {answer : Option Style} (h : a.AgreeOn b key)
    (hsearch : a.Search key answer) : b.Search key answer := by
  induction hsearch with
  | @found key style hentry =>
    rw [h key (.inl rfl)] at hentry
    exact .found hentry
  | @missed key hentry hdot =>
    rw [h key (.inl rfl)] at hentry
    exact .missed hentry hdot
  | cut hentry hback _ ih =>
    rw [h _ (.inl rfl)] at hentry
    exact .cut hentry hback (ih fun name hheads => h name (hheads.cut _))

theorem AgreeOn.resolve?_eq (h : a.AgreeOn b key) : a.resolve? key = b.resolve? key :=
  search_iff.mp (h.search (search_resolve? a key))

theorem AgreeOn.color?_eq (h : a.AgreeOn b key) (channel : Channel) :
    a.color? key channel = b.color? key channel := by
  rw [color?, color?, h.resolve?_eq]

theorem AgreeOn.blockBackground_eq (h : a.AgreeOn b backgroundKey) :
    a.blockBackground = b.blockBackground := by
  rw [blockBackground, blockBackground, h.color?_eq, h.color?_eq]

theorem AgreeOn.blockForeground_eq (h : a.AgreeOn b foregroundKey) :
    a.blockForeground = b.blockForeground := by
  rw [blockForeground, blockForeground, h.color?_eq, h.color?_eq]

end Theme

namespace Render

variable {a b : Theme} {captures : List Capture}

/-- The names that captures are wrapped for. -/
def shownNames (captures : List Capture) : List String :=
  (captures.filter fun capture => !capture.isHidden).map (·.name)

theorem spanAttributes_of_agree {name : String} (h : a.AgreeOn b name) :
    spanAttributes a name = spanAttributes b name := by
  rw [spanAttributes, spanAttributes, h.color?_eq]

/-- A hidden name is not looked up at all. -/
theorem attributeTable_of_agree (h : ∀ name ∈ shownNames captures, a.AgreeOn b name) :
    attributeTable a captures = attributeTable b captures := by
  have hentry : ∀ capture ∈ captures,
      (if capture.isHidden then none else some (spanAttributes a capture.name)) =
        if capture.isHidden then none else some (spanAttributes b capture.name) := by
    intro capture hcapture
    by_cases hhidden : capture.isHidden
    · rw [if_pos hhidden, if_pos hhidden]
    · have hshown : capture.name ∈ shownNames captures :=
        List.mem_map_of_mem (List.mem_filter.mpr ⟨hcapture, by simpa using hhidden⟩)
      rw [if_neg hhidden, if_neg hhidden, spanAttributes_of_agree (h _ hshown)]
  rw [attributeTable, attributeTable]
  refine List.foldl_ext _ _ _ fun table capture hcapture => ?_
  rw [hentry capture hcapture]

/-- Entries that head no key that is asked for leave no trace in the rendering or the block. -/
theorem themes_that_agree_render_alike (hid : a.id = b.id)
    (hagree : ∀ key ∈ Theme.backgroundKey :: Theme.foregroundKey :: shownNames captures,
      a.AgreeOn b key) (source : String) :
    inline source captures a = inline source captures b ∧ a.cssClass = b.cssClass ∧
      a.blockBackground = b.blockBackground ∧ a.blockForeground = b.blockForeground := by
  obtain ⟨hbackground, hrest⟩ := List.forall_mem_cons.mp hagree
  obtain ⟨hforeground, hshown⟩ := List.forall_mem_cons.mp hrest
  refine ⟨?_, ?_, hbackground.blockBackground_eq, hforeground.blockForeground_eq⟩
  · rw [inline, inline, attributeTable_of_agree hshown]
  · rw [Theme.cssClass, Theme.cssClass, hid]

namespace Repainted

def marks : List Capture := [⟨"variable.parameter", 0, 1⟩, ⟨"_scope", 0, 9⟩]

def bare : Theme :=
  ⟨"plain", none, .ofList [("ui", .channels none (some "#111")), ("variable", .color "#a00")]⟩

/-- With a style for the name of a hidden capture. -/
def scopes : Theme := { bare with styles := bare.styles.insert "_scope" (.color "#0a0") }

/-- With a style below a name that is shown as well. -/
def special : Theme :=
  { scopes with styles := scopes.styles.insert "variable.parameter.special" (.color "#00a") }

end Repainted

open Repainted in
/-- Styles for a hidden name and below a shown one change nothing. -/
theorem themes_that_agree_render_alike_repainted :
    bare.id = special.id ∧
      (∀ key ∈ Theme.backgroundKey :: Theme.foregroundKey :: shownNames marks,
        bare.AgreeOn special key) ∧
      inline "x < y" marks bare = inline "x < y" marks special ∧
      bare.cssClass = special.cssClass ∧ bare.blockBackground = special.blockBackground ∧
      bare.blockForeground = special.blockForeground := by
  have hagree : ∀ key ∈ Theme.backgroundKey :: Theme.foregroundKey :: shownNames marks,
      bare.AgreeOn special key := by
    intro key hkey
    have hoff : ∀ key ∈ Theme.backgroundKey :: Theme.foregroundKey :: shownNames marks,
        ¬ Heads "_scope" key ∧ ¬ Heads "variable.parameter.special" key := by decide
    exact (Theme.agreeOn_insert bare _ (hoff key hkey).1).trans
      (Theme.agreeOn_insert scopes _ (hoff key hkey).2)
  have hid : bare.id = special.id := rfl
  exact ⟨hid, hagree, themes_that_agree_render_alike hid hagree "x < y"⟩

end Render

end CodeHighlight

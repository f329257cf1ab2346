import CodeHighlight.Proofs.Highlighter.History
import CodeHighlight.Proofs.Highlighter.Strictness
import CodeHighlight.Proofs.Registry.Independence

/-! # Languages do not interfere

Uses of two languages may be made in either order. Each answers as if the other had not been made,
and the highlighter they leave behind is the same. -/
namespace CodeHighlight

theorem Highlighter.highlight_answer_congr {engine : Engine} {highlighter other : Highlighter}
    {language : String} (hthemes : other.themes = highlighter.themes) (code : String)
    (options : HighlightOptions)
    (hload : (other.registry.load engine language).1 =
      (highlighter.registry.load engine language).1) :
    (other.highlight engine code language options).1 =
      (highlighter.highlight engine code language options).1 := by
  cases hchoose : highlighter.themes.choose options.theme with
  | error failure =>
    have hother : other.themes.choose options.theme = .error failure := hthemes ▸ hchoose
    rw [highlight_of_choose_error hother, highlight_of_choose_error hchoose]
  | ok theme =>
    have hother : other.themes.choose options.theme = .ok theme := hthemes ▸ hchoose
    rw [highlight_answer hother, highlight_answer hchoose, highlightInline_answer,
      highlightInline_answer, hload]

namespace LanguageUse

variable {engine : Engine} {highlighter : Highlighter} {x y : LanguageUse} {id : String}

theorem themes_perform (engine : Engine) (highlighter : Highlighter) (use : LanguageUse) :
    (use.operation.perform engine highlighter).2.themes = highlighter.themes := by
  cases use with
  | register id loader => rfl
  | load id => rfl
  | highlight code id options => exact highlighter.themes_highlight engine code id options

theorem language_of_loads {use : LanguageUse} (h : use.loads? = some id) : use.language = id := by
  cases use with
  | register name loader => cases h
  | load name => exact Option.some.inj h
  | highlight code name options => exact Option.some.inj h

theorem loader?_of_loads {use : LanguageUse} (h : use.loads? = some id) :
    use.loader? highlighter = highlighter.registry.loaders.get? id := by
  rw [← language_of_loads h]
  cases use with
  | register name loader => cases h
  | load name => rfl
  | highlight code name options => rfl

/-- Of the highlighter a use needs the themes, and an answer to the load that it makes. -/
theorem answer_perform_congr {other : Highlighter} (hthemes : other.themes = highlighter.themes)
    (use : LanguageUse)
    (hload : ∀ id, use.loads? = some id →
      (other.registry.load engine id).1 = (highlighter.registry.load engine id).1) :
    (use.operation.perform engine other).1 = (use.operation.perform engine highlighter).1 := by
  cases use with
  | register id loader => rfl
  | load id =>
    exact congrArg (fun answer => Answer.loaded (answer.map fun _ => ())) (hload id rfl)
  | highlight code id options =>
    exact congrArg Answer.markup
      (Highlighter.highlight_answer_congr hthemes code options (hload id rfl))

/-! ## One use after another -/

/-- A load answers as if a use of another language had not been made. -/
theorem load_answer_perform (hdefault : highlighter.themes.HasDefault) (hne : id ≠ x.language)
    (hapart : ∀ loader ∈ x.loader? highlighter, ∀ other,
      highlighter.registry.loaders.get? id = some other → loader.Apart other) :
    ((x.operation.perform engine highlighter).2.registry.load engine id).1 =
      (highlighter.registry.load engine id).1 := by
  cases hx : x.loads? with
  | none =>
    obtain ⟨name, loader, rfl⟩ := eq_register_of_loads hx
    have hother : id ≠ name := hne
    rw [registry_register, Registry.load_register engine _ loader hother]
  | some name =>
    rw [language_of_loads hx] at hne
    rw [loader?_of_loads hx] at hapart
    rw [registry_of_loads hdefault hx]
    have hfiled : highlighter.registry.LoadersApart name id := fun loader other hloader hother =>
      hapart loader hloader other hother
    exact (Registry.sameFor_load engine hne hfiled).load_answer

theorem answer_perform_perform (hdefault : highlighter.themes.HasDefault)
    (hne : x.language ≠ y.language)
    (hapart : ∀ loader ∈ x.loader? highlighter, ∀ other ∈ y.loader? highlighter,
      loader.Apart other) :
    (y.operation.perform engine (x.operation.perform engine highlighter).2).1 =
      (y.operation.perform engine highlighter).1 := by
  refine answer_perform_congr (themes_perform engine highlighter x) y ?_
  intro id hy
  rw [language_of_loads hy] at hne
  rw [loader?_of_loads hy] at hapart
  exact load_answer_perform hdefault hne.symm hapart

/-- A registration may be made before or after the load of another language. -/
theorem registry_register_perform (hdefault : highlighter.themes.HasDefault) {name : String}
    (loader : Loader) (hy : y.loads? = some id) (hne : id ≠ name) :
    (y.operation.perform engine
        ((register name loader).operation.perform engine highlighter).2).2.registry =
      ((register name loader).operation.perform engine
        (y.operation.perform engine highlighter).2).2.registry := by
  have hafter :
      ((register name loader).operation.perform engine highlighter).2.themes.HasDefault := hdefault
  rw [registry_of_loads hafter hy, registry_register, registry_register,
    registry_of_loads hdefault hy, Registry.load_register engine _ loader hne]

theorem registry_perform_comm (hdefault : highlighter.themes.HasDefault)
    (hne : x.language ≠ y.language)
    (hapart : ∀ loader ∈ x.loader? highlighter, ∀ other ∈ y.loader? highlighter,
      loader.Apart other) :
    (y.operation.perform engine (x.operation.perform engine highlighter).2).2.registry =
      (x.operation.perform engine (y.operation.perform engine highlighter).2).2.registry := by
  cases hx : x.loads? with
  | none =>
    obtain ⟨a, loader, rfl⟩ := eq_register_of_loads hx
    cases hy : y.loads? with
    | none =>
      obtain ⟨b, other, rfl⟩ := eq_register_of_loads hy
      exact Registry.register_comm hne loader other
    | some b =>
      rw [language_of_loads hy] at hne
      exact registry_register_perform hdefault loader hy hne.symm
  | some a =>
    rw [language_of_loads hx] at hne
    cases hy : y.loads? with
    | none =>
      obtain ⟨b, other, rfl⟩ := eq_register_of_loads hy
      exact (registry_register_perform hdefault other hx hne).symm
    | some b =>
      rw [language_of_loads hy] at hne
      rw [loader?_of_loads hx, loader?_of_loads hy] at hapart
      have hdefault' : ∀ use : LanguageUse,
          (use.operation.perform engine highlighter).2.themes.HasDefault := by
        intro use
        rw [themes_perform]
        exact hdefault
      rw [registry_of_loads (hdefault' x) hy, registry_of_loads (hdefault' y) hx,
        registry_of_loads hdefault hx, registry_of_loads hdefault hy]
      exact Registry.load_comm hne fun loader other hloader hother =>
        hapart loader hloader other hother

/-! ## Either order -/

/-- Uses of two languages may change places where no factory is called for both languages. Each
answers as it would by itself, and the highlighter after both is the same: its themes, its loaders,
the states of its languages, the start of its backend and the counts of calls. -/
theorem uses_commute (h : Highlighter.Reachable engine highlighter)
    (hne : x.language ≠ y.language)
    (hapart : ∀ loader ∈ x.loader? highlighter, ∀ other ∈ y.loader? highlighter,
      loader.Apart other) :
    let afterX := (x.operation.perform engine highlighter).2
    let afterY := (y.operation.perform engine highlighter).2
    (x.operation.perform engine afterY).1 = (x.operation.perform engine highlighter).1 ∧
      (y.operation.perform engine afterX).1 = (y.operation.perform engine highlighter).1 ∧
      (y.operation.perform engine afterX).2 = (x.operation.perform engine afterY).2 := by
  intro afterX afterY
  refine ⟨?_, answer_perform_perform h.hasDefault hne hapart, ?_⟩
  · exact answer_perform_perform h.hasDefault hne.symm fun loader hloader other hother =>
      (hapart other hother loader hloader).symm
  · refine Highlighter.ext ?_ (registry_perform_comm h.hasDefault hne hapart)
    rw [themes_perform, themes_perform, themes_perform, themes_perform]

namespace Pair

def steady : Loader := .factory .immediate "g" fun _ => .ok (Definition.builtin .c)

/-- Two languages, the first of them with a loader that fails when it is first called. -/
def both : Highlighter :=
  (Highlighter.new.registerLanguage "a" Retry.flaky).registerLanguage "b" steady

def failing : LanguageUse := .load "a"

def showing : LanguageUse := .highlight "x" "b" ⟨none, true, none⟩

end Pair

open Highlighter.Counterexample (silentEngine) in
/-- A failing first load starts the backend as well before as after a highlight of the other. -/
theorem uses_commute_of_pair :
    Highlighter.Reachable silentEngine Pair.both ∧
      Pair.failing.language ≠ Pair.showing.language ∧
      (∀ loader ∈ Pair.failing.loader? Pair.both,
        ∀ other ∈ Pair.showing.loader? Pair.both, loader.Apart other) ∧
      (Pair.failing.operation.perform silentEngine
          (Pair.showing.operation.perform silentEngine Pair.both).2).1 =
        .loaded (.error (.backendUnavailable "offline")) ∧
      (Pair.showing.operation.perform silentEngine
          (Pair.failing.operation.perform silentEngine Pair.both).2).2 =
        (Pair.failing.operation.perform silentEngine
          (Pair.showing.operation.perform silentEngine Pair.both).2).2 := by
  have hreachable : Highlighter.Reachable silentEngine Pair.both :=
    .operation (.registerLanguage "b" Pair.steady)
      (.operation (.registerLanguage "a" Retry.flaky) (.initial .new))
  have hne : Pair.failing.language ≠ Pair.showing.language := by decide
  have hapart : ∀ loader ∈ Pair.failing.loader? Pair.both,
      ∀ other ∈ Pair.showing.loader? Pair.both, loader.Apart other := by
    rintro loader ⟨⟩ other ⟨⟩
    exact Loader.apart_factory_iff.mpr (by decide)
  obtain ⟨hfailing, -, hsame⟩ := uses_commute hreachable hne hapart
  exact ⟨hreachable, hne, hapart, hfailing, hsame⟩

end LanguageUse

end CodeHighlight

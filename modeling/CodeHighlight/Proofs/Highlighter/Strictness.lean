import CodeHighlight.Proofs.Highlighter.Failures
import CodeHighlight.Proofs.Render.Text

/-! # Strict and lenient calls

A strict and a lenient call do the same work: they choose the same theme, load the same language and
leave the same highlighter behind. They differ only in what they answer where the content fails for
a reason that plain code may stand in for. Then the lenient call shows what a parse without captures
would show. -/
namespace CodeHighlight.Highlighter

variable {engine : Engine} {highlighter : Highlighter}

/-- The strict option has no bearing on what a call leaves behind. -/
theorem highlight_state (engine : Engine) (highlighter : Highlighter) (code language : String)
    (theme : Option String) (timeout : Option Nat) (strict : Bool) :
    (highlighter.highlight engine code language ⟨theme, strict, timeout⟩).2 =
      (highlighter.highlight engine code language ⟨theme, false, timeout⟩).2 := by
  rw [highlight, highlight]
  cases highlighter.themes.choose theme <;> rfl

theorem highlight_of_choose_error {code language : String} {options : HighlightOptions}
    {failure : Failure} (h : highlighter.themes.choose options.theme = .error failure) :
    (highlighter.highlight engine code language options).1 = .error failure := by
  rw [highlight, h]

theorem highlightInline_answer (engine : Engine) (highlighter : Highlighter)
    (code language : String) (theme : Theme) (timeout : Option Nat) :
    (highlighter.highlightInline engine code language theme timeout).1 =
      (highlighter.registry.load engine language).1 >>= fun state =>
        state.highlight engine code timeout >>= fun captures =>
          .ok (Render.inline code captures theme) := rfl

/-- A call whose parse gives no captures shows the code, escaped. -/
theorem highlight_of_bare {code language : String} {options : HighlightOptions} {theme : Theme}
    {state : LanguageState} (htheme : highlighter.themes.choose options.theme = .ok theme)
    (hload : (highlighter.registry.load engine language).1 = .ok state)
    (hbare : state.highlight engine code options.timeout = .ok []) :
    (highlighter.highlight engine code language options).1 =
      .ok (themedBlock theme (Markup.escape code)) := by
  have hinline : Render.inline code [] theme = Markup.escape code :=
    Render.inline_of_hidden (by simp [Render.regions]) theme
  have hcontent : (highlighter.highlightInline engine code language theme options.timeout).1 =
      .ok (Markup.escape code) := by
    rw [highlightInline_answer, hload, ← hinline]
    change (state.highlight engine code options.timeout >>= _) = _
    rw [hbare]
    rfl
  rw [highlight_answer htheme, hcontent]
  rfl

/-- Strict and lenient calls on one highlighter leave the same highlighter behind, and they answer
alike but for recoverable failures. The lenient call answers those with the block that any call with
this theme answers if its parse succeeds and gives no captures. -/
theorem highlight_strict_lenient (engine : Engine) (highlighter : Highlighter)
    (code language : String) (theme : Option String) (timeout : Option Nat) :
    let strict := highlighter.highlight engine code language ⟨theme, true, timeout⟩
    let lenient := highlighter.highlight engine code language ⟨theme, false, timeout⟩
    strict.2 = lenient.2 ∧
      (∀ block, strict.1 = .ok block → lenient.1 = .ok block) ∧
      (∀ failure, strict.1 = .error failure → failure.isRecoverable = true →
        ∃ chosen, highlighter.themes.choose theme = .ok chosen ∧
          lenient.1 = .ok (themedBlock chosen (Markup.escape code)) ∧
          ∀ (other : Engine) (parsing : Highlighter) (id : String) (options : HighlightOptions)
            (state : LanguageState), parsing.themes.choose options.theme = .ok chosen →
            (parsing.registry.load other id).1 = .ok state →
            state.highlight other code options.timeout = .ok [] →
            (parsing.highlight other code id options).1 = lenient.1) ∧
      ∀ failure, strict.1 = .error failure → failure.isRecoverable = false →
        lenient.1 = .error failure := by
  intro strict lenient
  refine ⟨highlight_state engine highlighter code language theme timeout true, ?_⟩
  cases hchoose : highlighter.themes.choose theme with
  | error missing =>
    have hstrict : strict.1 = .error missing := highlight_of_choose_error hchoose
    have hlenient : lenient.1 = .error missing := highlight_of_choose_error hchoose
    rw [hstrict, hlenient]
    refine ⟨fun block h => h, ?_, fun failure h _ => h⟩
    rintro failure ⟨⟩ hrecoverable
    rw [ThemeStore.choose_error hchoose] at hrecoverable
    cases hrecoverable
  | ok chosen =>
    have hstrict : strict.1 = (degrade true code
        (highlighter.highlightInline engine code language chosen timeout).1).map
          (themedBlock chosen) := highlight_answer hchoose
    have hlenient : lenient.1 = (degrade false code
        (highlighter.highlightInline engine code language chosen timeout).1).map
          (themedBlock chosen) := highlight_answer hchoose
    rw [hstrict, hlenient]
    cases (highlighter.highlightInline engine code language chosen timeout).1 with
    | ok content =>
      refine ⟨fun block h => h, ?_, ?_⟩
      · rintro failure ⟨⟩
      · rintro failure ⟨⟩
    | error reason =>
      refine ⟨?_, ?_, ?_⟩
      · rintro block ⟨⟩
      · rintro failure ⟨⟩ hrecoverable
        have hplain : (degrade false code (.error reason)).map (themedBlock chosen) =
            .ok (themedBlock chosen (Markup.escape code)) := by
          simp [degrade, hrecoverable, Except.map]
        refine ⟨chosen, rfl, hplain, ?_⟩
        intro other parsing id options state hsame hload hbare
        rw [highlight_of_bare hsame hload hbare, hplain]
      · rintro failure ⟨⟩ hfatal
        simp [degrade, hfatal, Except.map]

end CodeHighlight.Highlighter

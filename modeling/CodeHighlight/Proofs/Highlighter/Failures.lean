import CodeHighlight.Highlighter.Operation
import CodeHighlight.Proofs.Registry.Failures
import CodeHighlight.Proofs.Theme.Default

/-! # What highlighting fails with

Every highlighter that a program can meet has the default theme, so choosing a theme never fails.
Unless the caller asks to be told, failures to load a language or to parse code are shown as plain
code. What is left is a loader that itself answers with a missing default theme. -/
namespace CodeHighlight.Highlighter

variable {engine : Engine} {highlighter : Highlighter}

/-! ## The default theme is there -/

/-- What no step touches is as it was after all of them. -/
theorem view_foldl {α β : Type} (view : Highlighter → β) {act : Highlighter → α → Highlighter}
    (keeps : ∀ highlighter a, view (act highlighter a) = view highlighter)
    (highlighter : Highlighter) (entries : List α) :
    view (entries.foldl act highlighter) = view highlighter := by
  induction entries generalizing highlighter with
  | nil => rfl
  | cons entry entries ih =>
    rw [List.foldl_cons, ih]
    exact keeps highlighter entry

section

variable {β : Type} (view : Highlighter → β)
  (keeps : ∀ highlighter id loader,
    view (registerLanguage highlighter id loader) = view highlighter)

include keeps in
theorem view_registerBuiltinLanguages (highlighter : Highlighter) :
    view highlighter.registerBuiltinLanguages.2 = view highlighter := by
  rw [registerBuiltinLanguages, view_foldl view]
  intro highlighter definition
  exact keeps highlighter definition.id _

include keeps in
/-- What registering languages does not touch is as the themes and the backend leave it. -/
theorem view_build (files : FileSystem) (builder : Builder) :
    view (builder.build files) =
      view { withBackend (builder.backend.getD .idle) with
        themes := builder.buildThemes files } := by
  rw [Builder.build, view_foldl view]
  · split
    · exact view_registerBuiltinLanguages view keeps _
    · rfl
  · intro highlighter entry
    exact keeps highlighter entry.1 entry.2

end

theorem themes_registerBuiltinLanguages (highlighter : Highlighter) :
    highlighter.registerBuiltinLanguages.2.themes = highlighter.themes :=
  view_registerBuiltinLanguages themes (fun _ _ _ => rfl) highlighter

theorem themes_build (files : FileSystem) (builder : Builder) :
    (builder.build files).themes = builder.buildThemes files :=
  view_build themes (fun _ _ _ => rfl) files builder

theorem themes_highlight (engine : Engine) (highlighter : Highlighter) (code language : String)
    (options : HighlightOptions) :
    (highlighter.highlight engine code language options).2.themes = highlighter.themes := by
  rw [highlight]
  cases highlighter.themes.choose options.theme <;> rfl

theorem hasDefault_buildThemes (files : FileSystem) (builder : Builder) :
    (builder.buildThemes files).HasDefault := by
  have hdirectories : (builder.themeDirectories.foldl (Builder.addDirectory files)
      .withBuiltins).HasDefault :=
    ThemeStore.foldl_keeps (fun _ => ThemeStore.hasDefault_kept.loadDirectory files)
      ThemeStore.hasDefault_withBuiltins _
  have hthemes : (builder.themes.foldl Builder.addTheme (builder.themeDirectories.foldl
      (Builder.addDirectory files) .withBuiltins)).HasDefault := by
    refine ThemeStore.foldl_keeps (fun store entry h => ?_) hdirectories _
    rw [Builder.addTheme]
    split
    · exact ThemeStore.hasDefault_kept.registerAs _ _ h
    · exact ThemeStore.hasDefault_kept.register _ h
  rw [Builder.buildThemes]
  cases builder.defaultTheme with
  | some id => exact ThemeStore.hasDefault_kept.setDefault id hthemes
  | none => exact hthemes

theorem Initial.hasDefault (h : Initial highlighter) : highlighter.themes.HasDefault := by
  cases h with
  | new => exact ThemeStore.hasDefault_withBuiltins
  | withBackend backend => exact ThemeStore.hasDefault_withBuiltins
  | built files calls =>
    rw [themes_build]
    exact hasDefault_buildThemes files _
  | configured files environment config =>
    rw [ofConfig, themes_registerBuiltinLanguages]
    exact ThemeStore.hasDefault_kept.setDefault config.theme
      (ThemeStore.foldl_keeps (fun _ => ThemeStore.hasDefault_kept.loadDirectory files)
        ThemeStore.hasDefault_withBuiltins _)

/-- Of the operations only the registrations of themes touch the store. -/
theorem hasDefault_perform (engine : Engine) (operation : Operation)
    (h : highlighter.themes.HasDefault) :
    (operation.perform engine highlighter).2.themes.HasDefault := by
  cases operation with
  | registerTheme theme => exact ThemeStore.hasDefault_kept.register theme h
  | registerThemeAs name theme => exact ThemeStore.hasDefault_kept.registerAs name theme h
  | setDefaultTheme id => exact ThemeStore.hasDefault_kept.setDefault id h
  | registerLanguage id loader => exact h
  | registerBuiltinLanguages =>
    change highlighter.registerBuiltinLanguages.2.themes.HasDefault
    rw [themes_registerBuiltinLanguages]
    exact h
  | load id => exact h
  | preload => exact h
  | highlight code language options =>
    change (highlighter.highlight engine code language options).2.themes.HasDefault
    rw [themes_highlight]
    exact h
  | highlightInline code language theme timeout => exact h

theorem Reachable.hasDefault (h : Reachable engine highlighter) :
    highlighter.themes.HasDefault := by
  induction h with
  | initial h => exact h.hasDefault
  | operation operation _ ih => exact hasDefault_perform engine operation ih
  | shared calls _ ih => exact ih

/-! ## Failures on the way to the block -/

/-- Parsing fails in a recoverable way only, so fatal failures come from loading. -/
theorem highlightInline_error_iff {code language : String} {theme : Theme} {timeout : Option Nat}
    {failure : Failure} (hfatal : failure.isRecoverable = false) :
    (highlighter.highlightInline engine code language theme timeout).1 = .error failure ↔
      highlighter.registry.Refuses language failure := by
  rw [← Registry.load_error_iff hfatal]
  constructor
  · intro h
    rcases Failure.of_bind h with h | ⟨state, -, h⟩
    · exact h
    · rcases Failure.of_bind h with h | ⟨captures, -, h⟩
      · rw [LanguageState.highlight_recoverable h] at hfatal
        cases hfatal
      · cases h
  · intro h
    exact congrArg (· >>= _) h

theorem degrade_error_iff {code : String} {content : Except Failure String} {failure : Failure} :
    degrade false code content = .error failure ↔
      content = .error failure ∧ failure.isRecoverable = false := by
  cases content with
  | ok markup => simp [degrade]
  | error reason =>
    rw [degrade]
    cases hreason : reason.isRecoverable with
    | true =>
      constructor
      · intro h
        cases h
      · rintro ⟨⟨⟩, hfatal⟩
        rw [hreason] at hfatal
        cases hfatal
    | false =>
      constructor
      · rintro ⟨⟩
        exact ⟨rfl, hreason⟩
      · rintro ⟨⟨⟩, -⟩
        rfl

theorem highlight_answer {code language : String} {options : HighlightOptions} {theme : Theme}
    (htheme : highlighter.themes.choose options.theme = .ok theme) :
    (highlighter.highlight engine code language options).1 =
      (degrade options.strict code
        (highlighter.highlightInline engine code language theme options.timeout).1).map
          (themedBlock theme) := by
  rw [highlight, htheme]

/-- With a theme at hand, the failures of lenient highlighting are the fatal ones of its content. -/
theorem highlight_error_iff (hdefault : highlighter.themes.HasDefault) {code language : String}
    {options : HighlightOptions} (hlenient : options.strict = false) {failure : Failure} :
    (highlighter.highlight engine code language options).1 = .error failure ↔
      failure.isRecoverable = false ∧ highlighter.registry.Refuses language failure := by
  obtain ⟨theme, htheme⟩ := hdefault.choose options.theme
  rw [highlight_answer htheme, hlenient, Failure.map_error_iff, degrade_error_iff]
  constructor
  · rintro ⟨h, hfatal⟩
    exact ⟨hfatal, (highlightInline_error_iff hfatal).mp h⟩
  · rintro ⟨hfatal, h⟩
    exact ⟨(highlightInline_error_iff hfatal).mpr h, hfatal⟩

/-- The only failures of lenient highlighting are those of a loader that says a default theme is
missing. -/
theorem highlight_lenient_error_iff (h : Reachable engine highlighter) {code language : String}
    {options : HighlightOptions} (hlenient : options.strict = false) {failure : Failure} :
    (highlighter.highlight engine code language options).1 = .error failure ↔
      ∃ themeId, failure = .configuration themeId ∧
        highlighter.registry.Refuses language (.configuration themeId) := by
  rw [highlight_error_iff h.hasDefault hlenient, Failure.isRecoverable_eq_false]
  constructor
  · rintro ⟨⟨themeId, rfl⟩, hrefuses⟩
    exact ⟨themeId, rfl, hrefuses⟩
  · rintro ⟨themeId, rfl, hrefuses⟩
    exact ⟨⟨themeId, rfl⟩, hrefuses⟩

theorem timely_of_refuses {language : String} {options : HighlightOptions} {failure : Failure}
    (hfatal : failure.isRecoverable = false)
    (hrefuses : highlighter.registry.Refuses language failure) :
    highlighter.Timely engine language options := by
  intro theme state _ hstate
  rw [(Registry.load_error_iff hfatal).mpr hrefuses] at hstate
  cases hstate

/-- A lenient call returns an error just if its language must be loaded first and the loader answers
that a default theme is missing, and it is that error. Any other one returns a block, if it can set
a deadline for its timeout where it comes to parsing. -/
theorem highlight_lenient_iff (h : Reachable engine highlighter) (code language : String)
    {options : HighlightOptions} (hlenient : options.strict = false) :
    (highlighter.Timely engine language options →
      ((∃ block, highlighter.Returns engine code language options (.ok block)) ↔
        ∀ themeId, ¬ highlighter.registry.Refuses language (.configuration themeId))) ∧
    ∀ failure, highlighter.Returns engine code language options (.error failure) ↔
      ∃ themeId, failure = .configuration themeId ∧
        highlighter.registry.Refuses language (.configuration themeId) := by
  constructor
  · intro htimely
    simp only [Returns, htimely, true_and, Failure.exists_ok_iff]
    constructor
    · intro hnone themeId hrefuses
      exact hnone _ ((highlight_lenient_error_iff h hlenient).mpr ⟨themeId, rfl, hrefuses⟩)
    · intro hnever failure hfail
      obtain ⟨themeId, -, hrefuses⟩ := (highlight_lenient_error_iff h hlenient).mp hfail
      exact hnever themeId hrefuses
  · intro failure
    constructor
    · rintro ⟨-, hfail⟩
      exact (highlight_lenient_error_iff h hlenient).mp hfail
    · rintro ⟨themeId, rfl, hrefuses⟩
      exact ⟨timely_of_refuses rfl hrefuses,
        (highlight_lenient_error_iff h hlenient).mpr ⟨themeId, rfl, hrefuses⟩⟩

namespace Counterexample

def silentEngine : Engine where
  refusal := fun _ => none
  compileQuery := fun _ _ => .ok []
  captures := fun _ _ _ _ => none
  download := fun _ => none

/-- A factory that answers as if a default theme were missing. -/
def misleading : Loader :=
  .factory .immediate "f" fun _ => .error (.configuration "t")

def misled : Highlighter := Highlighter.new.registerLanguage "a" misleading

def lenient : HighlightOptions := ⟨none, false, none⟩

/-- The longest timeout that a command line can ask for. -/
def timed : HighlightOptions := ⟨none, false, some 18446744073709551615⟩

/-- Next to the misleading loader there is a language that can be loaded. -/
def mixed : Highlighter := misled.registerLanguage "b" (.value (Definition.builtin .go))

theorem misled_reachable : Reachable silentEngine misled :=
  .operation (.registerLanguage "a" misleading) (.initial .new)

theorem misled_refuses : misled.registry.Refuses "a" (.configuration "t") :=
  ⟨rfl, misleading, rfl, rfl⟩

theorem misled_fails :
    (misled.highlight silentEngine "x" "a" lenient).1 = .error (.configuration "t") :=
  (highlight_error_iff misled_reachable.hasDefault rfl).mpr ⟨rfl, misled_refuses⟩

theorem mixed_reachable : Reachable silentEngine mixed :=
  .operation (.registerLanguage "b" (.value (Definition.builtin .go))) misled_reachable

theorem mixed_timely (language : String) : mixed.Timely silentEngine language timed := by
  intro _ _ _ _ length hlength
  obtain rfl := Option.some.inj hlength
  decide

end Counterexample

/-- Both calls have a timeout. The first language has the misleading loader, and the second one is
loaded and parsed. -/
theorem highlight_lenient_of_mixed :
    Reachable Counterexample.silentEngine Counterexample.mixed ∧
      Counterexample.timed.strict = false ∧
      Counterexample.mixed.Timely Counterexample.silentEngine "b" Counterexample.timed ∧
      (∃ state, (Counterexample.mixed.registry.load Counterexample.silentEngine "b").1 =
        .ok state) ∧
      Counterexample.mixed.Returns Counterexample.silentEngine "x" "a" Counterexample.timed
        (.error (.configuration "t")) ∧
      ∃ block, Counterexample.mixed.Returns Counterexample.silentEngine "x" "b"
        Counterexample.timed (.ok block) := by
  have hreachable := Counterexample.mixed_reachable
  have htimely := Counterexample.mixed_timely "b"
  refine ⟨hreachable, rfl, htimely, ⟨_, rfl⟩, ?_, ?_⟩
  · exact ((highlight_lenient_iff hreachable "x" "a" rfl).2 _).mpr
      ⟨"t", rfl, rfl, Counterexample.misleading, rfl, rfl⟩
  · refine ((highlight_lenient_iff hreachable "x" "b" rfl).1 htimely).mpr ?_
    rintro themeId ⟨-, loader, hloader, hanswer⟩
    cases hloader
    cases hanswer

/-- A loader may hand a lenient call a fatal failure though the default theme is there. -/
theorem lenient_not_always_answers :
    ¬ ∀ (engine : Engine) (highlighter : Highlighter), Reachable engine highlighter →
      ∀ (code language : String) (options : HighlightOptions), options.strict = false →
        ∃ block, highlighter.Returns engine code language options (.ok block) := by
  intro hanswers
  obtain ⟨block, -, hblock⟩ := hanswers Counterexample.silentEngine Counterexample.misled
    Counterexample.misled_reachable "x" "a" Counterexample.lenient rfl
  rw [Counterexample.misled_fails] at hblock
  cases hblock

end CodeHighlight.Highlighter

import CodeHighlight.Language.Builtin
import CodeHighlight.Markup.Block
import CodeHighlight.Registry.Basic
import CodeHighlight.Render.Sweep
import CodeHighlight.Theme.Store

/-! # Highlighters

A highlighter turns code into a themed block. The theme is chosen first; then the language is
loaded, the code parsed and its captures rendered. Where that fails the block shows the code without
spans, unless the caller asks to be told.
-/
namespace CodeHighlight

/-- Options of one call. The timeout is in milliseconds. -/
structure HighlightOptions where
  theme : Option String
  strict : Bool
  timeout : Option Nat
deriving DecidableEq, Repr

@[ext]
structure Highlighter where
  themes : ThemeStore
  registry : Registry

namespace Highlighter

/-- The themes that come with the library and no languages, over a shared backend. -/
def withBackend (backend : Backend) : Highlighter :=
  ⟨.withBuiltins, { Registry.empty with backend }⟩

def new : Highlighter := withBackend .idle

def registerTheme (highlighter : Highlighter) (theme : Theme) : String × Highlighter :=
  let (id, themes) := highlighter.themes.register theme
  (id, { highlighter with themes })

def registerThemeAs (highlighter : Highlighter) (name : String) (theme : Theme) :
    String × Highlighter :=
  let (id, themes) := highlighter.themes.registerAs name theme
  (id, { highlighter with themes })

def setDefaultTheme (highlighter : Highlighter) (id : String) : Highlighter :=
  { highlighter with themes := highlighter.themes.setDefault id }

def registerLanguage (highlighter : Highlighter) (id : String) (loader : Loader) : Highlighter :=
  { highlighter with registry := highlighter.registry.register id loader }

/-- Register every language that comes with the library under its own id. -/
def registerBuiltinLanguages (highlighter : Highlighter) : List String × Highlighter :=
  (Definition.builtins.map (·.id),
    Definition.builtins.foldl
      (fun highlighter definition => highlighter.registerLanguage definition.id (.value definition))
      highlighter)

def loadLanguage (engine : Engine) (highlighter : Highlighter) (id : String) :
    Except Failure Unit × Highlighter :=
  let (answer, registry) := highlighter.registry.load engine id
  (answer.map fun _ => (), { highlighter with registry })

def preload (engine : Engine) (highlighter : Highlighter) : Except Failure Unit × Highlighter :=
  let (answer, registry) := highlighter.registry.preload engine
  (answer, { highlighter with registry })

/-- Code as spans in the colors of a theme, without the block around it. -/
def highlightInline (engine : Engine) (highlighter : Highlighter) (code language : String)
    (theme : Theme) (timeout : Option Nat) : Except Failure String × Highlighter :=
  let (loaded, registry) := highlighter.registry.load engine language
  let content := do
    let state ← loaded
    let captures ← state.highlight engine code timeout
    return Render.inline code captures theme
  (content, { highlighter with registry })

def themedBlock (theme : Theme) (content : String) : String :=
  Markup.codeBlock content theme.cssClass theme.blockBackground theme.blockForeground

/-- What to show in place of code that could not be highlighted, if anything may be shown. -/
def degrade (strict : Bool) (code : String) : Except Failure String → Except Failure String
  | .ok content => .ok content
  | .error failure =>
    if strict || !failure.isRecoverable then .error failure else .ok (Markup.escape code)

/-- Code as a themed block. Without a theme nothing is loaded. -/
def highlight (engine : Engine) (highlighter : Highlighter) (code language : String)
    (options : HighlightOptions) : Except Failure String × Highlighter :=
  match highlighter.themes.choose options.theme with
  | .error failure => (.error failure, highlighter)
  | .ok theme =>
    let (content, highlighter) :=
      highlighter.highlightInline engine code language theme options.timeout
    ((degrade options.strict code content).map (themedBlock theme), highlighter)

/-- A call that comes to parsing, with its theme chosen and its language loaded, can set a deadline
for its timeout. -/
def Timely (engine : Engine) (highlighter : Highlighter) (language : String)
    (options : HighlightOptions) : Prop :=
  ∀ theme state, highlighter.themes.choose options.theme = .ok theme →
    (highlighter.registry.load engine language).1 = .ok state → engine.CanTime options.timeout

/-- The call comes to this answer. A deadline that cannot be set breaks it off. -/
def Returns (engine : Engine) (highlighter : Highlighter) (code language : String)
    (options : HighlightOptions) (answer : Except Failure String) : Prop :=
  highlighter.Timely engine language options ∧
    (highlighter.highlight engine code language options).1 = answer

def describe (highlighter : Highlighter) : String :=
  "Treelight \x7b themes: " ++ Text.bracketed (highlighter.themes.ids.map Text.quoted)
    ++ ", languages: " ++ highlighter.registry.describe ++ " \x7d"

end Highlighter

end CodeHighlight

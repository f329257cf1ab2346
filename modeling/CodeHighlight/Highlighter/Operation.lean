import CodeHighlight.Highlighter.Builder

/-! # Runs of a highlighter

Whatever is done with a highlighter is a list of operations. The highlighters that a program can
meet are those that operations lead to from a new or a built one.
-/
namespace CodeHighlight

inductive Operation where
  | registerTheme (theme : Theme)
  | registerThemeAs (name : String) (theme : Theme)
  | setDefaultTheme (id : String)
  | registerLanguage (id : String) (loader : Loader)
  | registerBuiltinLanguages
  | load (id : String)
  | preload
  | highlight (code language : String) (options : HighlightOptions)
  | highlightInline (code language : String) (theme : Theme) (timeout : Option Nat)

inductive Answer where
  | done
  | ids (ids : List String)
  | loaded (result : Except Failure Unit)
  | markup (result : Except Failure String)

namespace Operation

def perform (engine : Engine) (highlighter : Highlighter) : Operation → Answer × Highlighter
  | registerTheme theme =>
    let (id, highlighter) := highlighter.registerTheme theme
    (.ids [id], highlighter)
  | registerThemeAs name theme =>
    let (id, highlighter) := highlighter.registerThemeAs name theme
    (.ids [id], highlighter)
  | setDefaultTheme id => (.done, highlighter.setDefaultTheme id)
  | registerLanguage id loader => (.done, highlighter.registerLanguage id loader)
  | registerBuiltinLanguages =>
    let (ids, highlighter) := highlighter.registerBuiltinLanguages
    (.ids ids, highlighter)
  | load id =>
    let (result, highlighter) := highlighter.loadLanguage engine id
    (.loaded result, highlighter)
  | preload =>
    let (result, highlighter) := highlighter.preload engine
    (.loaded result, highlighter)
  | highlight code language options =>
    let (result, highlighter) := highlighter.highlight engine code language options
    (.markup result, highlighter)
  | highlightInline code language theme timeout =>
    let (result, highlighter) := highlighter.highlightInline engine code language theme timeout
    (.markup result, highlighter)

def run (engine : Engine) (highlighter : Highlighter) (operations : List Operation) : Highlighter :=
  operations.foldl (fun highlighter operation => (operation.perform engine highlighter).2)
    highlighter

/-- The language that an operation loads unless it is loaded. A theme must be found first. -/
def loads? (highlighter : Highlighter) : Operation → Option String
  | load id => some id
  | highlight _ language options =>
    if (highlighter.themes.choose options.theme).isOk then some language else none
  | highlightInline _ language _ _ => some language
  | _ => none

end Operation

/-- Highlighters as they are made. Their backend may have been started by others that share it. -/
inductive Highlighter.Initial : Highlighter → Prop where
  | new : Initial .new
  | withBackend (backend : Backend) : Initial (.withBackend backend)
  | built (files : FileSystem) (calls : List BuilderCall) :
    Initial ((Builder.ofCalls calls).build files)
  | configured (files : FileSystem) (environment : Environment) (config : Config) :
    Initial (.ofConfig files environment config)

/-- Highlighters as operations leave them. Between two operations other highlighters may start the
backend and call factories. -/
inductive Highlighter.Reachable (engine : Engine) : Highlighter → Prop where
  | initial {highlighter : Highlighter} : Initial highlighter → Reachable engine highlighter
  | operation {highlighter : Highlighter} (operation : Operation) :
    Reachable engine highlighter → Reachable engine (operation.perform engine highlighter).2
  | shared {highlighter : Highlighter} (calls : Calls) :
    Reachable engine highlighter →
    Reachable engine
      { highlighter with registry := { highlighter.registry.ensureReady with calls } }

end CodeHighlight

import CodeHighlight.Highlighter.Builder
import CodeHighlight.Theme.Log

/-! # The order of builder calls

Calls of one kind count in the order in which they are made. Between the kinds it is the builder
that says what takes precedence.
-/
namespace CodeHighlight

namespace BuilderCall

/-- The kinds of calls of which a later one may take the place of an earlier one. -/
inductive Kind where
  | backend
  | themeDirectory
  | theme
  | defaultTheme
  | language
deriving DecidableEq

/-- The request for the languages of the library is of no kind, since it comes to the same whenever
it is made and however often. -/
def kind? : BuilderCall → Option Kind
  | .backend _ => some .backend
  | .themeDirectory _ => some .themeDirectory
  | .theme _ => some .theme
  | .themeAs _ _ => some .theme
  | .defaultTheme _ => some .defaultTheme
  | .builtinLanguages => none
  | .language _ _ => some .language

/-- The same calls, with those of each kind in the same order. -/
structure Reordered (calls others : List BuilderCall) : Prop where
  perm : calls.Perm others
  order : ∀ kind,
    calls.filter (·.kind? = some kind) = others.filter (·.kind? = some kind)

def directory? : BuilderCall → Option String
  | .themeDirectory directory => some directory
  | _ => none

/-- What the call asks of the theme store once the directories are loaded. -/
def storeCall? : BuilderCall → Option StoreCall
  | .theme given => some (.register given)
  | .themeAs name given => some (.registerAs name given)
  | .defaultTheme id => some (.setDefault id)
  | _ => none

/-- The loader of the last call that gives one for the language. -/
def LatestLoader (calls : List BuilderCall) (id : String) (loader : Loader) : Prop :=
  ∃ earlier later, calls = earlier ++ .language id loader :: later ∧
    ∀ other, .language id other ∉ later

/-- The calls that a configuration stands for: the user's themes, those of the configured
directory, the configured default and the languages of the library. -/
def configured (environment : Environment) (config : Config) : List BuilderCall :=
  (environment.themesDirectory?.toList ++ config.themesDirectory.toList).map .themeDirectory ++
    [.defaultTheme config.theme, .builtinLanguages]

end BuilderCall

end CodeHighlight

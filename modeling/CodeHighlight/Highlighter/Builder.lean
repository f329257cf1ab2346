import CodeHighlight.Config.Basic
import CodeHighlight.Highlighter.Basic

/-! # Building highlighters

A builder gathers what a highlighter is to hold, by calls in any order. Building takes theme
directories first, then themes given one by one, then the default theme; and the languages of the
library before those given one by one. What comes later takes precedence.
-/
namespace CodeHighlight

structure Builder where
  backend : Option Backend
  themeDirectories : List String
  /-- Themes, with the names that they are to go by if not by their own. -/
  themes : List (Option String × Theme)
  defaultTheme : Option String
  builtinLanguages : Bool
  languages : List (String × Loader)

inductive BuilderCall where
  | backend (backend : Backend)
  | themeDirectory (directory : String)
  | theme (theme : Theme)
  | themeAs (name : String) (theme : Theme)
  | defaultTheme (id : String)
  | builtinLanguages
  | language (id : String) (loader : Loader)

namespace Builder

def empty : Builder := ⟨none, [], [], none, false, []⟩

def call (builder : Builder) : BuilderCall → Builder
  | .backend backend => { builder with backend := some backend }
  | .themeDirectory directory =>
    { builder with themeDirectories := builder.themeDirectories ++ [directory] }
  | .theme theme => { builder with themes := builder.themes ++ [(none, theme)] }
  | .themeAs name theme => { builder with themes := builder.themes ++ [(some name, theme)] }
  | .defaultTheme id => { builder with defaultTheme := some id }
  | .builtinLanguages => { builder with builtinLanguages := true }
  | .language id loader => { builder with languages := builder.languages ++ [(id, loader)] }

def ofCalls (calls : List BuilderCall) : Builder := calls.foldl call empty

def addDirectory (files : FileSystem) (store : ThemeStore) (directory : String) : ThemeStore :=
  (store.loadDirectory files directory).2

def addTheme (store : ThemeStore) (entry : Option String × Theme) : ThemeStore :=
  match entry.1 with
  | some name => (store.registerAs name entry.2).2
  | none => (store.register entry.2).2

/-- The themes that the library comes with and those that were gathered. -/
def buildThemes (files : FileSystem) (builder : Builder) : ThemeStore :=
  let store := builder.themeDirectories.foldl (addDirectory files) .withBuiltins
  let store := builder.themes.foldl addTheme store
  match builder.defaultTheme with
  | some id => store.setDefault id
  | none => store

def build (files : FileSystem) (builder : Builder) : Highlighter :=
  let highlighter := Highlighter.withBackend (builder.backend.getD .idle)
  let highlighter := { highlighter with themes := builder.buildThemes files }
  let highlighter :=
    if builder.builtinLanguages then highlighter.registerBuiltinLanguages.2 else highlighter
  builder.languages.foldl (fun highlighter (id, loader) => highlighter.registerLanguage id loader)
    highlighter

end Builder

/-- A highlighter after the user's configuration: the user's themes, then those of the configured
directory, then the configured default, and the languages of the library. -/
def Highlighter.ofConfig (files : FileSystem) (environment : Environment) (config : Config) :
    Highlighter :=
  let highlighter := Highlighter.new
  let directories := environment.themesDirectory?.toList ++ config.themesDirectory.toList
  let themes := directories.foldl (fun store directory => (store.loadDirectory files directory).2)
    highlighter.themes
  ({ highlighter with themes := themes.setDefault config.theme }.registerBuiltinLanguages).2

end CodeHighlight

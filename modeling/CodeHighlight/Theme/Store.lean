import CodeHighlight.Text.Lowercase
import CodeHighlight.Theme.Builtin
import CodeHighlight.Theme.Document

/-! # Theme stores

A store files themes under normalized ids. A theme is chosen by the requested name, then by the
configured default, then by the built-in default.
-/
namespace CodeHighlight

/-- Spellings that differ in case, or in underscores for hyphens, name one theme. -/
def normalizeThemeId (id : String) : String :=
  String.ofList ((Text.lowercase id).toList.map fun c => if c = '_' then '-' else c)

structure ThemeStore where
  themes : Catalog Theme
  /-- The configured default, in normalized form. -/
  defaultId : String
deriving DecidableEq

namespace ThemeStore

def empty : ThemeStore := ⟨.empty, defaultThemeId⟩

/-- File a theme under a name, in place of any theme under that name. The theme takes the
normalized name as its id. -/
def registerAs (store : ThemeStore) (name : String) (theme : Theme) : String × ThemeStore :=
  let id := normalizeThemeId name
  (id, { store with themes := store.themes.insert id { theme with id } })

/-- The name that a theme is filed under when none is given. -/
def ownName (theme : Theme) : String :=
  if theme.id.isEmpty then defaultThemeId else theme.id

def register (store : ThemeStore) (theme : Theme) : String × ThemeStore :=
  store.registerAs (ownName theme) theme

def setDefault (store : ThemeStore) (id : String) : ThemeStore :=
  { store with defaultId := normalizeThemeId id }

def get? (store : ThemeStore) (id : String) : Option Theme :=
  store.themes.get? (normalizeThemeId id)

/-- Choose a theme; only an empty chain of names fails. -/
def choose (store : ThemeStore) (name : Option String) : Except Failure Theme :=
  match ((name.bind store.get?).or (store.get? store.defaultId)).or (store.get? defaultThemeId) with
  | some theme => .ok theme
  | none => .error (.configuration defaultThemeId)

def ids (store : ThemeStore) : List String := store.themes.names

def withBuiltins : ThemeStore :=
  Theme.builtins.foldl (fun store theme => (store.registerAs theme.id theme).2) empty

def isThemeFile (name : String) : Bool :=
  match PathText.extension? name with
  | some extension => extension == "yaml" || extension == "yml" || extension == "json"
  | none => false

/-- Register the themes of some files in turn; a file that holds no theme is passed over. -/
def registerFiles (files : FileSystem) : List String → ThemeStore → List String × ThemeStore
  | [], store => ([], store)
  | path :: paths, store =>
    match Theme.ofFile files path with
    | .ok theme =>
      let (id, store) := store.register theme
      let (ids, store) := registerFiles files paths store
      (id :: ids, store)
    | .error _ => registerFiles files paths store

/-- The theme files of a directory in the order of their names. -/
def themeFiles (files : FileSystem) (directory : String) : List String :=
  (((files.list directory).getD []).filter isThemeFile).mergeSort.map (PathText.join directory)

/-- Register every theme in a directory; the ids are those of the themes, in order. -/
def loadDirectory (files : FileSystem) (store : ThemeStore) (directory : String) :
    List String × ThemeStore :=
  registerFiles files (themeFiles files directory) store

end ThemeStore

def Theme.builtin (id : String) : Except Failure Theme :=
  match Theme.builtins.find? (·.id == id) with
  | some theme => .ok theme
  | none => .error (.invalidTheme ("unknown built-in theme: " ++ id))

end CodeHighlight

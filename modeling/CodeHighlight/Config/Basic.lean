import CodeHighlight.Config.Places
import CodeHighlight.FileSystem
import CodeHighlight.Yaml.Reading

/-! # Configuration

The user's choice of a default theme, of strictness and of a directory with more themes.
-/
namespace CodeHighlight

open CodeHighlight.Document

structure Config where
  theme : String
  strict : Bool
  themesDirectory : Option String
deriving DecidableEq, Repr

inductive ConfigFailure where
  | unreadable (path : String) (failure : ReadFailure)
  | malformed (path : String)
deriving DecidableEq, Repr

def ConfigFailure.message : ConfigFailure → String
  | unreadable path failure => "Failed to read config at " ++ path ++ ": " ++ failure.message
  | malformed path => "Failed to parse config at " ++ path

namespace Config

def default : Config := ⟨defaultThemeId, false, none⟩

/-- Every field may be left out. -/
def decode {ν : Type} (reading : Reading ν) (root : ν) : Decode Config := do
  let fields ← reading.record ["theme", "strict", "themes_dir"] root
  return {
    theme := ← fieldOr fields "theme" reading.text default.theme
    strict := ← fieldOr fields "strict" reading.flag default.strict
    themesDirectory :=
      ← fieldOr fields "themes_dir" reading.optionalText default.themesDirectory }

/-- The configuration in a file, which is always YAML. -/
def loadFrom (files : FileSystem) (path : String) : Except ConfigFailure Config :=
  match files.read path with
  | .error failure => .error (.unreadable path failure)
  | .ok document =>
    match Yaml.decode? decode document with
    | some config => .ok config
    | none => .error (.malformed path)

/-- The user's configuration; where there is none, or none that can be read, the default. -/
def load (files : FileSystem) (environment : Environment) : Config :=
  match environment.configFile? with
  | some path => (loadFrom files path).toOption.getD default
  | none => default

end Config

end CodeHighlight

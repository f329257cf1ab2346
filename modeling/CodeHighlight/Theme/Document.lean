import CodeHighlight.Failure
import CodeHighlight.FileSystem
import CodeHighlight.Json.Reading
import CodeHighlight.PathText
import CodeHighlight.Yaml.Reading

/-! # Theme documents

A theme is written as a record of an id, a name and styles; only the styles have to be there.
-/
namespace CodeHighlight.Theme

open CodeHighlight.Document

def decode {ν : Type} (reading : Reading ν) (root : ν) : Decode Theme := do
  let fields ← reading.record ["id", "name", "styles"] root
  let id ← fieldOr fields "id" reading.text ""
  let name ← fieldOr fields "name" reading.optionalText none
  let styles ← field fields "styles" reading.dictionary
  let styles ← styles.mapM fun (key, node) => return (key, ← reading.style node)
  return ⟨id, name, Catalog.ofList styles⟩

def ofYaml (document : String) : Except Failure Theme :=
  match Yaml.decode? decode document with
  | some theme => .ok theme
  | none => .error (.invalidTheme "YAML parse error")

def ofJson (document : String) : Except Failure Theme :=
  match Json.decode? decode document with
  | some theme => .ok theme
  | none => .error (.invalidTheme "JSON parse error")

def ofDocument (path document : String) : Except Failure Theme :=
  if PathText.extension? path = some "json" then ofJson document else ofYaml document

/-- The theme in a file. A theme without an id is named after the file. -/
def ofFile (files : FileSystem) (path : String) : Except Failure Theme := do
  let document ← (files.read path).mapError fun failure => .io failure.message
  let theme ← (ofDocument path document).mapError fun failure =>
    .invalidTheme (path ++ ": " ++ failure.message)
  if theme.id.isEmpty then return { theme with id := (PathText.stem? path).getD "" }
  else return theme

end CodeHighlight.Theme

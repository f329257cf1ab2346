import CodeHighlight.FileSystem
import CodeHighlight.Json.Reading
import CodeHighlight.Language.Definition
import CodeHighlight.PathText
import CodeHighlight.Yaml.Reading

/-! # Language manifests

A definition as a document: an id, a grammar in Base64 or by its address, and queries.
-/
namespace CodeHighlight

open CodeHighlight.Document

def Queries.decode {ν : Type} (reading : Reading ν) (root : ν) : Decode Queries := do
  let fields ← reading.record ["highlights", "injections", "locals"] root
  let query := fun (name : String) => do
    return (← fieldOr fields name reading.optionalText none).map Query.text
  return ⟨← query "highlights", ← query "injections", ← query "locals"⟩

namespace Definition

/-- Bytes take precedence over an address. -/
def decode {ν : Type} (reading : Reading ν) (root : ν) : Decode Definition := do
  let fields ← reading.record ["id", "wasm", "wasm_url", "queries"] root
  let id ← field fields "id" reading.text
  let bytes ← fieldOr fields "wasm" reading.optionalText none
  let address ← fieldOr fields "wasm_url" reading.optionalText none
  let queries ← fieldOr fields "queries" (Queries.decode reading) .absent
  return ⟨id, (bytes.map .embedded).or (address.map .url), queries⟩

/-- The id in failures of a manifest that cannot be read. -/
def manifestId : String := "<manifest>"

def ofYaml (document : String) : Except Failure Definition :=
  match Yaml.decode? decode document with
  | some definition => .ok definition
  | none => .error (.invalidLanguage manifestId "YAML parse error")

def ofJson (document : String) : Except Failure Definition :=
  match Json.decode? decode document with
  | some definition => .ok definition
  | none => .error (.invalidLanguage manifestId "JSON parse error")

def ofFile (files : FileSystem) (path : String) : Except Failure Definition := do
  let document ← (files.read path).mapError fun failure => .io failure.message
  if PathText.extension? path = some "json" then ofJson document else ofYaml document

end Definition

end CodeHighlight

import CodeHighlight.Document.Reading
import CodeHighlight.Document.Typed
import CodeHighlight.Json.Reader

/-! # Records and styles in JSON

A record is an object, or an array of its fields in order. A dictionary is an object.
-/
namespace CodeHighlight.Json

open CodeHighlight.Document

def decodeText : Value → Decode String
  | .string (some text) => return text
  | _ => failure

def decodeOptionalText : Value → Decode (Option String)
  | .null => return none
  | value => some <$> decodeText value

def decodeFlag : Value → Decode Bool
  | .bool value => return value
  | _ => failure

def knownMembers (names : List String) :
    List (String × Value) → List (Text × Value) → Decode (List (String × Value))
  | known, [] => return known
  | known, (name, value) :: rest =>
    match name with
    | some name =>
      if names.contains name then
        if (known.lookup name).isSome then failure
        else knownMembers names (known ++ [(name, value)]) rest
      else knownMembers names known rest
    | none => failure

def decodeRecord (names : List String) : Value → Decode (List (String × Value))
  | .object members => knownMembers names [] members
  | .array elements =>
    if names.length < elements.length then failure else return names.zip elements
  | _ => failure

def decodeDictionary : Value → Decode (List (String × Value))
  | .object members => members.mapM fun (name, value) =>
    match name with
    | some name => return (name, value)
    | none => failure
  | _ => failure

/-- The typed form of a value that nests no deeper than `depth`. -/
def typed? : Nat → Value → Option Typed
  | _, .null => some .null
  | _, .bool _ => some .other
  | _, .number inRange => if inRange then some .other else none
  | _, .string text => text.map .text
  | 0, _ => none
  | depth + 1, .array elements => do
    let _ ← elements.mapM fun element => typed? depth element
    return .other
  | depth + 1, .object members => do
    let entries ← members.mapM fun (name, value) => do
      return (Typed.text (← name), ← typed? depth value)
    return .mapping entries

/-- How deep a style may nest: two of the 127 levels of a document are used up around it. -/
def styleDepth : Nat := 125

def decodeStyle (value : Value) : Decode Style :=
  StateT.lift ((typed? styleDepth value).bind (·.style?))

def reading : Reading Value where
  text := decodeText
  optionalText := decodeOptionalText
  flag := decodeFlag
  record := decodeRecord
  dictionary := decodeDictionary
  style := decodeStyle

/-- Read a whole document. Nothing in it refers to anything else. -/
def decode? {α : Type} (read : Reading Value → Value → Decode α) (document : String) : Option α :=
  (read? document).bind fun value => ((read reading value).run 0).map (·.1)

end CodeHighlight.Json

import CodeHighlight.Theme.Basic

/-! # Reading documents

A document is read for records with known fields, dictionaries, texts and styles. Which nodes stand
for them is a matter of the notation; what the documents of this library hold is not.
-/
namespace CodeHighlight.Document

/-- A value, or failure. The number counts how many more references may be followed, which keeps
a document that refers to itself over and over from growing without bound. -/
abbrev Decode := StateT Nat Option

/-- How a notation with nodes `ν` writes the values that documents are made of. -/
structure Reading (ν : Type) where
  text : ν → Decode String
  optionalText : ν → Decode (Option String)
  flag : ν → Decode Bool
  /-- The fields of a record that are given, of those that it may have. -/
  record : List String → ν → Decode (List (String × ν))
  dictionary : ν → Decode (List (String × ν))
  style : ν → Decode Style

/-- Read a field that need not be given. -/
def fieldOr {ν α : Type} (fields : List (String × ν)) (name : String) (read : ν → Decode α)
    (otherwise : α) : Decode α :=
  match fields.lookup name with
  | some node => read node
  | none => return otherwise

/-- Read a field that must be given. -/
def field {ν α : Type} (fields : List (String × ν)) (name : String) (read : ν → Decode α) :
    Decode α :=
  match fields.lookup name with
  | some node => read node
  | none => failure

end CodeHighlight.Document

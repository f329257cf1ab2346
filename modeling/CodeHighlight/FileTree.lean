import CodeHighlight.FileSystem
import CodeHighlight.PathText

/-! # File trees

The files below one directory, by their relative paths. Directories on the way to a file exist
without an entry of their own.
-/
namespace CodeHighlight

/-- A file has no text if its bytes are not UTF-8. -/
inductive FileEntry where
  | file (text : Option String)
  | directory
deriving DecidableEq, Repr

structure FileTree where
  entries : List (List String × FileEntry)

/-- Where a path leads: below the directory of a tree, or out of it. Outside there are directories
on the way up to the root and nothing else. -/
inductive Place where
  | inside (path : List String)
  | outside
deriving DecidableEq, Repr

namespace Place

def parent : Place → Place
  | inside path => if path.isEmpty then outside else inside path.dropLast
  | outside => outside

end Place

namespace FileTree

def ofList (entries : List (String × FileEntry)) : FileTree :=
  ⟨entries.map fun (path, entry) => (PathText.segments path, entry)⟩

def find? (tree : FileTree) : Place → Option FileEntry
  | .outside => some .directory
  | .inside path =>
    match tree.entries.lookup path with
    | some entry => some entry
    | none =>
      if path.isEmpty || tree.entries.any fun (longer, _) => path.isPrefixOf longer then
        some .directory
      else none

def nameLimit : Nat := 255

def pathLimit : Nat := 4095

/-- What a directory holds under a name. -/
def enter (place : Place) (name : String) : Except ReadFailure Place :=
  if nameLimit < name.utf8ByteSize then .error .nameTooLong
  else
    match place with
    | .inside path => .ok (.inside (path ++ [name]))
    | .outside => .error .notFound

/-- Follow the parts of a path from a place; every part but the last has to be a directory. -/
def walk (tree : FileTree) : Place → List String → Except ReadFailure Place
  | place, [] =>
    match tree.find? place with
    | some _ => .ok place
    | none => .error .notFound
  | place, part :: parts =>
    match tree.find? place with
    | none => .error .notFound
    | some (.file _) => .error .notDirectory
    | some .directory =>
      if part.isEmpty || part == "." then walk tree place parts
      else if part == ".." then walk tree place.parent parts
      else
        match enter place part with
        | .ok place => walk tree place parts
        | .error failure => .error failure

/-- A path from the root begins outside. -/
def resolve (tree : FileTree) (path : String) : Except ReadFailure Place :=
  if path.toList.contains '\x00' then .error .nullInPath
  else if path.isEmpty then .error .notFound
  else if pathLimit < path.utf8ByteSize then .error .nameTooLong
  else tree.walk (if path.startsWith "/" then .outside else .inside []) (PathText.segments path)

def read (tree : FileTree) (path : String) : Except ReadFailure String := do
  match tree.find? (← tree.resolve path) with
  | some (.file (some text)) => .ok text
  | some (.file none) => .error .notText
  | some .directory => .error .isDirectory
  | none => .error .notFound

def list (tree : FileTree) (path : String) : Option (List String) :=
  match tree.resolve path with
  | .ok (.inside place) =>
    if tree.find? (.inside place) = some .directory then
      some ((tree.entries.filterMap fun (path, _) =>
        if place.isPrefixOf path then path[place.length]? else none).eraseDups)
    else none
  | .ok .outside => some []
  | .error _ => none

def toFileSystem (tree : FileTree) : FileSystem := ⟨tree.read, tree.list⟩

end FileTree

end CodeHighlight

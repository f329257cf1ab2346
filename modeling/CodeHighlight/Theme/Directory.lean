import CodeHighlight.Text.Utf8
import CodeHighlight.Theme.Store

/-! # Directories of themes

What the files of a directory hold for a theme store. The file system lists names in an order of its
own, while the themes come in the order of the bytes of their names.
-/
namespace CodeHighlight

namespace FileSystem

/-- The names in a directory; there are none where it cannot be read. -/
def names (files : FileSystem) (directory : String) : List String :=
  (files.list directory).getD []

/-- A file system names each file of a directory once, and no name has a slash in it. -/
structure Lists (files : FileSystem) (directory : String) : Prop where
  nodup : (files.names directory).Nodup
  noSlash : ∀ name ∈ files.names directory, '/' ∉ name.toList

/-- The same files, with the names in the directory in another order. -/
structure Relisted (files others : FileSystem) (directory : String) : Prop where
  read : files.read = others.read
  list : (files.names directory).Perm (others.names directory)

end FileSystem

/-- A theme without an id is named after its file. -/
def Theme.named (theme : Theme) (stem : String) : Theme :=
  if theme.id = "" then { theme with id := stem } else theme

namespace ThemeStore

/-- A file of this name in the directory can be read and holds the theme. -/
inductive Holds (files : FileSystem) (directory : String) : String → Theme → Prop where
  | json {stem document : String} {written : Theme} :
    stem ≠ "" → files.read (PathText.join directory (stem ++ "." ++ "json")) = .ok document →
    Theme.ofJson document = .ok written →
    Holds files directory (stem ++ "." ++ "json") (written.named stem)
  | yaml {stem extension document : String} {written : Theme} :
    stem ≠ "" → extension = "yaml" ∨ extension = "yml" →
    files.read (PathText.join directory (stem ++ "." ++ extension)) = .ok document →
    Theme.ofYaml document = .ok written →
    Holds files directory (stem ++ "." ++ extension) (written.named stem)

/-- The theme of the last file that holds one for the id, with that id. -/
def LastHeld (held : List (String × Theme)) (id : String) (theme : Theme) : Prop :=
  ∃ earlier file later, held = earlier ++ file :: later ∧ normalizeThemeId file.2.id = id ∧
    (∀ other ∈ later, normalizeThemeId other.2.id ≠ id) ∧ theme = { file.2 with id }

end ThemeStore

end CodeHighlight

import CodeHighlight.PathText
import CodeHighlight.Text.Lowercase

/-! # Detecting a language

The extension of a path, in upper or lower case, tells in which language the file is written.
-/
namespace CodeHighlight

/-- Extensions in lower case, each with the id of the language that its files are written in. -/
def extensions : List (String × String) :=
  [("go", "go"),
    ("js", "javascript"), ("mjs", "javascript"), ("cjs", "javascript"),
    ("jsx", "jsx"),
    ("ts", "typescript"), ("mts", "typescript"), ("cts", "typescript"),
    ("tsx", "tsx"),
    ("rs", "rust"),
    ("py", "python"), ("pyi", "python"),
    ("java", "java"),
    ("c", "c"), ("h", "c"),
    ("cc", "cpp"), ("cpp", "cpp"), ("cxx", "cpp"), ("hpp", "cpp"), ("hh", "cpp"), ("hxx", "cpp"),
    ("sh", "bash"), ("bash", "bash"),
    ("php", "php")]

def languageForExtension? (extension : String) : Option String := extensions.lookup extension

/-- The id of the language of a file. -/
def languageForPath? (path : String) : Option String :=
  (PathText.extension? path).bind fun extension =>
    languageForExtension? (Text.lowercase extension)

end CodeHighlight

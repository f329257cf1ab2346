import CodeHighlight.Language.Definition

/-! # Languages that come with the library

One definition for each grammar of the library. A language that extends another one lays its own
query over the query of the other. Other grammars come without queries.
-/
namespace CodeHighlight

instance : GrammarVersions where
  version
    | .rust | .java | .cpp | .javascript | .jsx | .typescript | .tsx => 14
    | _ => 15

def NativeGrammar.languageId : NativeGrammar → String
  | go => "go"
  | rust => "rust"
  | python => "python"
  | java => "java"
  | c => "c"
  | cpp => "cpp"
  | bash => "bash"
  | php => "php"
  | javascript => "javascript"
  | jsx => "jsx"
  | typescript => "typescript"
  | tsx => "tsx"
  | other label => label

def NativeGrammar.highlightFiles : NativeGrammar → List QueryFile
  | go => [.goHighlights]
  | rust => [.rustHighlights]
  | python => [.pythonHighlights]
  | java => [.javaHighlights]
  | c => [.cHighlight]
  | cpp => [.cppHighlight, .cHighlight]
  | bash => [.bashHighlight]
  | php => [.phpHighlights]
  | javascript => [.javascriptHighlight]
  | jsx => [.javascriptJsxHighlight, .javascriptHighlight]
  | typescript => [.typescriptHighlights, .javascriptHighlight]
  | tsx => [.javascriptJsxHighlight, .typescriptHighlights, .javascriptHighlight]
  | other _ => []

/-- The four dialects of one family share an injections query; of the others none has one. -/
def NativeGrammar.injectionFiles : NativeGrammar → List QueryFile
  | javascript | jsx | typescript | tsx => [.javascriptInjections]
  | _ => []

def NativeGrammar.localFiles : NativeGrammar → List QueryFile
  | javascript | jsx => [.javascriptLocals]
  | typescript | tsx => [.typescriptLocals, .javascriptLocals]
  | _ => []

/-- Query files make a query unless there are none. -/
def Query.ofFiles? (files : List QueryFile) : Option Query :=
  if files.isEmpty then none else some (.layers files)

namespace Definition

def builtin (grammar : NativeGrammar) : Definition where
  id := grammar.languageId
  grammar := some (.native grammar)
  queries := {
    highlights := Query.ofFiles? grammar.highlightFiles
    injections := Query.ofFiles? grammar.injectionFiles
    locals := Query.ofFiles? grammar.localFiles }

/-- In the order in which they are registered. -/
def builtins : List Definition :=
  [.go, .rust, .python, .java, .c, .cpp, .bash, .php, .javascript, .jsx, .typescript, .tsx].map
    builtin

end Definition

end CodeHighlight

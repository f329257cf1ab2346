import CodeHighlight.Language.Grammar

/-! # Language definitions

A definition is an id, a grammar and the queries that pick captures out of parsed code. Only the
highlights query is used here, and only it has to be there.
-/
namespace CodeHighlight

inductive QueryFile where
  | goHighlights
  | rustHighlights
  | pythonHighlights
  | javaHighlights
  | cHighlight
  | cppHighlight
  | bashHighlight
  | phpHighlights
  | javascriptHighlight
  | javascriptJsxHighlight
  | javascriptInjections
  | javascriptLocals
  | typescriptHighlights
  | typescriptLocals
deriving DecidableEq, Repr

def QueryFile.name : QueryFile → String
  | goHighlights => "go.HIGHLIGHTS"
  | rustHighlights => "rust.HIGHLIGHTS"
  | pythonHighlights => "python.HIGHLIGHTS"
  | javaHighlights => "java.HIGHLIGHTS"
  | cHighlight => "c.HIGHLIGHT"
  | cppHighlight => "cpp.HIGHLIGHT"
  | bashHighlight => "bash.HIGHLIGHT"
  | phpHighlights => "php.HIGHLIGHTS"
  | javascriptHighlight => "javascript.HIGHLIGHT"
  | javascriptJsxHighlight => "javascript.JSX_HIGHLIGHT"
  | javascriptInjections => "javascript.INJECTIONS"
  | javascriptLocals => "javascript.LOCALS"
  | typescriptHighlights => "typescript.HIGHLIGHTS"
  | typescriptLocals => "typescript.LOCALS"

/-- A query is a text of its own, or query files laid one over the other, the most specific
first. -/
inductive Query where
  | text (source : String)
  | layers (files : List QueryFile)
deriving DecidableEq, Repr

/-- A blank query picks nothing. Query files are not blank. -/
def Query.isBlank : Query → Bool
  | text source => Text.isBlankText source
  | layers files => files.isEmpty

structure Queries where
  highlights : Option Query
  injections : Option Query
  locals : Option Query
deriving DecidableEq, Repr

def Queries.absent : Queries := ⟨none, none, none⟩

structure Definition where
  id : String
  grammar : Option Grammar
  queries : Queries
deriving DecidableEq, Repr

/-- The highlights query, which must not be blank. -/
def Definition.highlightQuery (definition : Definition) : Except Failure Query :=
  match definition.queries.highlights.filter fun query => !query.isBlank with
  | some query => .ok query
  | none => .error (.invalidLanguage definition.id "missing highlights query")

end CodeHighlight

import CodeHighlight.Text.Utf8

/-! # Reading positions in a YAML text

The classes of characters that the token rules speak of, and a cursor that counts bytes,
lines and columns as it moves.
-/
namespace CodeHighlight.Yaml

/-- Characters that a document may contain. -/
def isAllowed (c : Char) : Bool :=
  let n := c.toNat
  n == 0x09 || n == 0x0A || n == 0x0D || (0x20 ≤ n && n ≤ 0x7E) || n == 0x85 ||
    (0xA0 ≤ n && n ≤ 0xD7FF) || (0xE000 ≤ n && n ≤ 0xFFFD) || 0x10000 ≤ n

def isBreak (c : Char) : Bool :=
  c == '\n' || c == '\r' || c == '\u0085' || c == '\u2028' || c == '\u2029'

def isBlank (c : Char) : Bool := c == ' ' || c == '\t'

/-- Letters of directive names, anchors and tag handles. -/
def isWordChar (c : Char) : Bool :=
  ('a' ≤ c && c ≤ 'z') || ('A' ≤ c && c ≤ 'Z') || ('0' ≤ c && c ≤ '9') || c == '_' || c == '-'

/-- Letters of a tag beside the word characters. -/
def isUriChar (c : Char) : Bool :=
  isWordChar c || ";/?:@&=+$.%!~*'()".toList.contains c

def byteOrderMark : Char := '\ufeff'

/-- The text that is still to be read, and how far reading has come. `index` counts bytes, `column`
counts characters. -/
structure Cursor where
  rest : List Char
  index : Nat
  line : Nat
  column : Nat

namespace Cursor

def ofText (text : List Char) : Cursor := ⟨text, 0, 0, 0⟩

def peek (cursor : Cursor) : Option Char := cursor.rest.head?

def peekAt (cursor : Cursor) (distance : Nat) : Option Char := cursor.rest[distance]?

def looksAt (cursor : Cursor) (c : Char) : Bool := cursor.peek == some c

def atEnd (cursor : Cursor) : Bool := cursor.rest.isEmpty

def atBlank (cursor : Cursor) : Bool := (cursor.peek.map isBlank).getD false

def atBreak (cursor : Cursor) : Bool := (cursor.peek.map isBreak).getD false

def gapAt (cursor : Cursor) (distance : Nat) : Bool :=
  (cursor.peekAt distance).elim true fun c => isBlank c || isBreak c

def indexAfter (cursor : Cursor) (count : Nat) : Nat :=
  cursor.index + Text.byteLength (cursor.rest.take count)

def skipMany (cursor : Cursor) (count : Nat) : Cursor :=
  ⟨cursor.rest.drop count, cursor.indexAfter count, cursor.line, cursor.column + count⟩

def skip (cursor : Cursor) : Cursor := cursor.skipMany 1

/-- Move over a line break; a carriage return and the line feed after it are one break. -/
def skipBreak (cursor : Cursor) : Cursor :=
  match cursor.rest with
  | '\r' :: '\n' :: rest => ⟨rest, cursor.indexAfter 2, cursor.line + 1, 0⟩
  | rest => ⟨rest.drop 1, cursor.indexAfter 1, cursor.line + 1, 0⟩

/-- What a break adds to a scalar: the two separators of Unicode stand for themselves, all other
breaks for a line feed. -/
def breakText (cursor : Cursor) : List Char :=
  match cursor.peek with
  | some c =>
    if c == '\u2028' || c == '\u2029' then [c] else if isBreak c then ['\n'] else []
  | none => []

def skipWhile (cursor : Cursor) (test : Char → Bool) : Cursor :=
  cursor.skipMany (cursor.rest.takeWhile test).length

def skipLineRest (cursor : Cursor) : Cursor := cursor.skipWhile fun c => !isBreak c

/-- One of the two document marks starts the line here. -/
def atDocumentMark (cursor : Cursor) : Bool :=
  cursor.column == 0 && cursor.gapAt 3 &&
    (cursor.rest.take 3 == ['-', '-', '-'] || cursor.rest.take 3 == ['.', '.', '.'])

end Cursor

end CodeHighlight.Yaml

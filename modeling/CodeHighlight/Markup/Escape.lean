import CodeHighlight.Text.Utf8

/-! # Escaping text for markup

Five characters have a meaning in markup and are written as entities. `escape` replaces character
by character; `appendEscaped` copies the stretches between them whole.
-/
namespace CodeHighlight.Markup

open CodeHighlight.Text

def entity? : Char → Option String
  | '&' => some "&amp;"
  | '<' => some "&lt;"
  | '>' => some "&gt;"
  | '"' => some "&quot;"
  | '\'' => some "&#39;"
  | _ => none

def escapeChar (c : Char) : List Char :=
  match entity? c with
  | some entity => entity.toList
  | none => [c]

/-- Text that stands for `text` inside an element and inside a quoted attribute. -/
def escape (text : String) : String :=
  String.ofList (text.toList.flatMap escapeChar)

@[simp]
theorem toList_escape (text : String) : (escape text).toList = text.toList.flatMap escapeChar := by
  simp [escape]

theorem escape_append (a b : String) : escape (a ++ b) = escape a ++ escape b := by
  apply String.toList_injective
  simp

/-- A stretch to copy as it stands, between two byte offsets, and the entity that follows it. -/
structure Stretch where
  start : Nat
  stop : Nat
  entity : String
deriving DecidableEq, Repr

/-- Cut a text before each character that needs an entity. The stretch under way began at `start`,
and the text that is left begins at `offset`. -/
def stretchesFrom (start offset : Nat) : List Char → List Stretch
  | [] => [⟨start, offset, ""⟩]
  | c :: cs =>
    match entity? c with
    | some entity =>
      ⟨start, offset, entity⟩ :: stretchesFrom (offset + c.utf8Size) (offset + c.utf8Size) cs
    | none => stretchesFrom start (offset + c.utf8Size) cs

/-- Append the escaped form of `text` to `out`, one stretch at a time. -/
def appendEscaped (out text : String) : String :=
  (stretchesFrom 0 0 text.toList).foldl (fun out stretch =>
    out ++ String.ofList ((slice? text.toList stretch.start stretch.stop).getD [])
      ++ stretch.entity) out

end CodeHighlight.Markup

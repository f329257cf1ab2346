/-! # Blank characters

The characters with the Unicode property White_Space separate words.
-/
namespace CodeHighlight.Text

/-- White_Space of Unicode: all of it, not only the ASCII part. -/
def isBlank (c : Char) : Bool :=
  let n := c.toNat
  (9 ≤ n && n ≤ 13) || n == 0x20 || n == 0x85 || n == 0xA0 || n == 0x1680 ||
    (0x2000 ≤ n && n ≤ 0x200A) || n == 0x2028 || n == 0x2029 || n == 0x202F ||
    n == 0x205F || n == 0x3000

/-- The words of a text, `word` being the end of the one that is still growing. -/
def wordsFrom (word : List Char) : List Char → List (List Char)
  | [] => if word.isEmpty then [] else [word]
  | c :: cs =>
    if isBlank c then
      if word.isEmpty then wordsFrom [] cs else word :: wordsFrom [] cs
    else wordsFrom (word ++ [c]) cs

/-- The maximal stretches without a blank. -/
def words (text : String) : List String :=
  (wordsFrom [] text.toList).map String.ofList

def isBlankText (text : String) : Bool :=
  text.toList.all isBlank

/-- The text with one mark in place of every maximal stretch of characters of a kind. -/
def replaceStretches (kind : Char → Bool) (mark : Char) : List Char → List Char
  | [] => []
  | c :: cs =>
    have := (List.dropWhile_sublist (l := cs) kind).length_le
    if kind c then mark :: replaceStretches kind mark (cs.dropWhile kind)
    else c :: replaceStretches kind mark cs
termination_by text => text.length
decreasing_by all_goals simp only [List.length_cons]; omega

/-- The text with a hyphen for every stretch of blanks. -/
def hyphenated (text : List Char) : List Char := replaceStretches isBlank '-' text

/-- No blank begins the text, and none ends it. -/
def IsTrimmed (text : String) : Prop :=
  ∀ c, text.toList.head? = some c ∨ text.toList.getLast? = some c → isBlank c = false

/-- The five blanks that an encoded payload may be broken up with. -/
def isAsciiBlank (c : Char) : Bool :=
  c == ' ' || c == '\t' || c == '\n' || c == '\x0c' || c == '\r'

end CodeHighlight.Text

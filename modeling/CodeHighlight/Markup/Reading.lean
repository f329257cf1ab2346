import CodeHighlight.Markup.Escape
import CodeHighlight.Text.Blank

/-! # Reading markup back

Text is got back from markup by deleting the tags and replacing the entities. `items` reads both in
one pass and `enclosed` keeps, for every character, the tags around it.
-/
namespace CodeHighlight.Markup

/-- The entities, with the characters that they stand for. An ampersand comes last, so that one that
is got back never makes an entity with what follows it. -/
def entities : List (List Char × Char) :=
  [("&lt;".toList, '<'), ("&gt;".toList, '>'), ("&quot;".toList, '"'), ("&#39;".toList, '\''),
    ("&amp;".toList, '&')]

/-- The text after a tag that has been entered. -/
def afterTag (markup : List Char) : List Char := (markup.dropWhile (· ≠ '>')).drop 1

theorem length_afterTag_le (markup : List Char) : (afterTag markup).length ≤ markup.length := by
  have h := List.dropWhile_sublist (l := markup) (· ≠ '>')
  have := h.length_le
  simp only [afterTag, List.length_drop]
  omega

/-- Delete every tag, from each `<` to the next `>`. -/
def dropTags : List Char → List Char
  | [] => []
  | c :: cs =>
    have := length_afterTag_le cs
    if c = '<' then dropTags (afterTag cs) else c :: dropTags cs
termination_by markup => markup.length

def replaceEntity (entity : List Char × Char) : List Char → List Char
  | [] => []
  | c :: cs =>
    if entity.1.isPrefixOf (c :: cs) then
      entity.2 :: replaceEntity entity (cs.drop (entity.1.length - 1))
    else c :: replaceEntity entity cs
termination_by text => text.length
decreasing_by all_goals simp only [List.length_cons, List.length_drop]; omega

/-- The text that escaped text stands for: one entity after the other is replaced. -/
def unescape (text : List Char) : List Char :=
  entities.foldl (fun text entity => replaceEntity entity text) text

/-- The names in the value of a class attribute, which only ASCII blanks separate. -/
def classNames (value : List Char) : List (List Char) :=
  (value.splitOnP Text.isAsciiBlank).filter fun name => !name.isEmpty

/-- A tag by what stands between its angle brackets, or a character of the text. -/
inductive Item where
  | tag (content : List Char)
  | character (c : Char)
deriving DecidableEq, Repr

def items : List Char → List Item
  | [] => []
  | c :: cs =>
    have := length_afterTag_le cs
    if c = '<' then .tag (cs.takeWhile (· ≠ '>')) :: items (afterTag cs)
    else
      match entities.find? fun entity => entity.1.isPrefixOf (c :: cs) with
      | some entity => .character entity.2 :: items (cs.drop (entity.1.length - 1))
      | none => .character c :: items cs
termination_by markup => markup.length
decreasing_by all_goals simp only [List.length_cons, List.length_drop]; omega

/-- Every character with the tags around it, outermost first; `opened` are those already open. A tag
that begins with a slash closes the innermost one. -/
def enclosedFrom (opened : List (List Char)) : List Item → List (Char × List (List Char))
  | [] => []
  | .tag content :: rest =>
    if content.head? = some '/' then enclosedFrom opened.dropLast rest
    else enclosedFrom (opened ++ [content]) rest
  | .character c :: rest => (c, opened) :: enclosedFrom opened rest

def enclosed (markup : String) : List (Char × List (List Char)) :=
  enclosedFrom [] (items markup.toList)

end CodeHighlight.Markup

import CodeHighlight.Markup.Reading

/-! # The grammar of markup

Inline markup is text and spans. Text and attribute values are written without the characters that
delimit markup, and every span has text in it. A block has two attributes and inline markup inside.
-/
namespace CodeHighlight.Markup

/-- Characters that stand for themselves, and entities. -/
inductive Plain : List Char → Prop where
  | nil : Plain []
  | character {c : Char} {rest : List Char} : entity? c = none → Plain rest → Plain (c :: rest)
  | entity {entity : List Char × Char} {rest : List Char} :
    entity ∈ entities → Plain rest → Plain (entity.1 ++ rest)

inductive SpanAttributes : List Char → Prop where
  | named {name : List Char} : Plain name →
    SpanAttributes ("class=\"".toList ++ name ++ "\"".toList)
  | colored {name color : List Char} : Plain name → Plain color →
    SpanAttributes
      ("class=\"".toList ++ name ++ "\" style=\"color: ".toList ++ color ++ "\"".toList)

/-- Inline markup. The flag tells whether there is text in it. -/
inductive Inline : Bool → List Char → Prop where
  | nil : Inline false []
  | text {textual : Bool} {text rest : List Char} :
    text ≠ [] → Plain text → Inline textual rest → Inline true (text ++ rest)
  | span {textual : Bool} {attributes content rest : List Char} :
    SpanAttributes attributes → Inline true content → Inline textual rest →
    Inline true
      ("<span ".toList ++ attributes ++ ">".toList ++ content ++ "</span>".toList ++ rest)

/-- What a block is written with: the values of its two attributes and the markup inside. -/
structure BlockMarkup where
  classes : List Char
  style : List Char
  content : List Char
  classes_plain : Plain classes
  style_plain : Plain style
  content_inline : ∃ textual, Inline textual content

def BlockMarkup.write (block : BlockMarkup) : List Char :=
  "<pre class=\"".toList ++ block.classes ++ "\" style=\"".toList ++ block.style
    ++ "\"><code>".toList ++ block.content ++ "</code></pre>".toList

end CodeHighlight.Markup

import CodeHighlight.Markup.Escape

/-! # Code blocks

A block is one `pre` element, with a class and two colors, around one `code` element.
-/
namespace CodeHighlight.Markup

/-- The class that every block carries beside the class of its theme. -/
def blockClass : String := "treelight"

/-- Wrap markup in a block. The content is markup already; the rest is escaped here. -/
def codeBlock (content themeClass background foreground : String) : String :=
  "<pre class=\"" ++ blockClass ++ " " ++ escape themeClass
    ++ "\" style=\"background-color: " ++ escape background
    ++ "; color: " ++ escape foreground
    ++ "\"><code>" ++ content ++ "</code></pre>"

end CodeHighlight.Markup

import CodeHighlight.Theme.Basic

/-! # The cascade of a theme

What the style of a key is, told without a search: of the names in the theme that head the key the
longest decides. The search asks for the key and cuts it at its last dot until a name has a style.
-/
namespace CodeHighlight

/-- The name is the key itself or stands before one of its dots. -/
def Heads (name key : String) : Prop :=
  name = key ∨ (name ++ ".").toList <+: key.toList

instance (name key : String) : Decidable (Heads name key) := inferInstanceAs (Decidable (_ ∨ _))

/-- The color that a style has for a channel, if it has one. -/
inductive Style.Gives : Style → Channel → String → Prop where
  | color (text : String) : Gives (.color text) .foreground text
  | foreground (text : String) (background : Option String) :
    Gives (.channels (some text) background) .foreground text
  | background (foreground : Option String) (text : String) :
    Gives (.channels foreground (some text)) .background text

namespace Theme

/-- The name has this style, and no longer name in the theme heads the key. -/
structure Nearest (theme : Theme) (key name : String) (style : Style) : Prop where
  heads : Heads name key
  entry : theme.styles.get? name = some style
  longest : ∀ other ∈ theme.styles.names, Heads other key → other.length ≤ name.length

/-- The search for the style of a key, and what it ends with. There is no dot after the last one. -/
inductive Search (theme : Theme) : String → Option Style → Prop where
  | found {key : String} {style : Style} :
    theme.styles.get? key = some style → Search theme key (some style)
  | missed {key : String} :
    theme.styles.get? key = none → '.' ∉ key.toList → Search theme key none
  | cut {front back : String} {answer : Option Style} :
    theme.styles.get? (front ++ "." ++ back) = none → '.' ∉ back.toList →
    Search theme front answer → Search theme (front ++ "." ++ back) answer

end Theme

end CodeHighlight

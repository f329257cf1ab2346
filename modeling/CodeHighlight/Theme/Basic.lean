import CodeHighlight.Catalog
import CodeHighlight.Text.Blank

/-! # Themes

A theme files styles under dot-separated keys. A name that has no style of its own takes the style
of its nearest named ancestor: `variable.parameter.special` falls back to `variable.parameter` and
then to `variable`.
-/
namespace CodeHighlight

inductive Channel where
  | foreground
  | background
deriving DecidableEq, Repr

/-- A single color, meant for the foreground, or one optional color a channel. -/
inductive Style where
  | color (text : String)
  | channels (foreground background : Option String)
deriving DecidableEq, Repr

/-- A single color never answers for the background. -/
def Style.channel : Style → Channel → Option String
  | .color text, .foreground => some text
  | .color _, .background => none
  | .channels foreground _, .foreground => foreground
  | .channels _ background, .background => background

structure Theme where
  id : String
  name : Option String
  styles : Catalog Style
deriving DecidableEq

/-- The theme that stands in when nothing else is named. -/
def defaultThemeId : String := "github-dark"

/-- What stands before each dot of a key, the longest first. -/
def ancestors : List Char → List (List Char)
  | [] => []
  | c :: cs => (ancestors cs).map (c :: ·) ++ if c = '.' then [[]] else []

namespace Theme

/-- The style of a key or of its nearest ancestor that has one. -/
def resolve? (theme : Theme) (key : String) : Option Style :=
  (key.toList :: ancestors key.toList).findSome? fun k => theme.styles.get? (String.ofList k)

/-- A channel that the nearest style leaves open stays open: no further ancestor is asked. -/
def color? (theme : Theme) (key : String) (channel : Channel) : Option String :=
  (theme.resolve? key).bind (·.channel channel)

/-- The class of the theme in a block: its id with hyphens for the blanks between words. -/
def cssClass (theme : Theme) : String :=
  if theme.id.isEmpty then defaultThemeId else String.intercalate "-" (Text.words theme.id)

def backgroundKey : String := "ui.background"
def foregroundKey : String := "ui.foreground"

/-- The color behind a block; a style without a background lends its foreground. -/
def blockBackground (theme : Theme) : String :=
  ((theme.color? backgroundKey .background).or
    (theme.color? backgroundKey .foreground)).getD "#ffffff"

/-- The color of plain text in a block; a style without a foreground lends its background. -/
def blockForeground (theme : Theme) : String :=
  ((theme.color? foregroundKey .foreground).or
    (theme.color? foregroundKey .background)).getD "#000000"

end Theme

end CodeHighlight

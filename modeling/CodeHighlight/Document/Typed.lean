import CodeHighlight.Theme.Basic

/-! # Typed values and styles

Where a document may hold a value of any type, as in a style, the value is typed by its form first.
Only texts and mappings make a style.
-/
namespace CodeHighlight

namespace Document

/-- A value with the distinctions that a style needs. -/
inductive Typed where
  | null
  | text (value : String)
  | index (value : Nat)
  | other
  | mapping (entries : List (Typed × Typed))

/-- A color or its absence. -/
def Typed.color? : Typed → Option (Option String)
  | .null => some none
  | .text value => some (some value)
  | _ => none

/-- What an entry of a style is about: a channel, by name or by number, or nothing known. -/
def Typed.channel? : Typed → Option (Option Channel)
  | .text name =>
    if name == "fg" then some (some .foreground)
    else if name == "bg" then some (some .background)
    else some none
  | .index value =>
    if value = 0 then some (some .foreground)
    else if value = 1 then some (some .background)
    else some none
  | _ => none

/-- The channels among some entries, each given once at most. The two arguments before the list
hold what is given so far. -/
def Typed.channels? : (foreground background : Option (Option String)) → List (Typed × Typed) →
    Option Style
  | foreground, background, [] => some (.channels foreground.join background.join)
  | foreground, background, (key, value) :: rest => do
    match ← key.channel? with
    | some .foreground =>
      if foreground.isSome then none else channels? (some (← value.color?)) background rest
    | some .background =>
      if background.isSome then none else channels? foreground (some (← value.color?)) rest
    | none => channels? foreground background rest

def Typed.style? : Typed → Option Style
  | .text value => some (.color value)
  | .mapping entries => channels? none none entries
  | _ => none

end Document

end CodeHighlight

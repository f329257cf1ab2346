/-! # JSON values

A value as it is written. Reading checks the form only: whether an escaped string is Unicode text
and whether a number is in range matters to those who use the value, so both stay recorded.
-/
namespace CodeHighlight.Json

/-- A string with an unpaired surrogate escape is well-formed but has no text. -/
abbrev Text := Option String

/-- Members stand in the order in which they are written, repeated names included. -/
inductive Value where
  | null
  | bool (value : Bool)
  | number (inRange : Bool)
  | string (text : Text)
  | array (elements : List Value)
  | object (members : List (Text × Value))

end CodeHighlight.Json

import CodeHighlight.Document.Typed
import CodeHighlight.Yaml.Node

/-! # Types of YAML scalars

A plain scalar has a type by its form: null, a truth value, an integer, a float, or else text.
Quoted scalars are text, and a tag can ask for a type.
-/
namespace CodeHighlight.Yaml

open CodeHighlight.Document (Typed)

def isNullText (text : String) : Bool :=
  text == "~" || text == "null" || text == "Null" || text == "NULL"

def truth? (text : String) : Option Bool :=
  if text == "true" || text == "True" || text == "TRUE" then some true
  else if text == "false" || text == "False" || text == "FALSE" then some false
  else none

/-! ## Integers -/

def digitIn? (radix : Nat) (c : Char) : Option Nat :=
  (Json.hexDigit? c).filter (· < radix)

/-- One or more digits of a radix. -/
def naturalIn? (radix : Nat) (digits : List Char) : Option Nat :=
  if digits.isEmpty then none
  else digits.foldlM (fun value c => (digitIn? radix c).map (value * radix + ·)) 0

/-- A leading zero before more digits makes a text, not a number. -/
def hasLeadingZero (cs : List Char) : Bool :=
  let cs := if cs.head? == some '-' || cs.head? == some '+' then cs.drop 1 else cs
  1 < cs.length && cs.head? == some '0' && cs.all Decimal.isDigit

/-- Digits in one of the four notations. -/
def unsigned? (cs : List Char) : Option Nat :=
  match cs with
  | '0' :: 'x' :: digits => naturalIn? 16 digits
  | '0' :: 'o' :: digits => naturalIn? 8 digits
  | '0' :: 'b' :: digits => naturalIn? 2 digits
  | cs => if hasLeadingZero cs then none else naturalIn? 10 cs

/-- An integer as it is written: whether it has a minus sign, and its size. -/
structure SignedNumeral where
  negative : Bool
  magnitude : Nat
deriving DecidableEq, Repr

/-- Digits with an optional sign. -/
def integer? (text : String) : Option SignedNumeral :=
  match text.toList with
  | '-' :: cs => (unsigned? cs).map fun magnitude => ⟨true, magnitude⟩
  | '+' :: cs => (unsigned? cs).map fun magnitude => ⟨false, magnitude⟩
  | cs => (unsigned? cs).map fun magnitude => ⟨false, magnitude⟩

/-- The integer fits a signed or an unsigned word of 128 bits. -/
def SignedNumeral.isInteger (n : SignedNumeral) : Bool :=
  if n.negative then n.magnitude ≤ Nat.pow 2 127 else n.magnitude < Nat.pow 2 128

/-! ## Floats -/

/-- Digits with an optional point among, before or after them, and an optional exponent. -/
def float? (cs : List Char) : Option Numeral :=
  let whole := cs.takeWhile Decimal.isDigit
  let rest := cs.dropWhile Decimal.isDigit
  let afterPoint := if rest.head? == some '.' then rest.drop 1 else []
  let fraction := afterPoint.takeWhile Decimal.isDigit
  let rest := if rest.head? == some '.' then afterPoint.dropWhile Decimal.isDigit else rest
  if whole.isEmpty && fraction.isEmpty then none
  else
    match Json.readExponent rest with
    | some (exponent, []) => some ⟨whole, fraction, exponent⟩
    | _ => none

/-- A float that is finite, or one of the names for infinity and for no number. -/
def isFloatText (text : String) : Bool :=
  let cs := text.toList
  let unsigned := if cs.head? == some '+' || cs.head? == some '-' then cs.drop 1 else cs
  let name := String.ofList unsigned
  ((name == ".inf" || name == ".Inf" || name == ".INF") ||
    (text == ".nan" || text == ".NaN" || text == ".NAN")) ||
    ((float? unsigned).elim false fun numeral => !numeral.toDecimal.exceedsDouble)

/-! ## Typed values -/

/-- Integers of up to 64 bits have a value; those of up to 128 bits have none. -/
def SignedNumeral.typed? (n : SignedNumeral) : Option Typed :=
  if n.negative then if n.magnitude ≤ Nat.pow 2 63 then some .other else none
  else if n.magnitude < Nat.pow 2 64 then some (.index n.magnitude) else none

/-- A number that is too long for an integer is a float, or text if it is too great for that. -/
def typedPlain? (text : String) : Option Typed :=
  if text.isEmpty || isNullText text then some .null
  else if (truth? text).isSome then some .other
  else
    match (integer? text).filter (·.isInteger) with
    | some n => n.typed?
    | none =>
      if !hasLeadingZero text.toList && isFloatText text then some .other else some (.text text)

/-- The value of a scalar by its form, which only a plain one has. -/
def untagged? (style : ScalarStyle) (text : String) : Option Typed :=
  if style == .plain then typedPlain? text else some (.text text)

/-- The value of a scalar where any type is welcome. A tag of the application's own is not, and a
garbled one says nothing. -/
def typedScalar? (tag : Option Tag) (style : ScalarStyle) (text : String) : Option Typed :=
  match tag with
  | some tag =>
    if tag.isOwn then none
    else if tag.isGarbled then untagged? style text
    else if tag == Tag.core "bool" then (truth? text).map fun _ => .other
    else if tag == Tag.core "int" then ((integer? text).filter (·.isInteger)).bind (·.typed?)
    else if tag == Tag.core "float" then if isFloatText text then some .other else none
    else if tag == Tag.core "null" then if isNullText text then some .null else none
    else some (.text text)
  | none => untagged? style text

end CodeHighlight.Yaml

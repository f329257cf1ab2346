import CodeHighlight.Decimal
import CodeHighlight.Json.Value

/-! # Reading JSON

Strict reading: no comments, no trailing commas, no leading zeros, no control characters in
strings, and nothing but blanks after the value.
-/
namespace CodeHighlight.Json

def isBlank (c : Char) : Bool :=
  c == ' ' || c == '\n' || c == '\t' || c == '\r'

def skipBlanks (cs : List Char) : List Char := cs.dropWhile isBlank

def hexDigit? (c : Char) : Option Nat :=
  if '0' ≤ c && c ≤ '9' then some (c.toNat - 48)
  else if 'a' ≤ c && c ≤ 'f' then some (c.toNat - 87)
  else if 'A' ≤ c && c ≤ 'F' then some (c.toNat - 55)
  else none

/-- What one step of a string body stands for: a character, or a code unit of UTF-16. -/
inductive Piece where
  | char (c : Char)
  | unit (value : Nat)
deriving DecidableEq, Repr

def isLead (unit : Nat) : Bool := 0xD800 ≤ unit && unit < 0xDC00
def isTrail (unit : Nat) : Bool := 0xDC00 ≤ unit && unit < 0xE000

/-- Join each surrogate pair to the character it encodes; a surrogate alone encodes none. -/
def Piece.join : List Piece → Option (List Char)
  | [] => some []
  | .char c :: rest => (join rest).map (c :: ·)
  | .unit lead :: rest =>
    if isLead lead then
      match rest with
      | .unit trail :: rest =>
        if isTrail trail then
          (join rest).map (Char.ofNat (0x10000 + (lead - 0xD800) * 0x400 + (trail - 0xDC00)) :: ·)
        else none
      | _ => none
    else if isTrail lead then none
    else (join rest).map (Char.ofNat lead :: ·)

def escaped? : Char → Option Char
  | '"' => some '"'
  | '\\' => some '\\'
  | '/' => some '/'
  | 'b' => some '\x08'
  | 'f' => some '\x0c'
  | 'n' => some '\n'
  | 'r' => some '\r'
  | 't' => some '\t'
  | _ => none

def readPieces : List Char → Option (List Piece × List Char)
  | [] => none
  | '"' :: rest => some ([], rest)
  | '\\' :: 'u' :: a :: b :: c :: d :: rest => do
    let value := (← hexDigit? a) * 4096 + (← hexDigit? b) * 256 + (← hexDigit? c) * 16
      + (← hexDigit? d)
    let (pieces, rest) ← readPieces rest
    return (.unit value :: pieces, rest)
  | '\\' :: c :: rest => do
    let c ← escaped? c
    let (pieces, rest) ← readPieces rest
    return (.char c :: pieces, rest)
  | c :: rest =>
    if c.toNat < 0x20 || c == '\\' then none
    else do
      let (pieces, rest) ← readPieces rest
      return (.char c :: pieces, rest)

def readText (cs : List Char) : Option (Text × List Char) :=
  (readPieces cs).map fun (pieces, rest) => ((Piece.join pieces).map String.ofList, rest)

def readDigits (cs : List Char) : Option (List Char × List Char) :=
  let digits := cs.takeWhile Decimal.isDigit
  if digits.isEmpty then none else some (digits, cs.dropWhile Decimal.isDigit)

/-- The part before the point has no leading zero. -/
def readWhole (cs : List Char) : Option (List Char × List Char) :=
  match cs with
  | '0' :: rest =>
    if (rest.head?.map Decimal.isDigit).getD false then none else some (['0'], rest)
  | cs => readDigits cs

def readFraction : List Char → Option (List Char × List Char)
  | '.' :: rest => readDigits rest
  | cs => some ([], cs)

def readExponent (cs : List Char) : Option (Int × List Char) :=
  match cs with
  | c :: rest =>
    if c == 'e' || c == 'E' then
      match rest with
      | '-' :: rest => (readDigits rest).map fun (ds, rest) => (-(Decimal.ofDigits ds : Int), rest)
      | '+' :: rest => (readDigits rest).map fun (ds, rest) => ((Decimal.ofDigits ds : Int), rest)
      | rest => (readDigits rest).map fun (ds, rest) => ((Decimal.ofDigits ds : Int), rest)
    else some (0, cs)
  | [] => some (0, [])

/-- A number without its sign. -/
def readNumeral (cs : List Char) : Option (Numeral × List Char) := do
  let (whole, cs) ← readWhole cs
  let (fraction, cs) ← readFraction cs
  let (exponent, cs) ← readExponent cs
  return (⟨whole, fraction, exponent⟩, cs)

def readNumber (cs : List Char) : Option (Value × List Char) :=
  (readNumeral (if cs.head? = some '-' then cs.drop 1 else cs)).map fun (numeral, rest) =>
    (.number (!numeral.toDecimal.exceedsDouble), rest)

def dropWord? (word : String) (cs : List Char) : Option (List Char) :=
  if word.toList.isPrefixOf cs then some (cs.drop word.length) else none

mutual

/-- A value at the head of the input. Every step down consumes a character, so fuel above the
length of the input is never used up. -/
def readValue : Nat → List Char → Option (Value × List Char)
  | 0, _ => none
  | fuel + 1, cs =>
    match skipBlanks cs with
    | '[' :: rest =>
      match skipBlanks rest with
      | ']' :: rest => some (.array [], rest)
      | rest => (readElements fuel rest).map fun (elements, rest) => (.array elements, rest)
    | '\x7b' :: rest =>
      match skipBlanks rest with
      | '\x7d' :: rest => some (.object [], rest)
      | rest => (readMembers fuel rest).map fun (members, rest) => (.object members, rest)
    | '"' :: rest => (readText rest).map fun (text, rest) => (.string text, rest)
    | 'n' :: rest => (dropWord? "ull" rest).map fun rest => (.null, rest)
    | 't' :: rest => (dropWord? "rue" rest).map fun rest => (.bool true, rest)
    | 'f' :: rest => (dropWord? "alse" rest).map fun rest => (.bool false, rest)
    | rest => readNumber rest

def readElements : Nat → List Char → Option (List Value × List Char)
  | 0, _ => none
  | fuel + 1, cs => do
    let (element, rest) ← readValue fuel cs
    match skipBlanks rest with
    | ',' :: rest =>
      (readElements fuel rest).map fun (elements, rest) => (element :: elements, rest)
    | ']' :: rest => some ([element], rest)
    | _ => none

def readMembers : Nat → List Char → Option (List (Text × Value) × List Char)
  | 0, _ => none
  | fuel + 1, cs =>
    match skipBlanks cs with
    | '"' :: rest => do
      let (name, rest) ← readText rest
      match skipBlanks rest with
      | ':' :: rest =>
        let (value, rest) ← readValue fuel rest
        match skipBlanks rest with
        | ',' :: rest =>
          (readMembers fuel rest).map fun (members, rest) => ((name, value) :: members, rest)
        | '\x7d' :: rest => some ([(name, value)], rest)
        | _ => none
      | _ => none
    | _ => none

end

def read? (document : String) : Option Value :=
  let cs := document.toList
  match readValue (2 * cs.length + 2) cs with
  | some (value, rest) => if (skipBlanks rest).isEmpty then some value else none
  | none => none

end CodeHighlight.Json

/-! # Base64

Three bytes make four symbols of six bits; a last group of one or two bytes is padded. Decoding
accepts exactly what encoding produces: the padding has to be complete and unused bits zero.
-/
namespace CodeHighlight.Base64

/-- The symbol for a value below 64. -/
def symbol (value : Nat) : UInt8 :=
  if value < 26 then UInt8.ofNat (65 + value)
  else if value < 52 then UInt8.ofNat (71 + value)
  else if value < 62 then UInt8.ofNat (value - 4)
  else if value = 62 then 43 else 47

def value? (byte : UInt8) : Option Nat :=
  let n := byte.toNat
  if 65 ≤ n && n ≤ 90 then some (n - 65)
  else if 97 ≤ n && n ≤ 122 then some (n - 71)
  else if 48 ≤ n && n ≤ 57 then some (n + 4)
  else if n = 43 then some 62
  else if n = 47 then some 63
  else none

def padding : UInt8 := 61

def encode : List UInt8 → List UInt8
  | [] => []
  | [a] =>
    let bits := a.toNat * 16
    [symbol (bits / 64), symbol (bits % 64), padding, padding]
  | [a, b] =>
    let bits := (a.toNat * 256 + b.toNat) * 4
    [symbol (bits / 4096), symbol (bits / 64 % 64), symbol (bits % 64), padding]
  | a :: b :: c :: rest =>
    let bits := (a.toNat * 256 + b.toNat) * 256 + c.toNat
    symbol (bits / 262144) :: symbol (bits / 4096 % 64) :: symbol (bits / 64 % 64) ::
      symbol (bits % 64) :: encode rest

inductive DecodeFailure where
  | invalidSymbol (byte : UInt8) (offset : Nat)
  | invalidLength (length : Nat)
  | invalidPadding
  /-- The last symbol has bits that no byte uses. -/
  | invalidLastSymbol (byte : UInt8) (offset : Nat)
deriving DecidableEq, Repr

def DecodeFailure.message : DecodeFailure → String
  | invalidSymbol byte offset =>
    "Invalid symbol " ++ toString byte.toNat ++ ", offset " ++ toString offset ++ "."
  | invalidLength length => "Invalid input length: " ++ toString length
  | invalidPadding => "Invalid padding"
  | invalidLastSymbol byte offset =>
    "Invalid last symbol " ++ toString byte.toNat ++ ", offset " ++ toString offset ++ "."

def valueAt (byte : UInt8) (offset : Nat) : Except DecodeFailure Nat :=
  match value? byte with
  | some value => .ok value
  | none => .error (.invalidSymbol byte offset)

/-- The symbols of the last group, with how many paddings follow them. `symbols` are those read so
far with their values, and `pads` counts the paddings read so far. Padding does not begin before the
third place, and only padding follows it. -/
def readTail (offset : Nat) (symbols : List (UInt8 × Nat)) (pads : Nat) :
    List UInt8 → Except DecodeFailure (List (UInt8 × Nat) × Nat)
  | [] => .ok (symbols, pads)
  | byte :: rest =>
    if byte = padding then
      if symbols.length + pads < 2 then
        .error (.invalidSymbol padding (offset + symbols.length + pads))
      else readTail offset symbols (pads + 1) rest
    else if 0 < pads then .error (.invalidSymbol padding (offset + symbols.length))
    else
      match value? byte with
      | some value => readTail offset (symbols ++ [(byte, value)]) pads rest
      | none => .error (.invalidSymbol byte (offset + symbols.length))

def decodeTail (offset : Nat) (bytes : List UInt8) : Except DecodeFailure (List UInt8) := do
  let (symbols, pads) ← readTail offset [] 0 bytes
  if symbols.length < 2 then .error (.invalidLength (offset + symbols.length))
  else if symbols.length + pads ≠ 4 then .error .invalidPadding
  else
    match symbols with
    | [(_, w), (last, x)] =>
      if x % 16 ≠ 0 then .error (.invalidLastSymbol last (offset + 1))
      else .ok [UInt8.ofNat (w * 4 + x / 16)]
    | [(_, w), (_, x), (last, y)] =>
      if y % 4 ≠ 0 then .error (.invalidLastSymbol last (offset + 2))
      else .ok [UInt8.ofNat (w * 4 + x / 16), UInt8.ofNat (x % 16 * 16 + y / 4)]
    | [(_, w), (_, x), (_, y), (_, z)] =>
      .ok [UInt8.ofNat (w * 4 + x / 16), UInt8.ofNat (x % 16 * 16 + y / 4),
        UInt8.ofNat (y % 4 * 64 + z)]
    | _ => .error .invalidPadding

/-- Every group but the last has four symbols. -/
def decodeFrom (offset : Nat) : List UInt8 → Except DecodeFailure (List UInt8)
  | a :: b :: c :: d :: next :: rest => do
    let w ← valueAt a offset
    let x ← valueAt b (offset + 1)
    let y ← valueAt c (offset + 2)
    let z ← valueAt d (offset + 3)
    let more ← decodeFrom (offset + 4) (next :: rest)
    return UInt8.ofNat (w * 4 + x / 16) :: UInt8.ofNat (x % 16 * 16 + y / 4) ::
      UInt8.ofNat (y % 4 * 64 + z) :: more
  | bytes => decodeTail offset bytes

/-- A single byte beyond the last whole group is looked at before everything else. -/
def decode (bytes : List UInt8) : Except DecodeFailure (List UInt8) :=
  match bytes.getLast? with
  | some last =>
    if bytes.length % 4 = 1 && last ≠ padding && (value? last).isNone then
      .error (.invalidSymbol last (bytes.length - 1))
    else decodeFrom 0 bytes
  | none => .ok []

end CodeHighlight.Base64

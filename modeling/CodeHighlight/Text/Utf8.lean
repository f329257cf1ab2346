/-! # Byte offsets into a text

A text is a list of characters, and offsets count the bytes of its UTF-8 form. A boundary is an
offset between two characters or at an end; only boundaries cut a text into texts.
-/
namespace CodeHighlight.Text

/-- The UTF-8 form of a text. -/
def bytes (text : String) : List UInt8 := text.toUTF8.data.toList

def byteLength : List Char → Nat
  | [] => 0
  | c :: cs => c.utf8Size + byteLength cs

@[simp]
theorem byteLength_append (before after : List Char) :
    byteLength (before ++ after) = byteLength before + byteLength after := by
  induction before with
  | nil => simp [byteLength]
  | cons c cs ih => simp [byteLength, ih, Nat.add_assoc]

/-- A prefix of the text is exactly this many bytes long. -/
def IsBoundary (cs : List Char) (offset : Nat) : Prop :=
  ∃ before after, cs = before ++ after ∧ byteLength before = offset

/-- The greatest boundary at or before an offset; an offset past the end gives the end. -/
def floorBoundary : List Char → Nat → Nat
  | [], _ => 0
  | c :: cs, offset =>
    if c.utf8Size ≤ offset then c.utf8Size + floorBoundary cs (offset - c.utf8Size) else 0

theorem floorBoundary_le_offset (cs : List Char) (offset : Nat) :
    floorBoundary cs offset ≤ offset := by
  induction cs generalizing offset with
  | nil => simp [floorBoundary]
  | cons c cs ih =>
    rw [floorBoundary]
    split
    · have := ih (offset - c.utf8Size)
      omega
    · omega

theorem floorBoundary_le_byteLength (cs : List Char) (offset : Nat) :
    floorBoundary cs offset ≤ byteLength cs := by
  induction cs generalizing offset with
  | nil => simp [floorBoundary]
  | cons c cs ih =>
    rw [floorBoundary, byteLength]
    split
    · have := ih (offset - c.utf8Size)
      omega
    · omega

theorem isBoundary_floorBoundary (cs : List Char) (offset : Nat) :
    IsBoundary cs (floorBoundary cs offset) := by
  induction cs generalizing offset with
  | nil => exact ⟨[], [], rfl, rfl⟩
  | cons c cs ih =>
    rw [floorBoundary]
    split
    · obtain ⟨before, after, rfl, h⟩ := ih (offset - c.utf8Size)
      exact ⟨c :: before, after, rfl, by rw [byteLength, h]⟩
    · exact ⟨[], c :: cs, rfl, rfl⟩

/-- The UTF-8 form of characters. -/
def encode (cs : List Char) : List UInt8 := cs.flatMap String.utf8EncodeChar

/-- The byte goes on with a character that began before it. -/
def isContinuation (byte : UInt8) : Bool := 0x80 ≤ byte && byte < 0xC0

/-- A character begins at this offset, or the text does, or the text ends. -/
def isCut (bytes : List UInt8) (offset : Nat) : Bool :=
  match bytes[offset]? with
  | some byte => offset == 0 || !isContinuation byte
  | none => offset == bytes.length

/-- Go back from an offset, byte by byte, to where the text may be cut. -/
def retreat (bytes : List UInt8) : Nat → Nat
  | 0 => 0
  | offset + 1 => if isCut bytes (offset + 1) then offset + 1 else retreat bytes offset

/-- Where the text is cut for an offset, which may be past the end or inside a character. -/
def clampOffset (cs : List Char) (offset : Nat) : Nat :=
  let bytes := encode cs
  retreat bytes (min offset bytes.length)

def dropBytes? : List Char → Nat → Option (List Char)
  | cs, 0 => some cs
  | [], _ + 1 => none
  | c :: cs, offset + 1 =>
    if c.utf8Size ≤ offset + 1 then dropBytes? cs (offset + 1 - c.utf8Size) else none

def takeBytes? : List Char → Nat → Option (List Char)
  | _, 0 => some []
  | [], _ + 1 => none
  | c :: cs, offset + 1 =>
    if c.utf8Size ≤ offset + 1 then
      (takeBytes? cs (offset + 1 - c.utf8Size)).map (c :: ·)
    else none

/-- The text between two boundaries in order; nothing else can be sliced. -/
def slice? (cs : List Char) (start stop : Nat) : Option (List Char) :=
  if start ≤ stop then (dropBytes? cs start).bind (takeBytes? · (stop - start)) else none

end CodeHighlight.Text

import CodeHighlight.Render.Sweep

/-! # Rendering piece by piece

What a rendering consists of, told without a sweep: the source is cut wherever a capture starts or
stops, and every piece is wrapped in the spans of the captures that cover it.
-/
namespace CodeHighlight.Render

open CodeHighlight.Text CodeHighlight.Markup

def boundaries : List Char → List Nat
  | [] => [0]
  | c :: cs => 0 :: (boundaries cs).map (c.utf8Size + ·)

/-- The greatest boundary that is not beyond an offset. -/
def clamp (source : List Char) (offset : Nat) : Nat :=
  ((boundaries source).filter (· ≤ offset)).foldl max 0

/-- The captures with both ends at boundaries, but for those that no text is left of. -/
def regions (source : List Char) (captures : List Capture) : List Capture :=
  (captures.map fun capture =>
    { capture with
      start := clamp source capture.start
      stop := clamp source capture.stop }).filter fun region => !region.isEmpty

/-- Where the source is cut: at its ends and at those of every region. -/
def cuts (source : List Char) (regions : List Capture) : List Nat :=
  (0 :: byteLength source :: regions.flatMap fun region => [region.start, region.stop]).mergeSort

/-- The stretches between neighbouring cuts. Cuts at one offset leave none. -/
def pieces (source : List Char) (regions : List Capture) : List (Nat × Nat) :=
  let cuts := cuts source regions
  (cuts.zip cuts.tail).filter fun piece => piece.1 < piece.2

/-- The regions over a piece, the outermost first: the one that starts first, and of several that
start at one place the first in the list. -/
def cover (regions : List Capture) (piece : Nat × Nat) : List Capture :=
  (regions.filter fun region => region.start ≤ piece.1 && piece.2 ≤ region.stop).mergeSort
    fun a b => a.start ≤ b.start

/-- The characters of a piece, in a text that begins at `offset`. -/
def pieceText (piece : Nat × Nat) (offset : Nat) : List Char → List Char
  | [] => []
  | c :: cs =>
    (if piece.1 ≤ offset && offset < piece.2 then [c] else [])
      ++ pieceText piece (offset + c.utf8Size) cs

/-- The style of a capture name, if the theme has a color for it. -/
def styleAttribute (theme : Theme) (name : String) : String :=
  match theme.color? name .foreground with
  | some color => " style=\"color: " ++ escape color ++ "\""
  | none => ""

def openTag (theme : Theme) (name : String) : String :=
  "<span class=\"" ++ escape (className name) ++ "\"" ++ styleAttribute theme name ++ ">"

/-- Markup inside the spans of some opening tags, the first one outermost. -/
def nest (content : String) : List String → String
  | [] => content
  | tag :: tags => tag ++ nest content tags ++ "</span>"

end CodeHighlight.Render

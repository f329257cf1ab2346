/-! # Captures

A capture names a stretch of the source. Captures may overlap, nest or repeat.
-/
namespace CodeHighlight

/-- A token class such as `keyword.return` over the bytes from `start` up to `stop`. -/
structure Capture where
  name : String
  start : Nat
  stop : Nat
deriving DecidableEq, Repr

def className (name : String) : String :=
  String.ofList (name.toList.map fun c => if c = '.' then '-' else c)

/-- Names that begin with an underscore are private to a query, and the empty name names nothing. -/
def isHiddenName (name : String) : Bool :=
  match name.toList with
  | [] => true
  | c :: _ => c == '_'

namespace Capture

def isHidden (capture : Capture) : Bool := isHiddenName capture.name

def isEmpty (capture : Capture) : Bool := capture.stop ≤ capture.start

/-- The same capture in a text that has so many bytes more in front. -/
def shift (capture : Capture) (distance : Nat) : Capture :=
  { capture with start := distance + capture.start, stop := distance + capture.stop }

section

variable (capture : Capture) (distance : Nat)

@[simp]
theorem name_shift : (capture.shift distance).name = capture.name := rfl

@[simp]
theorem start_shift : (capture.shift distance).start = distance + capture.start := rfl

@[simp]
theorem stop_shift : (capture.shift distance).stop = distance + capture.stop := rfl

@[simp]
theorem isEmpty_shift : (capture.shift distance).isEmpty = capture.isEmpty := by
  simp [isEmpty]

end

end Capture

end CodeHighlight

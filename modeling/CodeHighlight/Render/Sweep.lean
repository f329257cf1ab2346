import CodeHighlight.Capture
import CodeHighlight.Markup.Escape
import CodeHighlight.Theme.Basic

/-! # Rendering captures as nested spans

One sweep over the places where captures start and stop. Between two such places the text is
wrapped once for each open capture, the one opened first outermost, so captures that cross never
give tags that cross.
-/
namespace CodeHighlight.Render

open CodeHighlight.Text CodeHighlight.Markup

inductive Edge where
  | stop
  | start
deriving DecidableEq, Repr

/-- A capture, known by its place in the list, starts or stops at a boundary. -/
structure Event where
  offset : Nat
  edge : Edge
  index : Nat
deriving DecidableEq, Repr

/-- At one offset all stops come before all starts, so that neighbours do not nest. -/
def Event.le (a b : Event) : Bool :=
  a.offset < b.offset ||
    (a.offset == b.offset && (a.edge == .stop || b.edge == .start))

/-- The two events of a capture, or none if no text is left of it between boundaries. -/
def captureEvents (source : List Char) (capture : Capture) (index : Nat) : List Event :=
  let start := clampOffset source capture.start
  let stop := clampOffset source capture.stop
  if start < stop then [⟨start, .start, index⟩, ⟨stop, .stop, index⟩] else []

/-- All events in sweep order; events that the order does not tell apart keep the list's order. -/
def events (source : List Char) (captures : List Capture) : List Event :=
  (captures.zipIdx.flatMap fun (capture, index) => captureEvents source capture index).mergeSort
    Event.le

/-- How far the text is written, and the captures open there, outermost first. -/
structure State where
  cursor : Nat
  opened : List Nat
deriving DecidableEq, Repr

/-- Text between two neighbouring places, with the captures open over it. -/
structure Run where
  start : Nat
  stop : Nat
  opened : List Nat
deriving DecidableEq, Repr

namespace State

def initial : State := ⟨0, []⟩

/-- The run that ends where the sweep comes to, if there is text in it. -/
def runTo (state : State) (offset : Nat) : List Run :=
  if state.cursor < offset then [⟨state.cursor, offset, state.opened⟩] else []

/-- A stack without the last of the entries for an index. -/
def eraseLast (opened : List Nat) (index : Nat) : List Nat :=
  (opened.reverse.erase index).reverse

/-- A capture that stops need not be the last one opened. -/
def next (state : State) (event : Event) : State where
  cursor := max state.cursor event.offset
  opened :=
    match event.edge with
    | .start => state.opened ++ [event.index]
    | .stop => eraseLast state.opened event.index

end State

def runsFrom (length : Nat) : State → List Event → List Run
  | state, [] => state.runTo length
  | state, event :: rest => state.runTo event.offset ++ runsFrom length (state.next event) rest

def runs (source : List Char) (captures : List Capture) : List Run :=
  runsFrom (byteLength source) .initial (events source captures)

/-- The attributes of a span: its class and, where the theme has one, its color. -/
def spanAttributes (theme : Theme) (name : String) : String :=
  match theme.color? name .foreground with
  | some color =>
    "class=\"" ++ escape (className name) ++ "\" style=\"color: " ++ escape color ++ "\""
  | none => "class=\"" ++ escape (className name) ++ "\""

/-- The attributes for every capture name, made when the name first comes up. A hidden name has
none. -/
def attributeTable (theme : Theme) (captures : List Capture) : Catalog (Option String) :=
  captures.foldl (fun table capture =>
    if table.contains capture.name then table
    else
      table.insert capture.name
        (if capture.isHidden then none else some (spanAttributes theme capture.name))) .empty

def closeTag : String := "</span>"

/-- Text inside the spans of some opening tags, outermost first. -/
def wrap (tags : List String) (text : List Char) : String :=
  appendEscaped (String.join tags) (String.ofList text) ++ String.join (tags.map fun _ => closeTag)

namespace Run

def tags (table : Catalog (Option String)) (captures : List Capture) (run : Run) : List String :=
  run.opened.filterMap fun index =>
    captures[index]?.bind fun capture =>
      (table.get? capture.name).join.map fun attributes => "<span " ++ attributes ++ ">"

def text (source : List Char) (run : Run) : List Char :=
  (slice? source run.start run.stop).getD []

end Run

/-- The source as inline markup under the captures and the colors of the theme. -/
def inline (source : String) (captures : List Capture) (theme : Theme) : String :=
  let table := attributeTable theme captures
  String.join ((runs source.toList captures).map fun run =>
    wrap (run.tags table captures) (run.text source.toList))

end CodeHighlight.Render

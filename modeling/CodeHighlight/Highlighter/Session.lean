import CodeHighlight.Highlighter.Builder

/-! # Sessions

Several highlighters side by side. They share the counts of factory calls, and those that name one
backend share it.
-/
namespace CodeHighlight

structure Session where
  /-- The highlighters, each with the name of its backend if it is shared. -/
  members : List (Option String × Highlighter)
  backends : Catalog Backend
  calls : Calls

namespace Session

def empty : Session := ⟨[], .empty, .empty⟩

/-- Hand what is shared to a highlighter. -/
def lend (session : Session) (backendName : Option String) (highlighter : Highlighter) :
    Highlighter :=
  { highlighter with
    registry := { highlighter.registry with
      calls := session.calls
      backend :=
        (backendName.bind session.backends.get?).getD highlighter.registry.backend } }

/-- Take what is shared back from a highlighter. -/
def collect (session : Session) (backendName : Option String) (highlighter : Highlighter) :
    Session :=
  { session with
    calls := highlighter.registry.calls
    backends :=
      match backendName with
      | some name => session.backends.insert name highlighter.registry.backend
      | none => session.backends }

/-- Add a highlighter; the loaders that it was built with are counted from here on. -/
def add (session : Session) (backendName : Option String) (highlighter : Highlighter) : Session :=
  let calls := highlighter.registry.calls.names.foldl
    (fun calls label => if calls.contains label then calls else calls.insert label 0) session.calls
  let backends :=
    match backendName with
    | some name => if session.backends.contains name then session.backends
      else session.backends.insert name highlighter.registry.backend
    | none => session.backends
  ⟨session.members ++ [(backendName, highlighter)], backends, calls⟩

def perform {α : Type} (session : Session) (index : Nat)
    (action : Highlighter → α × Highlighter) : Option (α × Session) :=
  session.members[index]?.map fun (backendName, highlighter) =>
    let (answer, highlighter) := action (session.lend backendName highlighter)
    (answer, { session.collect backendName highlighter with
      members := session.members.set index (backendName, highlighter) })

end Session

end CodeHighlight

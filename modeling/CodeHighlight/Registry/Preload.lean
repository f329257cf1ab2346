import CodeHighlight.Registry.Concurrent

/-! # Preloading with tasks

To preload is to spawn a task for each registered language, which loads it. The tasks run side by
side and are joined as they finish, in any order, until one of them has failed or none is left. The
tasks that are left after a failure are dropped: each may take some more steps, or none. Loaders
always answer here, so a task never breaks off and every join has an answer to hand on.
-/
namespace CodeHighlight.Registry

/-- The answer of a load that has finished. -/
def Load.answer? (load : Load) : Option (Except Failure LanguageState) :=
  match load.phase with
  | .finished answer => some answer
  | _ => none

/-- A preload under way. -/
structure Preloading where
  tasks : Concurrent
  /-- The tasks that were not joined yet. -/
  waiting : List Nat
  /-- What the joined task that failed answered. -/
  failure? : Option Failure

namespace Preloading

inductive Move where
  | step (index : Nat)
  | join (index : Nat)

def spawn (registry : Registry) : Preloading where
  tasks := ⟨registry, registry.ids.map fun id => ⟨id, .begun, false⟩⟩
  waiting := List.range registry.ids.length
  failure? := none

/-- A task is joined once it has finished, and none is joined after a failure. -/
def next (engine : Engine) (preloading : Preloading) : Move → Preloading
  | .step index => { preloading with tasks := preloading.tasks.next engine (.step index) }
  | .join index =>
    match preloading.failure?, preloading.tasks.loads[index]? >>= Load.answer? with
    | none, some (.ok _) => { preloading with waiting := preloading.waiting.erase index }
    | none, some (.error failure) =>
      { preloading with waiting := preloading.waiting.erase index, failure? := some failure }
    | _, _ => preloading

def run (engine : Engine) (preloading : Preloading) (moves : List Move) : Preloading :=
  moves.foldl (next engine) preloading

/-- What the preload returns, once it does. -/
def answer? (preloading : Preloading) : Option (Except Failure Unit) :=
  match preloading.failure? with
  | some failure => some (.error failure)
  | none => if preloading.waiting.isEmpty then some (.ok ()) else none

/-- The first moves of a schedule. -/
def upTo (schedule : Nat → Move) (time : Nat) : List Move := (List.range time).map schedule

/-- Each of so many tasks gets its turn again and again, and so does its join. -/
def Fair (count : Nat) (schedule : Nat → Move) : Prop :=
  ∀ index < count, ∀ time,
    (∃ later ≥ time, schedule later = .step index) ∧ ∃ later ≥ time, schedule later = .join index

/-- A task runs to its end and is joined. -/
def turn (index : Nat) : List Move := List.replicate 6 (.step index) ++ [.join index]

def inTurn (count : Nat) : List Move := (List.range count).flatMap turn

end Preloading

end CodeHighlight.Registry

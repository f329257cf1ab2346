import CodeHighlight.Registry.Basic

/-! # Loads side by side

The steps of several loads interleave with one another and with registrations. Each step is atomic:
to look at the loaded states, to look at the loaders, to start the backend, to call the loader, to
build the state and to store it. One load by itself does what the registry's own load does.
-/
namespace CodeHighlight.Registry

/-- How far a load has come. -/
inductive Phase where
  /-- Nothing was looked at yet. -/
  | begun
  /-- No state was there. -/
  | missed
  | found (loader : Loader)
  /-- The backend runs. -/
  | ready (loader : Loader)
  | resolved (loader : Loader) (definition : Definition)
  | built (loader : Loader) (language : LanguageState)
  | finished (answer : Except Failure LanguageState)

structure Load where
  id : String
  phase : Phase
  /-- The loader was called. -/
  called : Bool

/-- A registry and the loads that were begun on it, the earliest first. -/
structure Concurrent where
  registry : Registry
  loads : List Load

/-- What may happen next: a registration, a new load, or one step of a load. -/
inductive Move where
  | register (id : String) (loader : Loader)
  | begin (id : String)
  | step (index : Nat)

/-- One step of a load. A failure leaves the states alone. -/
def Load.step (engine : Engine) (registry : Registry) (load : Load) : Load × Registry :=
  match load.phase with
  | .begun =>
    match registry.states.get? load.id with
    | some state => ({ load with phase := .finished (.ok state) }, registry)
    | none => ({ load with phase := .missed }, registry)
  | .missed =>
    match registry.loaders.get? load.id with
    | some loader => ({ load with phase := .found loader }, registry)
    | none => ({ load with phase := .finished (.error (.unknownLanguage load.id)) }, registry)
  | .found loader => ({ load with phase := .ready loader }, registry.ensureReady)
  | .ready loader =>
    let (definition, calls) := loader.resolve registry.calls
    let registry := { registry with calls }
    match definition with
    | .ok definition =>
      ({ load with phase := .resolved loader definition, called := true }, registry)
    | .error failure =>
      ({ load with phase := .finished (.error failure), called := true }, registry)
  | .resolved loader definition =>
    match buildState engine load.id definition with
    | .ok state => ({ load with phase := .built loader state }, registry)
    | .error failure => ({ load with phase := .finished (.error failure) }, registry)
  | .built _ state =>
    ({ load with phase := .finished (.ok state) },
      { registry with states := registry.states.insert load.id state })
  | .finished _ => (load, registry)

namespace Concurrent

def ofRegistry (registry : Registry) : Concurrent := ⟨registry, []⟩

def next (engine : Engine) (state : Concurrent) : Move → Concurrent
  | .register id loader => { state with registry := state.registry.register id loader }
  | .begin id => { state with loads := state.loads ++ [⟨id, .begun, false⟩] }
  | .step index =>
    match state.loads[index]? with
    | some load =>
      let (load, registry) := load.step engine state.registry
      ⟨registry, state.loads.set index load⟩
    | none => state

def run (engine : Engine) (state : Concurrent) (moves : List Move) : Concurrent :=
  moves.foldl (next engine) state

def registered (id : String) (moves : List Move) : List Loader :=
  moves.filterMap fun
    | .register name loader => if name = id then some loader else none
    | _ => none

/-- At some moment of the run a loader that had been registered under the id gave the definition. -/
def Produced (engine : Engine) (start : Concurrent) (moves : List Move) (id : String)
    (definition : Definition) : Prop :=
  ∃ earlier later loader, moves = earlier ++ later ∧ loader ∈ registered id earlier ∧
    (loader.resolve (run engine start earlier).registry.calls).1 = .ok definition

/-- The state is one that such a definition makes under the id. -/
def Built (engine : Engine) (start : Concurrent) (moves : List Move) (id : String)
    (state : LanguageState) : Prop :=
  ∃ definition, Produced engine start moves id definition ∧
    buildState engine id definition = .ok state

end Concurrent

end CodeHighlight.Registry

import Mathlib.Data.List.Induction
import CodeHighlight.Proofs.Registry.Loading
import CodeHighlight.Registry.Concurrent

/-! # Loads side by side are safe

However the steps of loads and registrations interleave, the backend starts once, a language that is
loaded stays loaded, and every state comes from a loader that was registered for it. Two first loads
of one language may both build it; a load that begins after one has succeeded calls no loader. -/
namespace CodeHighlight

namespace Registry

variable {engine : Engine} {registry registry' : Registry} {load load' : Load} {id : String}

/-! ## One step of a load -/

/-- What one step may make of a load and of the registry. -/
inductive Load.Step (engine : Engine) (registry : Registry) : Load → Load → Registry → Prop where
  | hit {id called state} (h : registry.states.get? id = some state) :
    Step engine registry ⟨id, .begun, called⟩ ⟨id, .finished (.ok state), called⟩ registry
  | miss {id called} (h : registry.states.get? id = none) :
    Step engine registry ⟨id, .begun, called⟩ ⟨id, .missed, called⟩ registry
  | find {id called loader} (h : registry.loaders.get? id = some loader) :
    Step engine registry ⟨id, .missed, called⟩ ⟨id, .found loader, called⟩ registry
  | unknown {id called} (h : registry.loaders.get? id = none) :
    Step engine registry ⟨id, .missed, called⟩
      ⟨id, .finished (.error (.unknownLanguage id)), called⟩ registry
  | start {id called loader} :
    Step engine registry ⟨id, .found loader, called⟩ ⟨id, .ready loader, called⟩
      registry.ensureReady
  | resolve {id called loader definition}
    (h : (loader.resolve registry.calls).1 = .ok definition) :
    Step engine registry ⟨id, .ready loader, called⟩ ⟨id, .resolved loader definition, true⟩
      { registry with calls := (loader.resolve registry.calls).2 }
  | refuse {id called loader failure} (h : (loader.resolve registry.calls).1 = .error failure) :
    Step engine registry ⟨id, .ready loader, called⟩ ⟨id, .finished (.error failure), true⟩
      { registry with calls := (loader.resolve registry.calls).2 }
  | build {id called loader definition state} (h : buildState engine id definition = .ok state) :
    Step engine registry ⟨id, .resolved loader definition, called⟩ ⟨id, .built loader state, called⟩
      registry
  | reject {id called loader definition failure}
    (h : buildState engine id definition = .error failure) :
    Step engine registry ⟨id, .resolved loader definition, called⟩
      ⟨id, .finished (.error failure), called⟩ registry
  | store {id called loader state} :
    Step engine registry ⟨id, .built loader state, called⟩ ⟨id, .finished (.ok state), called⟩
      { registry with states := registry.states.insert id state }
  | rest {id called answer} :
    Step engine registry ⟨id, .finished answer, called⟩ ⟨id, .finished answer, called⟩ registry

namespace Load

theorem step_sound (engine : Engine) (registry : Registry) (load : Load) :
    Step engine registry load (load.step engine registry).1 (load.step engine registry).2 := by
  obtain ⟨id, phase, called⟩ := load
  cases phase with
  | begun =>
    simp only [step]
    cases h : registry.states.get? id with
    | some state => exact .hit h
    | none => exact .miss h
  | missed =>
    simp only [step]
    cases h : registry.loaders.get? id with
    | some loader => exact .find h
    | none => exact .unknown h
  | found loader => exact .start
  | ready loader =>
    simp only [step]
    cases h : (loader.resolve registry.calls).1 with
    | ok definition => exact .resolve h
    | error failure => exact .refuse h
  | resolved loader definition =>
    simp only [step]
    cases h : buildState engine id definition with
    | ok state => exact .build h
    | error failure => exact .reject h
  | built loader state => exact .store
  | finished answer => exact .rest

/-- The steps are all there are: a load takes the one that fits its phase. -/
theorem Step.eq (h : Step engine registry load load' registry') :
    load.step engine registry = (load', registry') := by
  cases h with
  | hit h | miss h | find h | unknown h | resolve h | refuse h | build h | reject h =>
    simp only [step, h]
  | start | store | rest => rfl

/-! ### What a step keeps -/

theorem Step.id_eq (h : Step engine registry load load' registry') : load'.id = load.id := by
  cases h <;> rfl

theorem Step.loaders_eq (h : Step engine registry load load' registry') :
    registry'.loaders = registry.loaders := by
  cases h <;> rfl

theorem Step.isReady (h : Step engine registry load load' registry')
    (hready : registry.backend.isReady = true) : registry'.backend.isReady = true := by
  cases h with
  | start => exact Backend.isReady_ensureReady _
  | _ => exact hready

theorem Step.starts_le (h : Step engine registry load load' registry')
    (hstarts : registry.backend.starts ≤ 1) : registry'.backend.starts ≤ 1 := by
  cases h with
  | start => exact Backend.starts_ensureReady_le hstarts
  | _ => exact hstarts

/-- A state that is filed after a step was filed before, or the load has just built it. -/
theorem Step.states (h : Step engine registry load load' registry') {name : String}
    {state : LanguageState} (hstate : registry'.states.get? name = some state) :
    registry.states.get? name = some state ∨
      name = load.id ∧ ∃ loader, load.phase = .built loader state := by
  cases h with
  | @store id called loader built =>
    simp only [Catalog.get?_insert] at hstate
    split at hstate
    · rename_i hname
      cases hstate
      exact Or.inr ⟨hname, loader, rfl⟩
    · exact Or.inl hstate
  | _ => exact Or.inl hstate

theorem Step.isLoaded (h : Step engine registry load load' registry')
    (hloaded : registry.isLoaded id = true) : registry'.isLoaded id = true := by
  cases h with
  | @store name called loader built =>
    simp only [Registry.isLoaded, Catalog.contains, Catalog.get?_insert] at hloaded ⊢
    split
    · rfl
    · exact hloaded
  | _ => exact hloaded

end Load

/-! ## Where definitions and states come from -/

namespace Concurrent

variable {start : Concurrent} {moves : List Move}

theorem run_append (engine : Engine) (start : Concurrent) (moves more : List Move) :
    run engine start (moves ++ more) = run engine (run engine start moves) more :=
  List.foldl_append

theorem run_cons (engine : Engine) (start : Concurrent) (move : Move) (moves : List Move) :
    run engine start (move :: moves) = run engine (next engine start move) moves := rfl

theorem run_append_singleton (engine : Engine) (start : Concurrent) (moves : List Move)
    (move : Move) :
    run engine start (moves ++ [move]) = next engine (run engine start moves) move :=
  run_append engine start moves [move]

theorem registered_append (id : String) (moves more : List Move) :
    registered id (moves ++ more) = registered id moves ++ registered id more :=
  List.filterMap_append

theorem mem_registered_append {loader : Loader} (h : loader ∈ registered id moves)
    (more : List Move) : loader ∈ registered id (moves ++ more) := by
  rw [registered_append]
  exact List.mem_append_left _ h

theorem Produced.append {definition : Definition}
    (h : Produced engine start moves id definition) (more : List Move) :
    Produced engine start (moves ++ more) id definition := by
  obtain ⟨earlier, later, loader, rfl, hloader, hresolve⟩ := h
  exact ⟨earlier, later ++ more, loader, List.append_assoc _ _ _, hloader, hresolve⟩

theorem Built.append {state : LanguageState} (h : Built engine start moves id state)
    (more : List Move) : Built engine start (moves ++ more) id state := by
  obtain ⟨definition, hproduced, hbuild⟩ := h
  exact ⟨definition, hproduced.append more, hbuild⟩

theorem Built.id_eq {state : LanguageState} (h : Built engine start moves id state) :
    state.id = id := by
  obtain ⟨definition, -, hbuild⟩ := h
  exact id_of_buildState hbuild

end Concurrent

open Concurrent

namespace Load

variable {start : Concurrent} {moves : List Move}

/-- What a load holds was come by rightly, and what its phase takes for granted is there. -/
def Sound (engine : Engine) (start : Concurrent) (moves : List Move) (registry : Registry)
    (load : Load) : Prop :=
  match load.phase with
  | .begun | .missed | .finished (.error _) => True
  | .found loader => loader ∈ registered load.id moves
  | .ready loader => loader ∈ registered load.id moves ∧ registry.backend.isReady = true
  | .resolved _ definition =>
    Produced engine start moves load.id definition ∧ registry.backend.isReady = true
  | .built _ state => Built engine start moves load.id state ∧ registry.backend.isReady = true
  | .finished (.ok state) =>
    Built engine start moves load.id state ∧ registry.isLoaded load.id = true

/-- Other moves do not harm a load, as the backend keeps running and languages stay loaded. -/
theorem Sound.mono (h : load.Sound engine start moves registry)
    (hready : registry.backend.isReady = true → registry'.backend.isReady = true)
    (hloaded : registry.isLoaded load.id = true → registry'.isLoaded load.id = true)
    (more : List Move) : load.Sound engine start (moves ++ more) registry' := by
  obtain ⟨id, phase, called⟩ := load
  cases phase with
  | begun | missed => trivial
  | found loader => exact mem_registered_append h more
  | ready loader => exact ⟨mem_registered_append h.1 more, hready h.2⟩
  | resolved loader definition => exact ⟨h.1.append more, hready h.2⟩
  | built loader state => exact ⟨h.1.append more, hready h.2⟩
  | finished answer =>
    cases answer with
    | ok state => exact ⟨h.1.append more, hloaded h.2⟩
    | error failure => trivial

theorem Sound.append (h : load.Sound engine start moves registry) (more : List Move) :
    load.Sound engine start (moves ++ more) registry :=
  h.mono (fun hready => hready) (fun hloaded => hloaded) more

theorem Sound.of_built {loader : Loader} {state : LanguageState}
    (h : load.Sound engine start moves registry) (hphase : load.phase = .built loader state) :
    Built engine start moves load.id state ∧ registry.backend.isReady = true := by
  rw [Sound, hphase] at h
  exact h

theorem Sound.of_finished {state : LanguageState}
    (h : load.Sound engine start moves registry) (hphase : load.phase = .finished (.ok state)) :
    Built engine start moves load.id state ∧ registry.isLoaded load.id = true := by
  rw [Sound, hphase] at h
  exact h

end Load

/-! ### The registry -/

/-- The backend was started at most once, and what is filed was come by rightly. -/
structure Sound (engine : Engine) (start : Concurrent) (moves : List Move) (registry : Registry) :
    Prop where
  starts_le : registry.backend.starts ≤ 1
  registered : ∀ id loader, registry.loaders.get? id = some loader → loader ∈ registered id moves
  built : ∀ id state, registry.states.get? id = some state →
    Built engine start moves id state ∧ registry.backend.isReady = true

variable {start : Concurrent} {moves : List Move}

theorem Sound.append (h : registry.Sound engine start moves) (more : List Move) :
    registry.Sound engine start (moves ++ more) where
  starts_le := h.starts_le
  registered name loader hloader := mem_registered_append (h.registered name loader hloader) more
  built name state hstate := by
    obtain ⟨hbuilt, hready⟩ := h.built name state hstate
    exact ⟨hbuilt.append more, hready⟩

theorem Sound.register (h : registry.Sound engine start moves) (id : String) (loader : Loader) :
    (registry.register id loader).Sound engine start (moves ++ [.register id loader]) where
  starts_le := h.starts_le
  registered name other hother := by
    simp only [Registry.register, Catalog.get?_insert] at hother
    split at hother
    · rename_i hname
      cases hother
      rw [registered_append]
      simp [Concurrent.registered, hname]
    · exact mem_registered_append (h.registered name other hother) _
  built name state hstate := (h.append _).built name state hstate

/-- A step of a sound load files nothing but what the load built. -/
theorem Sound.step (h : registry.Sound engine start moves)
    (hsound : load.Sound engine start moves registry)
    (hstep : Load.Step engine registry load load' registry') :
    registry'.Sound engine start moves where
  starts_le := hstep.starts_le h.starts_le
  registered name loader hloader := by
    rw [hstep.loaders_eq] at hloader
    exact h.registered name loader hloader
  built name state hstate := by
    rcases hstep.states hstate with hold | ⟨rfl, loader, hphase⟩
    · obtain ⟨hbuilt, hready⟩ := h.built name state hold
      exact ⟨hbuilt, hstep.isReady hready⟩
    · obtain ⟨hbuilt, hready⟩ := hsound.of_built hphase
      exact ⟨hbuilt, hstep.isReady hready⟩

/-- A load stays sound by its own step. What it looks up in the registry was come by rightly, and
what it resolves is resolved at this moment. -/
theorem Load.Step.sound (hstep : Load.Step engine registry load load' registry')
    (hsound : load.Sound engine start moves registry) (h : registry.Sound engine start moves)
    (hnow : (run engine start moves).registry = registry) :
    load'.Sound engine start moves registry' := by
  cases hstep with
  | hit hstate => exact ⟨(h.built _ _ hstate).1, Option.isSome_iff_exists.mpr ⟨_, hstate⟩⟩
  | miss | unknown | refuse | reject => trivial
  | find hloader => exact h.registered _ _ hloader
  | start => exact ⟨hsound, Backend.isReady_ensureReady _⟩
  | resolve hresolve => exact ⟨⟨moves, [], _, by simp, hsound.1, hnow ▸ hresolve⟩, hsound.2⟩
  | build hbuild => exact ⟨⟨_, hsound.1, hbuild⟩, hsound.2⟩
  | store => exact ⟨hsound.1, by simp [Registry.isLoaded, Catalog.contains]⟩
  | rest => exact hsound

/-! ## Loads of loaded languages -/

/-- The language is loaded, and the load has found it so or is still to look. -/
structure Load.Served (registry : Registry) (load : Load) : Prop where
  loaded : registry.isLoaded load.id = true
  uncalled : load.called = false
  phase : load.phase = .begun ∨ ∃ state, load.phase = .finished (.ok state)

/-- One step is all that such a load takes, and it leaves the registry as it is. -/
theorem Load.Step.served (h : Load.Step engine registry load load' registry')
    (hserved : load.Served registry) :
    registry' = registry ∧ load'.called = false ∧
      ∃ state, load'.phase = .finished (.ok state) := by
  obtain ⟨hloaded, hcalled, hphase⟩ := hserved
  rcases hphase with hphase | ⟨state, hphase⟩
  · cases h with
    | hit => exact ⟨rfl, hcalled, _, rfl⟩
    | miss hnone =>
      rw [isLoaded_eq_false.mpr hnone] at hloaded
      cases hloaded
    | _ => cases hphase
  · cases h with
    | rest => exact ⟨rfl, hcalled, state, hphase⟩
    | _ => cases hphase

/-! ## Runs -/

namespace Concurrent

variable {state : Concurrent} {index : Nat}

/-- A step is one of a load that was begun, or it does nothing. -/
theorem next_step_cases (engine : Engine) (state : Concurrent) (index : Nat) :
    next engine state (.step index) = state ∨
      ∃ load load' registry', state.loads[index]? = some load ∧
        Load.Step engine state.registry load load' registry' ∧
        next engine state (.step index) = ⟨registry', state.loads.set index load'⟩ := by
  cases hload : state.loads[index]? with
  | none =>
    rw [next, hload]
    exact Or.inl rfl
  | some load =>
    rw [next, hload]
    exact Or.inr ⟨load, _, _, rfl, load.step_sound engine state.registry, rfl⟩

theorem isLoaded_next (engine : Engine) (move : Move)
    (h : state.registry.isLoaded id = true) :
    (next engine state move).registry.isLoaded id = true := by
  cases move with
  | register name loader => exact h
  | begin name => exact h
  | step index =>
    rcases next_step_cases engine state index with heq | ⟨load, load', registry', -, hstep, heq⟩
    · rw [heq]
      exact h
    · rw [heq]
      exact hstep.isLoaded h

/-- A language that is loaded stays loaded. -/
theorem isLoaded_run (engine : Engine) (h : state.registry.isLoaded id = true)
    (moves : List Move) : (run engine state moves).registry.isLoaded id = true := by
  induction moves using List.reverseRecOn with
  | nil => exact h
  | append_singleton moves move ih =>
    rw [run_append_singleton]
    exact isLoaded_next engine move ih

/-- What holds of all there is after the moves. -/
structure Sound (state : Concurrent) (engine : Engine) (start : Concurrent) (moves : List Move) :
    Prop where
  registry : state.registry.Sound engine start moves
  loads : ∀ load ∈ state.loads, load.Sound engine start moves state.registry

theorem Sound.append (h : state.Sound engine start moves) (more : List Move) :
    state.Sound engine start (moves ++ more) where
  registry := h.registry.append more
  loads load hload := (h.loads load hload).append more

theorem Sound.step (h : (run engine start moves).Sound engine start moves) (index : Nat) :
    (next engine (run engine start moves) (.step index)).Sound engine start
      (moves ++ [.step index]) := by
  rcases next_step_cases engine (run engine start moves) index with
    heq | ⟨load, load', registry', hindex, hstep, heq⟩
  · rw [heq]
    exact h.append _
  · rw [heq]
    have hsound := h.loads load (List.mem_of_getElem? hindex)
    refine ⟨(h.registry.step hsound hstep).append _, ?_⟩
    intro other hother
    rcases List.mem_or_eq_of_mem_set hother with hother | rfl
    · exact (h.loads other hother).mono hstep.isReady hstep.isLoaded _
    · exact (hstep.sound hsound h.registry rfl).append _

theorem Sound.next (h : (run engine start moves).Sound engine start moves) (move : Move) :
    (next engine (run engine start moves) move).Sound engine start (moves ++ [move]) := by
  cases move with
  | register id loader => exact ⟨h.registry.register id loader, (h.append _).loads⟩
  | begin id =>
    refine ⟨h.registry.append _, ?_⟩
    intro load hload
    rcases List.mem_append.mp hload with hload | hload
    · exact (h.append _).loads load hload
    · obtain rfl := List.mem_singleton.mp hload
      trivial
  | step index => exact h.step index

/-- From a registry where nothing is filed yet, on a backend that was started at most once. -/
theorem sound_run (engine : Engine) {backend : Backend} (h : backend.starts ≤ 1) (calls : Calls)
    (moves : List Move) :
    (run engine (ofRegistry ⟨.empty, .empty, backend, calls⟩) moves).Sound engine
      (ofRegistry ⟨.empty, .empty, backend, calls⟩) moves := by
  -- What may be held grows with the moves, so the last move is split off and not the first.
  induction moves using List.reverseRecOn with
  | nil =>
    refine ⟨⟨h, ?_, ?_⟩, ?_⟩
    · intro id loader hloader
      cases hloader
    · intro id state hstate
      cases hstate
    · intro load hload
      cases hload
  | append_singleton moves move ih =>
    rw [run_append_singleton]
    exact ih.next move

theorem served_next (engine : Engine) (move : Move) (hindex : state.loads[index]? = some load)
    (hserved : load.Served state.registry) :
    ∃ load', (next engine state move).loads[index]? = some load' ∧ load'.id = load.id ∧
      load'.Served (next engine state move).registry := by
  have hloaded := isLoaded_next engine move hserved.loaded
  obtain ⟨hlt, -⟩ := List.getElem?_eq_some_iff.mp hindex
  cases move with
  | register id loader => exact ⟨load, hindex, rfl, hloaded, hserved.uncalled, hserved.phase⟩
  | begin id =>
    refine ⟨load, ?_, rfl, hloaded, hserved.uncalled, hserved.phase⟩
    rw [← hindex]
    exact List.getElem?_append_left hlt
  | step other =>
    rcases next_step_cases engine state other with
      heq | ⟨moved, moved', registry', hother, hstep, heq⟩
    · rw [heq]
      exact ⟨load, hindex, rfl, hserved⟩
    · rw [heq] at hloaded ⊢
      by_cases hne : other = index
      · subst hne
        rw [hindex] at hother
        obtain rfl := Option.some.inj hother
        obtain ⟨-, hcalled, hphase⟩ := hstep.served hserved
        refine ⟨moved', List.getElem?_set_self hlt, hstep.id_eq, ?_, hcalled, Or.inr hphase⟩
        rw [hstep.id_eq]
        exact hloaded
      · exact ⟨load, by simp [hne, hindex], rfl, hloaded, hserved.uncalled,
          hserved.phase⟩

theorem served_run (engine : Engine) (hindex : state.loads[index]? = some load)
    (hserved : load.Served state.registry) (moves : List Move) :
    ∃ load', (run engine state moves).loads[index]? = some load' ∧ load'.id = load.id ∧
      load'.Served (run engine state moves).registry := by
  induction moves using List.reverseRecOn with
  | nil => exact ⟨load, hindex, rfl, hserved⟩
  | append_singleton moves move ih =>
    obtain ⟨load', hindex', hid, hserved'⟩ := ih
    rw [run_append_singleton, ← hid]
    exact served_next engine move hindex' hserved'

/-! ## A load by itself -/

theorem run_step_last {loads : List Load} (h : Load.Step engine registry load load' registry')
    (count : Nat) :
    run engine ⟨registry, loads ++ [load]⟩ (List.replicate (count + 1) (.step loads.length)) =
      run engine ⟨registry', loads ++ [load']⟩ (List.replicate count (.step loads.length)) := by
  rw [List.replicate_succ, run_cons, next]
  simp [h.eq]

theorem run_finished_last (engine : Engine) (registry : Registry) (loads : List Load) (id : String)
    (answer : Except Failure LanguageState) (called : Bool) (count : Nat) :
    run engine ⟨registry, loads ++ [⟨id, .finished answer, called⟩]⟩
        (List.replicate count (.step loads.length)) =
      ⟨registry, loads ++ [⟨id, .finished answer, called⟩]⟩ := by
  induction count with
  | zero => rfl
  | succ count ih => rw [run_step_last .rest, ih]

/-- A load that takes its steps while nothing else happens does what the registry's load does. -/
theorem run_alone (engine : Engine) (state : Concurrent) (id : String) :
    ∃ called,
      run engine state (.begin id :: List.replicate 6 (.step state.loads.length)) =
        ⟨(state.registry.load engine id).2,
          state.loads ++ [⟨id, .finished (state.registry.load engine id).1, called⟩]⟩ := by
  obtain ⟨registry, loads⟩ := state
  rw [run_cons, next]
  cases hstate : registry.states.get? id with
  | some state =>
    rw [load_of_loaded hstate]
    refine ⟨false, ?_⟩
    rw [run_step_last (.hit hstate), run_finished_last]
  | none =>
    rw [run_step_last (.miss hstate)]
    cases hloader : registry.loaders.get? id with
    | none =>
      rw [load_of_unknown hstate hloader]
      refine ⟨false, ?_⟩
      rw [run_step_last (.unknown hloader), run_finished_last]
    | some loader =>
      rw [load_of_registered hstate hloader, run_step_last (.find hloader), run_step_last .start]
      refine ⟨true, ?_⟩
      cases hresolve : (loader.resolve registry.calls).1 with
      | error failure =>
        have hrefuse : (loader.resolve registry.ensureReady.calls).1 = .error failure := hresolve
        rw [run_step_last (.refuse hrefuse), run_finished_last]
        rfl
      | ok definition =>
        have hgive : (loader.resolve registry.ensureReady.calls).1 = .ok definition := hresolve
        rw [run_step_last (.resolve hgive)]
        cases hbuild : buildState engine id definition with
        | error failure =>
          have hanswer : (.ok definition >>= buildState engine id) = .error failure := hbuild
          rw [run_step_last (.reject hbuild), run_finished_last, hanswer]
          rfl
        | ok state =>
          have hanswer : (.ok definition >>= buildState engine id) = .ok state := hbuild
          rw [run_step_last (.build hbuild), run_step_last .store, hanswer]
          rfl

/-! ## Loads side by side -/

/-- Loads may interleave with one another and with registrations in any order. The backend starts
once, and has started where a language is loaded. What is loaded stays loaded. A load that succeeds
answers with a state of its id, built from what a loader gave that had been registered for it. A
load that begins after one of its language has succeeded takes one step, and neither it nor that
step calls a loader. -/
theorem interleaved_loads_sound (engine : Engine) {backend : Backend} (h : backend.starts ≤ 1)
    (calls : Calls) (moves : List Move) :
    let start := ofRegistry ⟨.empty, .empty, backend, calls⟩
    let now := run engine start moves
    now.registry.backend.starts ≤ 1 ∧
    (∀ id, now.registry.isLoaded id = true → now.registry.backend.starts = 1) ∧
    (∀ id more, now.registry.isLoaded id = true →
      (run engine start (moves ++ more)).registry.isLoaded id = true) ∧
    (∀ load ∈ now.loads, ∀ state, load.phase = .finished (.ok state) →
      state.id = load.id ∧ Built engine start moves load.id state) ∧
    (∀ earlier id later, moves = earlier ++ .begin id :: later →
      (∃ load ∈ (run engine start earlier).loads, load.id = id ∧
        ∃ state, load.phase = .finished (.ok state)) →
      ∃ load, now.loads[(run engine start earlier).loads.length]? = some load ∧
        load.id = id ∧ load.called = false ∧
        let after := load.step engine now.registry
        after.2 = now.registry ∧ after.1.called = false ∧
          ∃ state, after.1.phase = .finished (.ok state)) := by
  intro start now
  have hsound := sound_run engine h calls moves
  refine ⟨hsound.registry.starts_le, ?_, ?_, ?_, ?_⟩
  · intro id hloaded
    obtain ⟨state, hstate⟩ := Option.isSome_iff_exists.mp hloaded
    have hpos := Backend.isReady_iff.mp (hsound.registry.built id state hstate).2
    exact Nat.le_antisymm hsound.registry.starts_le hpos
  · intro id more hloaded
    rw [run_append]
    exact isLoaded_run engine hloaded more
  · intro load hload state hphase
    have hbuilt := ((hsound.loads load hload).of_finished hphase).1
    exact ⟨hbuilt.id_eq, hbuilt⟩
  · rintro earlier id later hmoves ⟨winner, hwinner, rfl, state, hphase⟩
    have hloaded := (((sound_run engine h calls earlier).loads winner hwinner).of_finished hphase).2
    -- The load as it is begun, and whatever comes after.
    have hbegun : Load.Served
        (next engine (run engine start earlier) (.begin winner.id)).registry
        ⟨winner.id, .begun, false⟩ := ⟨hloaded, rfl, Or.inl rfl⟩
    obtain ⟨load, hindex, hid, hserved⟩ :=
      served_run engine List.getElem?_concat_length hbegun later
    rw [← run_cons, ← run_append, ← hmoves] at hindex hserved
    exact ⟨load, hindex, hid, hserved.uncalled,
      (load.step_sound engine now.registry).served hserved⟩

namespace Race

def accepting : Engine where
  refusal := fun _ => none
  compileQuery := fun _ _ => .ok []
  captures := fun _ _ _ _ => none
  download := fun _ => none

/-- The second load overtakes the first one after another loader was registered, and both build. -/
def course : List Move :=
  [.register "a" (.value (Definition.builtin .go)), .begin "a", .step 0, .step 0,
    .register "a" (.value (Definition.builtin .c)), .begin "a"] ++
  List.replicate 6 (.step 1) ++ List.replicate 4 (.step 0)

def fresh : Concurrent := ofRegistry ⟨.empty, .empty, .idle, .empty⟩

def finish : Concurrent := run accepting fresh (course ++ [.begin "a"])

def first : LanguageState := ⟨"a", .go, .layers [.goHighlights], []⟩

def second : LanguageState := ⟨"a", .c, .layers [.cHighlight], []⟩

end Race

/-- The loads of the race build two states from registered loaders, and a third load calls none. -/
theorem interleaved_loads_sound_of_race :
    Backend.idle.starts ≤ 1 ∧ Race.finish.registry.backend.starts = 1 ∧
      Built Race.accepting Race.fresh (Race.course ++ [.begin "a"]) "a" Race.first ∧
      Built Race.accepting Race.fresh (Race.course ++ [.begin "a"]) "a" Race.second ∧
      ∃ load, Race.finish.loads[2]? = some load ∧ load.called = false := by
  have hidle : Backend.idle.starts ≤ 1 := by decide
  obtain ⟨-, hstarts, -, hbuilt, hlate⟩ :=
    interleaved_loads_sound Race.accepting hidle .empty (Race.course ++ [.begin "a"])
  have hfirst : Race.finish.loads[0]? = some ⟨"a", .finished (.ok Race.first), true⟩ := rfl
  have hsecond : Race.finish.loads[1]? = some ⟨"a", .finished (.ok Race.second), true⟩ := rfl
  refine ⟨hidle, hstarts "a" rfl, (hbuilt _ (List.mem_of_getElem? hfirst) _ rfl).2,
    (hbuilt _ (List.mem_of_getElem? hsecond) _ rfl).2, ?_⟩
  have hwon : (run Race.accepting Race.fresh Race.course).loads[0]? =
      some ⟨"a", .finished (.ok Race.first), true⟩ := rfl
  obtain ⟨load, hindex, -, hcalled, -⟩ :=
    hlate Race.course "a" [] rfl ⟨_, List.mem_of_getElem? hwon, rfl, _, rfl⟩
  exact ⟨load, hindex, hcalled⟩

end Concurrent

end Registry

end CodeHighlight

import CodeHighlight.Proofs.Registry.Independence

/-! # What a load comes to among others

The steps of a load that goes on by itself lead to one outcome, which none of them changes. Steps of
loads of other languages do not change it either, as long as no factory is called for both. So loads
that run side by side answer what each would have answered by itself. -/
namespace CodeHighlight.Registry

variable {engine : Engine} {start registry registry' : Registry} {load load' : Load}
variable {id : String}

namespace Load

/-- The loader that the load has found. -/
def loader? (load : Load) : Option Loader :=
  match load.phase with
  | .found loader | .ready loader | .resolved loader _ | .built loader _ => some loader
  | .begun | .missed | .finished _ => none

/-- What the load would answer if it went on by itself. -/
def outcome (engine : Engine) (registry : Registry) (load : Load) :
    Except Failure LanguageState :=
  match load.phase with
  | .begun => (registry.load engine load.id).1
  | .missed =>
    match registry.loaders.get? load.id with
    | none => .error (.unknownLanguage load.id)
    | some loader => (loader.resolve registry.calls).1 >>= buildState engine load.id
  | .found loader | .ready loader =>
    (loader.resolve registry.calls).1 >>= buildState engine load.id
  | .resolved _ definition => buildState engine load.id definition
  | .built _ state => .ok state
  | .finished answer => answer

theorem Step.outcome_eq (h : Step engine registry load load' registry') :
    load'.outcome engine registry' = load.outcome engine registry := by
  cases h with
  | hit hstate => simp only [outcome, load_of_loaded hstate]
  | @miss id called hstate =>
    simp only [outcome]
    rw [load_answer, hstate]
    cases registry.loaders.get? id <;> rfl
  | find hloader => simp only [outcome, hloader]
  | unknown hloader => simp only [outcome, hloader]
  | start => rfl
  | resolve hresolve =>
    simp only [outcome, hresolve]
    rfl
  | refuse hresolve =>
    simp only [outcome, hresolve]
    rfl
  | build hbuild => simp only [outcome, hbuild]
  | reject hbuild => simp only [outcome, hbuild]
  | store => rfl
  | rest => rfl

/-! ## Steps of other loads -/

/-- A load looks at nothing but its language. -/
theorem outcome_of_sameFor (h : registry.SameFor registry' load.id)
    (hheld : ∀ loader, load.loader? = some loader → registry.loaders.get? load.id = some loader) :
    load.outcome engine registry' = load.outcome engine registry := by
  obtain ⟨id, phase, called⟩ := load
  cases phase with
  | begun => exact h.load_answer
  | missed =>
    have hloaders : registry'.loaders.get? id = registry.loaders.get? id := h.loaders
    simp only [outcome, hloaders]
    cases hloader : registry.loaders.get? id with
    | none => rfl
    | some loader =>
      dsimp only
      rw [(h.counts loader hloader).resolve_answer]
  | found loader | ready loader =>
    simp only [outcome]
    rw [(h.counts loader (hheld loader rfl)).resolve_answer]
  | resolved loader definition => rfl
  | built loader state => rfl
  | finished answer => rfl

/-- A step shows to its own language only, but for the calls. -/
theorem Step.sameFor (h : Step engine registry load load' registry')
    (hheld : ∀ loader, load.loader? = some loader → registry.loaders.get? load.id = some loader)
    (hne : id ≠ load.id) (hapart : registry.LoadersApart load.id id) :
    registry.SameFor registry' id := by
  cases h with
  | @resolve _ called loader | @refuse _ called loader =>
    refine ⟨rfl, rfl, fun other hother => ?_⟩
    exact (hapart loader other (hheld loader rfl) hother).sameCounts registry.calls
  | store => exact ⟨Catalog.get?_insert_of_ne _ _ hne, rfl, fun _ _ _ _ => rfl⟩
  | _ => exact ⟨rfl, rfl, fun _ _ _ _ => rfl⟩

/-! ## Loads on course -/

/-- The load has seen that its language was not loaded. -/
def Missed (load : Load) : Prop :=
  load.called = true ∨
    match load.phase with
    | .begun | .finished _ => False
    | .missed | .found _ | .ready _ | .resolved _ _ | .built _ _ => True

/-- The state that the language has while the load is this far. -/
def state? (start : Registry) (load : Load) : Option LanguageState :=
  match load.phase with
  | .begun => start.states.get? load.id
  | .finished answer => answer.toOption
  | .missed | .found _ | .ready _ | .resolved _ _ | .built _ _ => none

/-- The load is on the way to what its language would have answered at the start. -/
structure OnCourse (engine : Engine) (start registry : Registry) (load : Load) : Prop where
  loaders : registry.loaders.get? load.id = start.loaders.get? load.id
  held : ∀ loader, load.loader? = some loader → registry.loaders.get? load.id = some loader
  outcome : load.outcome engine registry = (start.load engine load.id).1
  state : registry.states.get? load.id = load.state? start
  missed : load.Missed → start.states.get? load.id = none
  uncalled : load.called = false → ∀ loader, start.loaders.get? load.id = some loader →
    loader.SameCounts start.calls registry.calls

/-- Loads begin on course. -/
theorem onCourse_begun (engine : Engine) (start : Registry) (id : String) :
    OnCourse engine start start ⟨id, .begun, false⟩ where
  loaders := rfl
  held loader hloader := by cases hloader
  outcome := rfl
  state := rfl
  missed h := by
    rcases h with h | h
    · cases h
    · exact h.elim
  uncalled _ _ _ _ _ := rfl

section Step

variable (hstep : Step engine registry load load' registry')
  (h : load.OnCourse engine start registry)

include hstep

theorem Step.calls_of_uncalled (huncalled : load'.called = false) :
    load.called = false ∧ registry'.calls = registry.calls := by
  cases hstep with
  | resolve | refuse => cases huncalled
  | _ => exact ⟨huncalled, rfl⟩

include h

theorem Step.held {loader : Loader} (hloader : load'.loader? = some loader) :
    registry'.loaders.get? load'.id = some loader := by
  rw [hstep.loaders_eq]
  cases hstep with
  | find hfound =>
    cases hloader
    exact hfound
  | start | resolve | build => exact h.held loader hloader
  | _ => cases hloader

theorem Step.state : registry'.states.get? load'.id = load'.state? start := by
  cases hstep with
  | hit hfound => exact hfound
  | miss hnone => exact hnone
  | store => exact Catalog.get?_insert_self _ _ _
  | _ => exact h.state

theorem Step.missed (hmissed : load'.Missed) : start.states.get? load.id = none := by
  cases hstep with
  | hit | rest => exact h.missed hmissed
  | miss hnone => exact h.state.symm.trans hnone
  | _ => exact h.missed (Or.inr trivial)

/-- A load stays on course by its own step. -/
theorem Step.onCourse : load'.OnCourse engine start registry' where
  loaders := by
    rw [hstep.loaders_eq, hstep.id_eq]
    exact h.loaders
  held _ := hstep.held h
  outcome := by
    rw [hstep.outcome_eq, hstep.id_eq]
    exact h.outcome
  state := hstep.state h
  missed hmissed := by
    rw [hstep.id_eq]
    exact hstep.missed h hmissed
  uncalled hcalled loader hloader := by
    obtain ⟨hbefore, hcalls⟩ := hstep.calls_of_uncalled hcalled
    rw [hcalls]
    rw [hstep.id_eq] at hloader
    exact h.uncalled hbefore loader hloader

end Step

/-- A load stays on course while the registry is the same to its language. -/
theorem OnCourse.of_sameFor (h : load.OnCourse engine start registry)
    (hsame : registry.SameFor registry' load.id) : load.OnCourse engine start registry' where
  loaders := hsame.loaders.trans h.loaders
  held loader hloader := hsame.loaders.trans (h.held loader hloader)
  outcome := (outcome_of_sameFor hsame h.held).trans h.outcome
  state := hsame.states.trans h.state
  missed := h.missed
  uncalled hcalled loader hloader label hlabel := by
    rw [hsame.counts loader (h.loaders.trans hloader) label hlabel]
    exact h.uncalled hcalled loader hloader label hlabel

/-! ## Where a load on course ends -/

variable (h : load.OnCourse engine start registry)

include h

theorem OnCourse.of_finished {answer : Except Failure LanguageState}
    (hphase : load.phase = .finished answer) :
    answer = (start.load engine load.id).1 ∧
      registry.states.get? load.id = answer.toOption := by
  have houtcome := h.outcome
  have hstate := h.state
  rw [Load.outcome, hphase] at houtcome
  rw [state?, hphase] at hstate
  exact ⟨houtcome, hstate⟩

/-- A load of a language that was loaded calls no loader, and the state stays. -/
theorem OnCourse.of_loaded {state : LanguageState}
    (hloaded : start.states.get? load.id = some state) :
    load.called = false ∧ registry.states.get? load.id = some state := by
  have hseen : ¬ load.Missed := by
    intro hmissed
    rw [h.missed hmissed] at hloaded
    cases hloaded
  rw [Missed, not_or] at hseen
  refine ⟨Bool.eq_false_iff.mpr hseen.1, ?_⟩
  cases hphase : load.phase with
  | begun =>
    rw [h.state, state?, hphase]
    exact hloaded
  | finished answer =>
    obtain ⟨hanswer, hstate⟩ := h.of_finished hphase
    rw [hstate, hanswer, load_of_loaded hloaded]
    rfl
  | _ =>
    rw [hphase] at hseen
    exact absurd trivial hseen.2

end Load

end CodeHighlight.Registry

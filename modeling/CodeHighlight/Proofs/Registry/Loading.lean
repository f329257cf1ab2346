import CodeHighlight.Highlighter.History
import CodeHighlight.Proofs.Registry.Failures

/-! # What a load leaves behind

A load of a language that is loaded changes nothing. Any other load of a registered language
resolves its loader once, and files a state exactly where it answers with one. -/
namespace CodeHighlight

/-! ## Counting calls -/

/-- Resolving a factory calls it once, and nothing else is called. -/
theorem Loader.count_resolve (loader : Loader) (calls : Calls) (label : String) :
    (loader.resolve calls).2.count label = calls.count label + loader.callsOf label := by
  cases loader with
  | value definition => rfl
  | factory shape own produce =>
    simp only [resolve, Calls.count, callsOf, Catalog.get?_insert]
    by_cases hown : own = label
    · subst hown
      simp
    · simp [hown, Ne.symm hown]

/-! ## The backend -/

namespace Backend

variable {backend : Backend}

theorem isReady_iff : backend.isReady = true ↔ 0 < backend.starts := by
  rw [isReady, decide_eq_true_iff]

theorem isReady_ensureReady (backend : Backend) : backend.ensureReady.isReady = true := by
  rw [ensureReady]
  split
  · assumption
  · exact isReady_iff.mpr (Nat.succ_pos _)

theorem starts_ensureReady_le (h : backend.starts ≤ 1) : backend.ensureReady.starts ≤ 1 := by
  rw [ensureReady]
  split
  · exact h
  · rename_i hready
    rw [isReady_iff] at hready
    change backend.starts + 1 ≤ 1
    omega

end Backend

namespace Registry

variable {engine : Engine} {registry : Registry} {id : String}

theorem isRegistered_eq_false :
    registry.isRegistered id = false ↔ registry.loaders.get? id = none := by
  simp [isRegistered, Catalog.contains]

/-- A state bears the id that it was built under. -/
theorem id_of_buildState {definition : Definition} {state : LanguageState}
    (h : buildState engine id definition = .ok state) : state.id = id := by
  obtain ⟨_, _, _, -, -, -, -, rfl⟩ := buildState_eq_ok_iff.mp h
  rfl

theorem load_of_loaded {state : LanguageState} (h : registry.states.get? id = some state) :
    registry.load engine id = (.ok state, registry) := by
  rw [load, h]

theorem load_of_unknown (hstate : registry.states.get? id = none)
    (hloader : registry.loaders.get? id = none) :
    registry.load engine id = (.error (.unknownLanguage id), registry) := by
  rw [load, hstate, hloader]

/-- The loader is resolved, the backend runs, and a state is filed if one was built. -/
theorem load_of_registered {loader : Loader} (hstate : registry.states.get? id = none)
    (hloader : registry.loaders.get? id = some loader) :
    registry.load engine id =
      let answer := (loader.resolve registry.calls).1 >>= buildState engine id
      (answer,
        { registry with
          backend := registry.backend.ensureReady
          calls := (loader.resolve registry.calls).2
          states :=
            match answer with
            | .ok state => registry.states.insert id state
            | .error _ => registry.states }) := by
  rw [load, hstate, hloader]
  change (match (loader.resolve registry.calls).1 >>= buildState engine id with
    | .ok state => _
    | .error failure => _) = _
  cases (loader.resolve registry.calls).1 >>= buildState engine id <;> rfl

theorem loaders_load (engine : Engine) (registry : Registry) (id : String) :
    (registry.load engine id).2.loaders = registry.loaders := by
  cases hstate : registry.states.get? id with
  | some state => rw [load_of_loaded hstate]
  | none =>
    cases hloader : registry.loaders.get? id with
    | none => rw [load_of_unknown hstate hloader]
    | some loader => rw [load_of_registered hstate hloader]

/-- A language has a state after its load exactly if the load answered with that state. -/
theorem get?_states_load (engine : Engine) (registry : Registry) (id : String) :
    (registry.load engine id).2.states.get? id = (registry.load engine id).1.toOption := by
  cases hstate : registry.states.get? id with
  | some state =>
    rw [load_of_loaded hstate]
    exact hstate
  | none =>
    cases hloader : registry.loaders.get? id with
    | none =>
      rw [load_of_unknown hstate hloader]
      exact hstate
    | some loader =>
      rw [load_of_registered hstate hloader]
      dsimp only
      cases (loader.resolve registry.calls).1 >>= buildState engine id with
      | ok state => exact Catalog.get?_insert_self _ _ _
      | error failure => exact hstate

theorem get?_states_load_of_ne (engine : Engine) (registry : Registry) {id other : String}
    (h : other ≠ id) :
    (registry.load engine id).2.states.get? other = registry.states.get? other := by
  cases hstate : registry.states.get? id with
  | some state => rw [load_of_loaded hstate]
  | none =>
    cases hloader : registry.loaders.get? id with
    | none => rw [load_of_unknown hstate hloader]
    | some loader =>
      rw [load_of_registered hstate hloader]
      dsimp only
      cases (loader.resolve registry.calls).1 >>= buildState engine id with
      | ok state => exact Catalog.get?_insert_of_ne _ _ h
      | error failure => rfl

/-- A load that fails has filed no state. -/
theorem states_load_of_error {failure : Failure}
    (h : (registry.load engine id).1 = .error failure) :
    (registry.load engine id).2.states = registry.states := by
  cases hstate : registry.states.get? id with
  | some state => rw [load_of_loaded hstate]
  | none =>
    cases hloader : registry.loaders.get? id with
    | none => rw [load_of_unknown hstate hloader]
    | some loader =>
      rw [load_of_registered hstate hloader] at h ⊢
      dsimp only at h ⊢
      rw [h]

end Registry

end CodeHighlight

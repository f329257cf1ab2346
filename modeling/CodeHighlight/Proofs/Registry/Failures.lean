import CodeHighlight.Proofs.Registry.Building

/-! # What a load fails with

A load answers from the loaded states, or refuses an id that nobody registered, or builds a state
from what the loader gives. All failures are recoverable but those that a loader makes up itself. -/
namespace CodeHighlight

variable {engine : Engine} {failure : Failure}

theorem Definition.Defect.isRecoverable {id : String} {definition : Definition}
    (h : definition.Defect engine id failure) : failure.isRecoverable := by
  cases h <;> rfl

theorem LanguageState.highlight_recoverable {state : LanguageState} {code : String}
    {timeout : Option Nat} (h : state.highlight engine code timeout = .error failure) :
    failure.isRecoverable := by
  rw [LanguageState.highlight] at h
  split at h <;> cases h
  rfl

namespace Registry

variable {registry : Registry} {id : String}

/-- The answer of a load, by what is there for the id. -/
theorem load_answer (engine : Engine) (registry : Registry) (id : String) :
    (registry.load engine id).1 =
      match registry.states.get? id, registry.loaders.get? id with
      | some state, _ => .ok state
      | none, none => .error (.unknownLanguage id)
      | none, some loader => (loader.resolve registry.calls).1 >>= buildState engine id := by
  rw [load]
  cases registry.states.get? id with
  | some state => rfl
  | none =>
    cases registry.loaders.get? id with
    | none => rfl
    | some loader =>
      change _ = (loader.resolve registry.calls).1.bind (buildState engine id)
      dsimp only
      cases (loader.resolve registry.calls).1.bind (buildState engine id) <;> rfl

/-- The language is not loaded, and its loader answers the next call with this failure. -/
def Refuses (registry : Registry) (id : String) (failure : Failure) : Prop :=
  registry.isLoaded id = false ∧
    ∃ loader, registry.loaders.get? id = some loader ∧
      (loader.resolve registry.calls).1 = .error failure

theorem isLoaded_eq_false : registry.isLoaded id = false ↔ registry.states.get? id = none := by
  simp [isLoaded, Catalog.contains]

/-- Only a loader makes a load fail beyond recovery. -/
theorem load_error_iff (hfatal : failure.isRecoverable = false) :
    (registry.load engine id).1 = .error failure ↔ registry.Refuses id failure := by
  rw [load_answer, Refuses, isLoaded_eq_false]
  constructor
  · intro h
    split at h
    · cases h
    · cases h
      cases hfatal
    · rename_i loader hstate hloader
      rcases Failure.of_bind h with h | ⟨definition, -, h⟩
      · exact ⟨hstate, loader, hloader, h⟩
      · rw [(buildState_eq_error_iff.mp h).isRecoverable] at hfatal
        cases hfatal
  · rintro ⟨hstate, loader, hloader, h⟩
    rw [hstate, hloader]
    exact congrArg (· >>= buildState engine id) h

end Registry

end CodeHighlight

import CodeHighlight.Proofs.Registry.Loading

/-! # Loads stage by stage

A load that is not answered from the loaded states goes through its stages in order, and the first
one that it does not pass decides the answer. Whichever it is, nothing was filed. -/
namespace CodeHighlight.Registry

variable {engine : Engine} {failure : Failure}
variable {registry : Registry} {id : String} {state : LanguageState}

theorem load_eq_ok_iff (hfresh : registry.isLoaded id = false) :
    (registry.load engine id).1 = .ok state ↔
      ∃ definition, registry.Resolves id (.ok definition) ∧ definition.Makes engine id state := by
  rw [load_answer, isLoaded_eq_false.mp hfresh]
  cases hloader : registry.loaders.get? id with
  | none =>
    constructor
    · rintro ⟨⟩
    · rintro ⟨definition, ⟨loader, hregistered, -⟩, -⟩
      cases hloader.symm.trans hregistered
  | some loader =>
    dsimp only
    rw [Failure.bind_eq_ok_iff]
    constructor
    · rintro ⟨definition, hresolve, hbuild⟩
      exact ⟨definition, ⟨loader, hloader, hresolve⟩, buildState_eq_ok_iff.mp hbuild⟩
    · rintro ⟨definition, ⟨_, hregistered, hresolve⟩, hmakes⟩
      cases hloader.symm.trans hregistered
      exact ⟨definition, hresolve, buildState_eq_ok_iff.mpr hmakes⟩

theorem load_eq_error_iff (hfresh : registry.isLoaded id = false) :
    (registry.load engine id).1 = .error failure ↔ FailsWith engine registry id failure := by
  rw [load_answer, isLoaded_eq_false.mp hfresh]
  constructor
  · intro h
    cases hloader : registry.loaders.get? id with
    | none =>
      rw [hloader] at h
      cases h
      exact .unregistered hloader
    | some loader =>
      rw [hloader] at h
      rcases Failure.of_bind h with h | ⟨definition, hresolve, h⟩
      · exact .loader ⟨loader, hloader, h⟩
      · exact .definition ⟨loader, hloader, hresolve⟩ (buildState_eq_error_iff.mp h)
  · intro h
    cases h with
    | unregistered hloader => rw [hloader]
    | loader hresolves =>
      obtain ⟨loader, hloader, hresolve⟩ := hresolves
      rw [hloader]
      exact Failure.bind_eq_error_iff.mpr (.inl hresolve)
    | definition hresolves hdefect =>
      obtain ⟨loader, hloader, hresolve⟩ := hresolves
      rw [hloader]
      exact Failure.bind_eq_error_iff.mpr
        (.inr ⟨_, hresolve, buildState_eq_error_iff.mpr hdefect⟩)

/-- A load that fails is one of a language that is not loaded. -/
theorem failsWith_of_load (h : (registry.load engine id).1 = .error failure) :
    FailsWith engine registry id failure := by
  by_cases hloaded : registry.isLoaded id = true
  · obtain ⟨state, hstate⟩ := Option.isSome_iff_exists.mp hloaded
    rw [load_of_loaded hstate] at h
    cases h
  · exact (load_eq_error_iff (Bool.eq_false_iff.mpr hloaded)).mp h

/-- A language that is not loaded is loaded exactly if it passes every stage, and otherwise fails
with what the first stage says that it does not pass. A failure leaves the loaded states and the
loaders as they were. Nothing at all happens for an id that is not registered; for any other the
backend is started. -/
theorem load_by_stages (engine : Engine) (hfresh : registry.isLoaded id = false) :
    (∀ state, (registry.load engine id).1 = .ok state ↔
      ∃ definition, registry.Resolves id (.ok definition) ∧ definition.Makes engine id state) ∧
    (∀ failure, (registry.load engine id).1 = .error failure ↔
      FailsWith engine registry id failure) ∧
    (∀ failure, (registry.load engine id).1 = .error failure →
      (registry.load engine id).2.states = registry.states ∧
        (registry.load engine id).2.loaders = registry.loaders) ∧
    (registry.isRegistered id = false → (registry.load engine id).2 = registry) ∧
    (registry.isRegistered id = true → (registry.load engine id).2.backend.isReady = true) := by
  refine ⟨fun state => load_eq_ok_iff hfresh, fun failure => load_eq_error_iff hfresh, ?_, ?_, ?_⟩
  · intro failure h
    exact ⟨states_load_of_error h, loaders_load engine registry id⟩
  · intro hunregistered
    rw [load_of_unknown (isLoaded_eq_false.mp hfresh) (isRegistered_eq_false.mp hunregistered)]
  · intro hregistered
    obtain ⟨loader, hloader⟩ := Option.isSome_iff_exists.mp hregistered
    rw [load_of_registered (isLoaded_eq_false.mp hfresh) hloader]
    exact Backend.isReady_ensureReady registry.backend

namespace Toys

def willing : Engine where
  refusal := fun _ => none
  compileQuery := fun _ _ => .ok ["variable"]
  captures := fun _ _ _ _ => some []
  download := fun _ => none

def query : Query := .text "(x) @variable"

/-- Without an id of its own, and with a grammar that decodes though blanks break it up. -/
def packed : Definition := ⟨"", some (.embedded "AGFz\nbQ=="), ⟨some query, none, none⟩⟩

def linked : Definition := ⟨"own", some (.native .c), ⟨some query, none, none⟩⟩

def filed : Registry :=
  (Registry.empty.register "packed" (.factory .deferred "f" fun _ => .ok packed)).register "linked"
    (.value linked)

end Toys

open Toys in
/-- A load that comes as far as to the bytes of its grammar fails there, under the id that it was
asked for, and one with a linked-in grammar succeeds. -/
theorem load_by_stages_of_toys :
    (filed.isLoaded "packed" = false ∧
      (filed.load willing "packed").1 = .error (.backendUnavailable
        "cannot compile binary grammar for \"packed\": built without the \x60wasm\x60 feature") ∧
      (filed.load willing "packed").2.states = filed.states ∧
      (filed.load willing "packed").2.backend.isReady = true) ∧
    (filed.isLoaded "linked" = false ∧
      (filed.load willing "linked").1 = .ok ⟨"linked", .c, query, ["variable"]⟩) := by
  have hpacked : filed.isLoaded "packed" = false := rfl
  have hlinked : filed.isLoaded "linked" = false := rfl
  obtain ⟨-, herror, hkeeps, -, hready⟩ := load_by_stages willing hpacked
  obtain ⟨hok, -⟩ := load_by_stages willing hlinked
  have hfails : FailsWith willing filed "packed" (.backendUnavailable
      "cannot compile binary grammar for \"packed\": built without the \x60wasm\x60 feature") := by
    have hyields : Grammar.Yields willing (.embedded "AGFz\nbQ==") [0, 97, 115, 109] :=
      .embedded rfl
    exact .definition ⟨_, rfl, rfl⟩ (.compilation ⟨rfl, rfl⟩ rfl (.unsupported hyields))
  have hfailed := (herror _).mpr hfails
  refine ⟨⟨hpacked, hfailed, (hkeeps _ hfailed).1, hready rfl⟩, hlinked, ?_⟩
  exact (hok _).mpr ⟨linked, ⟨_, rfl, rfl⟩, query, .c, ["variable"], ⟨rfl, rfl⟩, rfl, rfl, rfl, rfl⟩

end CodeHighlight.Registry

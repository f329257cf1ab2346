import CodeHighlight.Proofs.Registry.Concurrent

/-! # Loads and registrations of different languages

What a load looks at and what it changes belongs to its language, but for the backend, which starts
at most once, and the counts of calls, which loaders may share. So registrations and loads of two
languages may change places as long as no factory is called for both. -/
namespace CodeHighlight

/-! ## Loaders that share no factory -/

namespace Loader

variable {loader other : Loader} {calls : Calls}

theorem Apart.symm (h : loader.Apart other) : other.Apart loader := fun label => (h label).symm

theorem apart_factory_iff {shape shape' : FactoryShape} {label label' : String}
    {produce produce' : Nat → Except Failure Definition} :
    (factory shape label produce).Apart (factory shape' label' produce') ↔ label ≠ label' := by
  constructor
  · rintro h rfl
    rcases h label with hzero | hzero <;> simp [callsOf] at hzero
  · intro hne called
    rw [callsOf, callsOf]
    by_cases hcalled : label = called
    · exact Or.inr (if_neg fun h => hne (hcalled.trans h.symm))
    · exact Or.inl (if_neg hcalled)

/-- The loader cannot tell the counts from one another. -/
def SameCounts (loader : Loader) (calls other : Calls) : Prop :=
  ∀ label, loader.callsOf label ≠ 0 → other.count label = calls.count label

theorem SameCounts.resolve_answer {other : Calls} (h : loader.SameCounts calls other) :
    (loader.resolve other).1 = (loader.resolve calls).1 := by
  cases loader with
  | value definition => rfl
  | factory shape label produce =>
    have hcount : (other.get? label).getD 0 = (calls.get? label).getD 0 :=
      h label (by simp [callsOf])
    simp only [resolve, hcount]

/-- A loader does not notice the calls of a loader that is apart from it. -/
theorem Apart.sameCounts (h : loader.Apart other) (calls : Calls) :
    other.SameCounts calls (loader.resolve calls).2 := by
  intro label hlabel
  rw [count_resolve, (h label).resolve_right hlabel, Nat.add_zero]

theorem Apart.resolve_calls (h : loader.Apart other) (calls : Calls) :
    (other.resolve (loader.resolve calls).2).2 = (loader.resolve (other.resolve calls).2).2 := by
  cases loader with
  | value definition => rfl
  | factory shape label produce =>
    cases other with
    | value definition => rfl
    | factory shape' label' produce' =>
      have hne := apart_factory_iff.mp h
      simp only [resolve, Catalog.get?_insert_of_ne calls _ hne,
        Catalog.get?_insert_of_ne calls _ hne.symm]
      exact calls.insert_comm _ _ hne

theorem get?_announce (loader : Loader) (calls : Calls) (label : String) :
    (loader.announce calls).get? label =
      (calls.get? label).or (if loader.callsOf label = 0 then none else some 0) := by
  cases loader with
  | value definition => simp [announce, callsOf]
  | factory shape own produce =>
    rw [announce, callsOf]
    by_cases hown : own = label
    · subst hown
      cases hcalls : calls.get? own with
      | none => simp [Catalog.contains, hcalls]
      | some count => simp [Catalog.contains, hcalls]
    · split
      · simp
      · simp [Catalog.get?_insert_of_ne calls _ (Ne.symm hown)]

theorem announce_comm (loader other : Loader) (calls : Calls) :
    other.announce (loader.announce calls) = loader.announce (other.announce calls) := by
  apply Catalog.ext_get?
  intro label
  simp only [get?_announce, Option.or_assoc]
  by_cases hloader : loader.callsOf label = 0 <;> by_cases hother : other.callsOf label = 0 <;>
    simp [hloader, hother]

/-- Counting from zero and counting from nothing are the same to a loader. -/
theorem count_announce (loader : Loader) (calls : Calls) (label : String) :
    (loader.announce calls).count label = calls.count label := by
  rw [Calls.count, Calls.count, get?_announce]
  cases calls.get? label with
  | some count => rfl
  | none => split <;> rfl

theorem resolve_announce (loader other : Loader) (calls : Calls) :
    loader.resolve (other.announce calls) =
      ((loader.resolve calls).1, other.announce (loader.resolve calls).2) := by
  cases loader with
  | value definition => rfl
  | factory shape label produce =>
    have hcount : ((other.announce calls).get? label).getD 0 = (calls.get? label).getD 0 :=
      count_announce other calls label
    simp only [resolve, hcount]
    refine Prod.ext rfl (Catalog.ext_get? fun name => ?_)
    simp only [Catalog.get?_insert, get?_announce]
    split <;> rfl

end Loader

namespace Registry

variable {engine : Engine} {registry : Registry} {id a b : String}

/-! ## What a load looks at and what it changes -/

/-- The loader that a load would resolve. -/
def pending? (registry : Registry) (id : String) : Option Loader :=
  if registry.isLoaded id then none else registry.loaders.get? id

theorem pending?_eq_some_iff {loader : Loader} :
    registry.pending? id = some loader ↔
      registry.states.get? id = none ∧ registry.loaders.get? id = some loader := by
  rw [pending?, isLoaded, Catalog.contains]
  cases registry.states.get? id <;> simp

theorem load_of_not_pending (engine : Engine) (h : registry.pending? id = none) :
    (registry.load engine id).2 = registry := by
  cases hstate : registry.states.get? id with
  | some state => rw [load_of_loaded hstate]
  | none =>
    rw [pending?, isLoaded_eq_false.mpr hstate] at h
    rw [load_of_unknown hstate h]

theorem backend_load (engine : Engine) (registry : Registry) (id : String) :
    (registry.load engine id).2.backend =
      (registry.pending? id).elim registry.backend fun _ => registry.backend.ensureReady := by
  cases hpending : registry.pending? id with
  | none =>
    rw [load_of_not_pending engine hpending]
    rfl
  | some loader =>
    obtain ⟨hstate, hloader⟩ := pending?_eq_some_iff.mp hpending
    rw [load_of_registered hstate hloader]
    rfl

theorem calls_load (engine : Engine) (registry : Registry) (id : String) :
    (registry.load engine id).2.calls =
      (registry.pending? id).elim registry.calls fun loader =>
        (loader.resolve registry.calls).2 := by
  cases hpending : registry.pending? id with
  | none =>
    rw [load_of_not_pending engine hpending]
    rfl
  | some loader =>
    obtain ⟨hstate, hloader⟩ := pending?_eq_some_iff.mp hpending
    rw [load_of_registered hstate hloader]
    rfl

/-- The registries are the same to a load of the language. -/
structure SameFor (registry other : Registry) (id : String) : Prop where
  states : other.states.get? id = registry.states.get? id
  loaders : other.loaders.get? id = registry.loaders.get? id
  counts : ∀ loader, registry.loaders.get? id = some loader →
    loader.SameCounts registry.calls other.calls

theorem SameFor.load_answer {other : Registry} (h : registry.SameFor other id) :
    (other.load engine id).1 = (registry.load engine id).1 := by
  rw [Registry.load_answer, Registry.load_answer, h.states, h.loaders]
  cases registry.states.get? id with
  | some state => rfl
  | none =>
    cases hloader : registry.loaders.get? id with
    | none => rfl
    | some loader =>
      dsimp only
      rw [(h.counts loader hloader).resolve_answer]

/-! ## Two loads -/

/-- The loaders that are on file for two languages share no factory. -/
def LoadersApart (registry : Registry) (a b : String) : Prop :=
  ∀ loader other, registry.loaders.get? a = some loader → registry.loaders.get? b = some other →
    loader.Apart other

theorem LoadersApart.symm (h : registry.LoadersApart a b) : registry.LoadersApart b a :=
  fun loader other hloader hother => (h other loader hother hloader).symm

theorem pending?_load_of_ne (engine : Engine) (registry : Registry) (hne : b ≠ a) :
    (registry.load engine a).2.pending? b = registry.pending? b := by
  rw [pending?, pending?, isLoaded, isLoaded, Catalog.contains, Catalog.contains,
    get?_states_load_of_ne engine registry hne, loaders_load]

theorem sameFor_load (engine : Engine) (hne : b ≠ a) (hapart : registry.LoadersApart a b) :
    registry.SameFor (registry.load engine a).2 b where
  states := get?_states_load_of_ne engine registry hne
  loaders := by rw [loaders_load]
  counts other hother := by
    rw [calls_load]
    cases hpending : registry.pending? a with
    | none => exact fun label _ => rfl
    | some loader =>
      exact (hapart loader other (pending?_eq_some_iff.mp hpending).2 hother).sameCounts _

theorem calls_load_comm (hne : a ≠ b) (hapart : registry.LoadersApart a b) :
    ((registry.load engine a).2.load engine b).2.calls =
      ((registry.load engine b).2.load engine a).2.calls := by
  rw [calls_load, calls_load, calls_load, calls_load, pending?_load_of_ne engine registry hne,
    pending?_load_of_ne engine registry hne.symm]
  cases ha : registry.pending? a with
  | none => cases registry.pending? b <;> rfl
  | some loader =>
    cases hb : registry.pending? b with
    | none => rfl
    | some other =>
      exact (hapart loader other (pending?_eq_some_iff.mp ha).2
        (pending?_eq_some_iff.mp hb).2).resolve_calls _

theorem backend_load_comm (hne : a ≠ b) :
    ((registry.load engine a).2.load engine b).2.backend =
      ((registry.load engine b).2.load engine a).2.backend := by
  rw [backend_load, backend_load, backend_load, backend_load,
    pending?_load_of_ne engine registry hne, pending?_load_of_ne engine registry hne.symm]
  cases registry.pending? a <;> cases registry.pending? b <;> rfl

theorem states_load_comm (hne : a ≠ b) (hapart : registry.LoadersApart a b) :
    ((registry.load engine a).2.load engine b).2.states =
      ((registry.load engine b).2.load engine a).2.states := by
  apply Catalog.ext_get?
  intro name
  by_cases hb : name = b
  · rw [hb, get?_states_load, (sameFor_load engine hne.symm hapart).load_answer,
      get?_states_load_of_ne engine _ hne.symm, get?_states_load]
  · by_cases ha : name = a
    · rw [ha, get?_states_load, (sameFor_load engine hne hapart.symm).load_answer,
        get?_states_load_of_ne engine _ hne, get?_states_load]
    · rw [get?_states_load_of_ne engine _ hb, get?_states_load_of_ne engine _ ha,
        get?_states_load_of_ne engine _ ha, get?_states_load_of_ne engine _ hb]

theorem load_comm (hne : a ≠ b) (hapart : registry.LoadersApart a b) :
    ((registry.load engine a).2.load engine b).2 =
      ((registry.load engine b).2.load engine a).2 := by
  refine Registry.ext ?_ (states_load_comm hne hapart) (backend_load_comm hne)
    (calls_load_comm hne hapart)
  simp only [loaders_load]

/-! ## Registrations -/

theorem register_comm (hne : a ≠ b) (loader other : Loader) :
    (registry.register a loader).register b other =
      (registry.register b other).register a loader :=
  Registry.ext (registry.loaders.insert_comm loader other hne) rfl rfl
    (loader.announce_comm other registry.calls)

/-- A load does not notice that a loader was registered for another language. -/
theorem load_register (engine : Engine) (registry : Registry) (loader : Loader) (hne : b ≠ a) :
    (registry.register a loader).load engine b =
      ((registry.load engine b).1, (registry.load engine b).2.register a loader) := by
  have hloaders : (registry.register a loader).loaders.get? b = registry.loaders.get? b :=
    Catalog.get?_insert_of_ne registry.loaders loader hne
  cases hstate : registry.states.get? b with
  | some state =>
    have hkept : (registry.register a loader).states.get? b = some state := hstate
    rw [load_of_loaded hstate, load_of_loaded hkept]
  | none =>
    have hkept : (registry.register a loader).states.get? b = none := hstate
    cases hother : registry.loaders.get? b with
    | none =>
      rw [load_of_unknown hstate hother, load_of_unknown hkept (hloaders.trans hother)]
    | some other =>
      have hresolve : other.resolve (registry.register a loader).calls = _ :=
        other.resolve_announce loader registry.calls
      rw [load_of_registered hstate hother, load_of_registered hkept (hloaders.trans hother),
        hresolve]
      rfl

end Registry

end CodeHighlight

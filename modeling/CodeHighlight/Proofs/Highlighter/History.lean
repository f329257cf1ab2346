import Mathlib.Data.List.Induction
import CodeHighlight.Proofs.Highlighter.Failures
import CodeHighlight.Proofs.LastFound
import CodeHighlight.Proofs.Registry.Loading

/-! # A highlighter remembers its loads

Over any run of registrations, loads and highlights, a language has the state that its first
successful load built, and none before. Loads that fail are forgotten and the next one calls the
loader again, the one that was registered last; after a load that succeeded no loader of the
language is called and no registration changes its state. -/
namespace CodeHighlight

/-- Where a list with one more entry is cut, the cut is at that entry or in the list before. -/
theorem exists_cut_append_singleton {α : Type} {xs : List α} {x : α}
    {P : List α → α → Prop} :
    (∃ before y after, xs ++ [x] = before ++ y :: after ∧ P before y) ↔
      P xs x ∨ ∃ before y after, xs = before ++ y :: after ∧ P before y := by
  constructor
  · rintro ⟨before, y, after, heq, h⟩
    rcases List.eq_nil_or_concat after with rfl | ⟨after, z, rfl⟩
    · obtain ⟨rfl, hlast⟩ := List.append_inj' heq rfl
      obtain rfl := List.singleton_inj.mp hlast
      exact Or.inl h
    · rw [List.concat_eq_append, ← List.cons_append, ← List.append_assoc] at heq
      exact Or.inr ⟨before, y, after, (List.append_inj' heq rfl).1, h⟩
  · rintro (h | ⟨before, y, after, rfl, h⟩)
    · exact ⟨xs, x, [], rfl, h⟩
    · exact ⟨before, y, after ++ [x], by simp, h⟩

namespace Highlighter

theorem states_registerBuiltinLanguages (highlighter : Highlighter) :
    highlighter.registerBuiltinLanguages.2.registry.states = highlighter.registry.states :=
  view_registerBuiltinLanguages (fun highlighter => highlighter.registry.states)
    (fun _ _ _ => rfl) highlighter

theorem states_build (files : FileSystem) (builder : Builder) :
    (builder.build files).registry.states = .empty :=
  view_build (fun highlighter => highlighter.registry.states) (fun _ _ _ => rfl) files builder

/-- Highlighters are made with no language loaded. -/
theorem Initial.states_empty {highlighter : Highlighter} (h : Initial highlighter) :
    highlighter.registry.states = .empty := by
  cases h with
  | new => rfl
  | withBackend backend => rfl
  | built files calls => exact states_build files _
  | configured files environment config =>
    rw [ofConfig, states_registerBuiltinLanguages]
    rfl

end Highlighter

namespace LanguageUse

variable {engine : Engine} {start : Highlighter} {uses : List LanguageUse} {id : String}

/-! ## One use -/

theorem registry_register (engine : Engine) (highlighter : Highlighter) (id : String)
    (loader : Loader) :
    ((register id loader).operation.perform engine highlighter).2.registry =
      highlighter.registry.register id loader := rfl

/-- With a theme at hand, a highlight leaves behind what a load of its language leaves behind. -/
theorem registry_of_loads {highlighter : Highlighter} (hdefault : highlighter.themes.HasDefault)
    {use : LanguageUse} (hloads : use.loads? = some id) :
    (use.operation.perform engine highlighter).2.registry =
      (highlighter.registry.load engine id).2 := by
  cases use with
  | register name loader => cases hloads
  | load name =>
    cases hloads
    rfl
  | highlight code name options =>
    cases hloads
    obtain ⟨theme, htheme⟩ := hdefault.choose options.theme
    change (highlighter.highlight engine code id options).2.registry = _
    rw [Highlighter.highlight, htheme]
    rfl

theorem eq_register_of_loads {use : LanguageUse} (h : use.loads? = none) :
    ∃ id loader, use = register id loader := by
  cases use with
  | register id loader => exact ⟨id, loader, rfl⟩
  | load id => cases h
  | highlight code id options => cases h

/-- A registration files its loader, and no other use touches the loaders. -/
theorem loaders_perform {highlighter : Highlighter} (hdefault : highlighter.themes.HasDefault)
    (use : LanguageUse) (id : String) :
    (use.operation.perform engine highlighter).2.registry.loaders.get? id =
      (use.loaderFor? id).or (highlighter.registry.loaders.get? id) := by
  cases hloads : use.loads? with
  | none =>
    obtain ⟨name, loader, rfl⟩ := eq_register_of_loads hloads
    rw [registry_register, Registry.register, Catalog.get?_insert, loaderFor?]
    by_cases hname : name = id
    · simp [hname]
    · simp [hname, Ne.symm hname]
  | some name =>
    rw [registry_of_loads hdefault hloads, Registry.loaders_load]
    cases use with
    | register other loader => cases hloads
    | load other => rfl
    | highlight code other options => rfl

/-- A state that is there after a use was there before, or the use loads it. -/
theorem states_perform {highlighter : Highlighter} (hdefault : highlighter.themes.HasDefault)
    (use : LanguageUse) (id : String) (state : LanguageState) :
    (use.operation.perform engine highlighter).2.registry.states.get? id = some state ↔
      (use.loads? = some id ∧ (highlighter.registry.load engine id).1 = .ok state) ∨
        highlighter.registry.states.get? id = some state := by
  cases hloads : use.loads? with
  | none =>
    obtain ⟨name, loader, rfl⟩ := eq_register_of_loads hloads
    rw [registry_register]
    simp [Registry.register]
  | some name =>
    rw [registry_of_loads hdefault hloads]
    by_cases hname : name = id
    · rw [hname, Registry.get?_states_load, Failure.toOption_eq_some_iff]
      constructor
      · intro h
        exact Or.inl ⟨rfl, h⟩
      · rintro (⟨-, h⟩ | h)
        · exact h
        · rw [Registry.load_of_loaded h]
    · rw [Registry.get?_states_load_of_ne engine _ (Ne.symm hname)]
      simp [hname]

/-! ## A run of uses -/

theorem run_append_singleton (engine : Engine) (start : Highlighter) (uses : List LanguageUse)
    (use : LanguageUse) :
    run engine start (uses ++ [use]) =
      (use.operation.perform engine (run engine start uses)).2 := by
  rw [run, Operation.run, List.map_append, List.foldl_append]
  rfl

theorem hasDefault_run (h : start.themes.HasDefault) (uses : List LanguageUse) :
    (run engine start uses).themes.HasDefault := by
  induction uses using List.reverseRecOn with
  | nil => exact h
  | append_singleton uses use ih =>
    rw [run_append_singleton]
    exact Highlighter.hasDefault_perform engine use.operation ih

theorem lastLoader?_append_singleton (start : Highlighter) (uses : List LanguageUse)
    (use : LanguageUse) (id : String) :
    lastLoader? start (uses ++ [use]) id = (use.loaderFor? id).or (lastLoader? start uses id) := by
  rw [lastLoader?, lastLoader?, findSome?_reverse_append_singleton, Option.or_assoc]

/-- The loader on file is the one that was registered last. -/
theorem loaders_run (h : start.themes.HasDefault) (uses : List LanguageUse) (id : String) :
    (run engine start uses).registry.loaders.get? id = lastLoader? start uses id := by
  induction uses using List.reverseRecOn with
  | nil => rfl
  | append_singleton uses use ih =>
    rw [run_append_singleton, loaders_perform (hasDefault_run h uses),
      lastLoader?_append_singleton, ih]

/-- A language has a state exactly if some load of it answered with that state. -/
theorem states_run (hdefault : start.themes.HasDefault)
    (hempty : start.registry.states = .empty) {state : LanguageState} :
    (run engine start uses).registry.states.get? id = some state ↔
      ∃ earlier use later, uses = earlier ++ use :: later ∧
        use.loads? = some id ∧ answer engine start earlier id = .ok state := by
  induction uses using List.reverseRecOn with
  | nil =>
    constructor
    · intro h
      change start.registry.states.get? id = some state at h
      rw [hempty] at h
      cases h
    · rintro ⟨earlier, use, later, heq, -⟩
      simp at heq
  | append_singleton uses use ih =>
    rw [exists_cut_append_singleton, ← ih, run_append_singleton,
      states_perform (hasDefault_run hdefault uses)]
    rfl

theorem isLoaded_run (hdefault : start.themes.HasDefault)
    (hempty : start.registry.states = .empty) :
    (run engine start uses).registry.isLoaded id = true ↔
      ∃ earlier use later state, uses = earlier ++ use :: later ∧
        use.loads? = some id ∧ answer engine start earlier id = .ok state := by
  rw [Registry.isLoaded, Catalog.contains, Option.isSome_iff_exists]
  constructor
  · rintro ⟨state, hstate⟩
    obtain ⟨earlier, use, later, heq, hloads, hanswer⟩ := (states_run hdefault hempty).mp hstate
    exact ⟨earlier, use, later, state, heq, hloads, hanswer⟩
  · rintro ⟨earlier, use, later, state, heq, hloads, hanswer⟩
    exact ⟨state, (states_run hdefault hempty).mpr ⟨earlier, use, later, heq, hloads, hanswer⟩⟩

theorem isSome_loaderFor? {use : LanguageUse} :
    (use.loaderFor? id).isSome ↔ ∃ loader, use = register id loader := by
  cases use with
  | register name loader =>
    rw [loaderFor?]
    split
    · rename_i heq
      subst heq
      simp
    · rename_i hne
      simp [hne]
  | load name => simp [loaderFor?]
  | highlight code name options => simp [loaderFor?]

theorem isRegistered_run (hdefault : start.themes.HasDefault) :
    (run engine start uses).registry.isRegistered id = true ↔
      start.registry.isRegistered id = true ∨ ∃ loader, register id loader ∈ uses := by
  rw [Registry.isRegistered, Catalog.contains, loaders_run hdefault, lastLoader?, Option.isSome_or,
    Bool.or_eq_true, or_comm, List.findSome?_isSome_iff]
  refine or_congr_right ?_
  simp only [List.mem_reverse, isSome_loaderFor?]
  constructor
  · rintro ⟨use, hmem, loader, rfl⟩
    exact ⟨loader, hmem⟩
  · rintro ⟨loader, hmem⟩
    exact ⟨register id loader, hmem, loader, rfl⟩

/-- Loads are memoized. After any uses of a highlighter as it was made, the next load of a language,
by itself or for a highlight, does one of two things. If no load of it has succeeded, the loader
that was registered last is resolved, once, and the state built from it is kept if there is one. If
a load has succeeded, its state is the answer and nothing is called, whatever was registered
since. -/
theorem loads_memoized (h : Highlighter.Initial start) (engine : Engine)
    (uses : List LanguageUse) (id : String) :
    let now := run engine start uses
    let next := now.registry.load engine id
    (((load id).operation.perform engine now).1 = .loaded (next.1.map fun _ => ()) ∧
      ∀ use : LanguageUse, use.loads? = some id →
        (use.operation.perform engine now).2.registry = next.2) ∧
    (now.registry.isLoaded id = true ↔
      ∃ earlier use later state, uses = earlier ++ use :: later ∧
        use.loads? = some id ∧ answer engine start earlier id = .ok state) ∧
    (now.registry.isLoaded id = false → ∀ loader, lastLoader? start uses id = some loader →
      next.1 = (loader.resolve now.registry.calls).1 >>= Registry.buildState engine id ∧
      (∀ label, next.2.calls.count label =
        now.registry.calls.count label + loader.callsOf label) ∧
      next.2.states.get? id = next.1.toOption) ∧
    (∀ earlier use later state, uses = earlier ++ use :: later → use.loads? = some id →
      answer engine start earlier id = .ok state → next = (.ok state, now.registry)) ∧
    now.registry.loaders.get? id = lastLoader? start uses id ∧
    (now.registry.isRegistered id = true ↔
      start.registry.isRegistered id = true ∨ ∃ loader, register id loader ∈ uses) ∧
    (id ∈ now.registry.ids ↔
      start.registry.isRegistered id = true ∨ ∃ loader, register id loader ∈ uses) := by
  intro now next
  have hdefault := h.hasDefault
  have hregistered : now.registry.isRegistered id = true ↔
      start.registry.isRegistered id = true ∨ ∃ loader, register id loader ∈ uses :=
    isRegistered_run hdefault
  refine ⟨⟨rfl, ?_⟩, isLoaded_run hdefault h.states_empty, ?_, ?_,
    loaders_run hdefault uses id, hregistered, ?_⟩
  · intro use hloads
    exact registry_of_loads (hasDefault_run hdefault uses) hloads
  · intro hloaded loader hloader
    have hstate := Registry.isLoaded_eq_false.mp hloaded
    rw [← loaders_run hdefault uses id] at hloader
    have hnext : next = _ := Registry.load_of_registered hstate hloader
    refine ⟨?_, ?_, Registry.get?_states_load engine now.registry id⟩
    · rw [hnext]
    · intro label
      rw [hnext]
      exact loader.count_resolve now.registry.calls label
  · intro earlier use later state heq hloads hanswer
    have hstate := (states_run hdefault h.states_empty).mpr
      ⟨earlier, use, later, heq, hloads, hanswer⟩
    exact Registry.load_of_loaded hstate
  · rw [← hregistered]
    exact Catalog.mem_names

namespace Retry

/-- A factory that is out of reach on its first call. -/
def flaky : Loader :=
  .factory .deferred "f" fun count =>
    if count = 0 then .error (.backendUnavailable "offline") else .ok (Definition.builtin .go)

/-- The first load fails, the second one succeeds. -/
def tries : List LanguageUse := [.register "a" flaky, .load "a", .load "a"]

def replacement : LanguageUse := .register "a" (.value (Definition.builtin .c))

def state : LanguageState := ⟨"a", .go, .layers [.goHighlights], []⟩

end Retry

open Highlighter.Counterexample (silentEngine) in
/-- A load is tried again after a failure, and its state outlasts a new registration. -/
theorem loads_memoized_of_retry :
    Highlighter.Initial .new ∧
      answer silentEngine .new (Retry.tries.take 1) "a" =
        .error (.backendUnavailable "offline") ∧
      (run silentEngine .new (Retry.tries.take 2)).registry.isLoaded "a" = false ∧
      ((run silentEngine .new (Retry.tries.take 2)).registry.load silentEngine "a").2.states.get?
        "a" = some Retry.state ∧
      answer silentEngine .new (Retry.tries ++ [Retry.replacement]) "a" = .ok Retry.state := by
  obtain ⟨-, -, hbefore, -⟩ := loads_memoized .new silentEngine (Retry.tries.take 2) "a"
  obtain ⟨-, -, -, hafter, -⟩ :=
    loads_memoized .new silentEngine (Retry.tries ++ [Retry.replacement]) "a"
  have hnone : (run silentEngine .new (Retry.tries.take 2)).registry.isLoaded "a" = false := rfl
  refine ⟨.new, rfl, hnone, ?_, ?_⟩
  · obtain ⟨-, -, hstate⟩ := hbefore hnone Retry.flaky rfl
    exact hstate
  · have hkept :=
      hafter (Retry.tries.take 2) (.load "a") [Retry.replacement] Retry.state rfl rfl rfl
    exact congrArg Prod.fst hkept

end LanguageUse

end CodeHighlight

import Mathlib.Data.List.Basic
import Mathlib.Data.List.Induction
import CodeHighlight.Highlighter.Precedence
import CodeHighlight.Proofs.Highlighter.History
import CodeHighlight.Proofs.Theme.Log

/-! # What takes precedence in a highlighter

A builder keeps the calls of each kind apart and in order, so calls of different kinds may be made
in any order. It applies the kinds in an order of its own: themes given one by one take the place of
those in directories and of those of the library, and so do languages. A configuration is read as a
few of these calls. -/
namespace CodeHighlight

namespace BuilderCall

variable {calls others : List BuilderCall} {id : String} {loader : Loader}

/-! ## What a builder gathers -/

def backend? : BuilderCall → Option Backend
  | .backend shared => some shared
  | _ => none

/-- The theme with the name that it is to go by. -/
def entry? : BuilderCall → Option (Option String × Theme)
  | .theme given => some (none, given)
  | .themeAs name given => some (some name, given)
  | _ => none

def defaultTheme? : BuilderCall → Option String
  | .defaultTheme id => some id
  | _ => none

def language? : BuilderCall → Option (String × Loader)
  | .language id loader => some (id, loader)
  | _ => none

theorem ofCalls_append_singleton (calls : List BuilderCall) (call : BuilderCall) :
    Builder.ofCalls (calls ++ [call]) = (Builder.ofCalls calls).call call := by
  rw [Builder.ofCalls, List.foldl_append]
  rfl

/-- Each field of the builder is made by the calls of one kind. -/
theorem ofCalls_eq (calls : List BuilderCall) :
    Builder.ofCalls calls =
      { backend := (calls.filterMap backend?).getLast?
        themeDirectories := calls.filterMap directory?
        themes := calls.filterMap entry?
        defaultTheme := (calls.filterMap defaultTheme?).getLast?
        builtinLanguages := calls.any (·.kind? = none)
        languages := calls.filterMap language? } := by
  induction calls using List.reverseRecOn with
  | nil => rfl
  | append_singleton calls call ih =>
    rw [ofCalls_append_singleton, ih]
    cases call <;>
      simp [Builder.call, backend?, directory?, entry?, defaultTheme?, language?, kind?]

/-! ## Calls in another order -/

/-- What is gathered from calls of one kind is gathered alike. -/
theorem Reordered.filterMap_eq {α : Type} (h : Reordered calls others)
    {gather : BuilderCall → Option α} (kind : Kind)
    (hkind : ∀ call, (gather call).isSome → call.kind? = some kind) :
    calls.filterMap gather = others.filterMap gather := by
  -- Calls of other kinds give nothing, so they may be left out on both sides.
  have hfilter : ∀ calls : List BuilderCall,
      calls.filterMap gather = (calls.filter (·.kind? = some kind)).filterMap gather := by
    intro calls
    rw [List.filterMap_filter]
    refine List.filterMap_congr fun call _ => ?_
    cases hcall : gather call with
    | none => simp
    | some a => simp [hkind call (by simp [hcall])]
  rw [hfilter calls, hfilter others, h.order kind]

theorem Reordered.ofCalls_eq (h : Reordered calls others) :
    Builder.ofCalls calls = Builder.ofCalls others := by
  have hbackends : calls.filterMap backend? = others.filterMap backend? :=
    h.filterMap_eq .backend fun call hcall => by cases call <;> first | rfl | cases hcall
  have hdirectories : calls.filterMap directory? = others.filterMap directory? :=
    h.filterMap_eq .themeDirectory fun call hcall => by cases call <;> first | rfl | cases hcall
  have hentries : calls.filterMap entry? = others.filterMap entry? :=
    h.filterMap_eq .theme fun call hcall => by cases call <;> first | rfl | cases hcall
  have hdefaults : calls.filterMap defaultTheme? = others.filterMap defaultTheme? :=
    h.filterMap_eq .defaultTheme fun call hcall => by cases call <;> first | rfl | cases hcall
  have hlanguages : calls.filterMap language? = others.filterMap language? :=
    h.filterMap_eq .language fun call hcall => by cases call <;> first | rfl | cases hcall
  have hbuiltins : calls.any (·.kind? = none) = others.any (·.kind? = none) := h.perm.any_eq
  rw [BuilderCall.ofCalls_eq calls, BuilderCall.ofCalls_eq others, hbackends, hdirectories,
    hentries, hdefaults, hlanguages, hbuiltins]

/-! ## Themes -/

/-- The default is set last, and could as well be set in its turn. -/
theorem foldl_storeCalls (store : ThemeStore) (calls : List BuilderCall) :
    (match (calls.filterMap defaultTheme?).getLast? with
      | some id => ((calls.filterMap entry?).foldl Builder.addTheme store).setDefault id
      | none => (calls.filterMap entry?).foldl Builder.addTheme store) =
      (calls.filterMap storeCall?).foldl StoreCall.apply store := by
  induction calls using List.reverseRecOn with
  | nil => rfl
  | append_singleton calls call ih =>
    -- Only a theme that comes after a default has to be moved past it.
    simp only [List.filterMap_append, List.foldl_append, ← ih, List.getLast?_append]
    cases (calls.filterMap defaultTheme?).getLast? <;> cases call <;>
      simp [defaultTheme?, entry?, storeCall?, StoreCall.apply, Builder.addTheme,
        ThemeStore.register, ThemeStore.setDefault_registerAs,
        ThemeStore.setDefault_setDefault, List.filterMap_cons]

theorem themes_build_ofCalls (files : FileSystem) (calls : List BuilderCall) :
    ((Builder.ofCalls calls).build files).themes =
      (calls.filterMap storeCall?).foldl StoreCall.apply
        ((calls.filterMap directory?).foldl (Builder.addDirectory files) .withBuiltins) := by
  rw [Highlighter.themes_build, Builder.buildThemes, ofCalls_eq]
  exact foldl_storeCalls _ calls

/-! ## Languages -/

def loaderFor? (id : String) : BuilderCall → Option Loader
  | .language name loader => if name = id then some loader else none
  | _ => none

def lastLoader? (calls : List BuilderCall) (id : String) : Option Loader :=
  calls.reverse.findSome? (loaderFor? id)

theorem loaderFor?_eq_some_iff {call : BuilderCall} :
    call.loaderFor? id = some loader ↔ call = .language id loader := by
  cases call with
  | language name given =>
    rw [loaderFor?]
    by_cases hname : name = id
    · simp [hname]
    · simp [hname]
  | _ => simp [loaderFor?]

theorem loaderFor?_eq_none_iff {call : BuilderCall} :
    call.loaderFor? id = none ↔ ∀ loader, call ≠ .language id loader := by
  simp only [Option.eq_none_iff_forall_ne_some, ne_eq, loaderFor?_eq_some_iff]

theorem lastLoader?_eq_some_iff :
    lastLoader? calls id = some loader ↔ LatestLoader calls id loader := by
  rw [lastLoader?, findSome?_reverse_eq_some_iff]
  simp only [loaderFor?_eq_some_iff, loaderFor?_eq_none_iff]
  constructor
  · rintro ⟨earlier, call, later, hcalls, rfl, hlater⟩
    refine ⟨earlier, later, hcalls, ?_⟩
    intro other hother
    exact hlater _ hother other rfl
  · rintro ⟨earlier, later, hcalls, hlater⟩
    refine ⟨earlier, _, later, hcalls, rfl, ?_⟩
    rintro call hcall other rfl
    exact hlater other hcall

theorem lastLoader?_eq_none_iff :
    lastLoader? calls id = none ↔ ∀ loader, .language id loader ∉ calls := by
  rw [lastLoader?, findSome?_reverse_eq_none_iff]
  simp only [loaderFor?_eq_none_iff]
  constructor
  · intro hnone other hother
    exact hnone _ hother other rfl
  · rintro hnone call hcall other rfl
    exact hnone other hcall

theorem get?_loaders_registerLanguage (highlighter : Highlighter) (name : String)
    (given : Loader) (id : String) :
    (highlighter.registerLanguage name given).registry.loaders.get? id =
      if id = name then some given else highlighter.registry.loaders.get? id := by
  rw [Highlighter.registerLanguage, Registry.register, Catalog.get?_insert]

theorem get?_loaders_languages (highlighter : Highlighter) (calls : List BuilderCall)
    (id : String) :
    ((calls.filterMap language?).foldl
      (fun highlighter (id, loader) => highlighter.registerLanguage id loader)
      highlighter).registry.loaders.get? id =
      (lastLoader? calls id).or (highlighter.registry.loaders.get? id) := by
  induction calls using List.reverseRecOn with
  | nil => rfl
  | append_singleton calls call ih =>
    have hlast : lastLoader? (calls ++ [call]) id =
        (call.loaderFor? id).or (lastLoader? calls id) :=
      findSome?_reverse_append_singleton _ calls call
    rw [List.filterMap_append, List.foldl_append, hlast, Option.or_assoc, ← ih]
    cases call with
    | language name given =>
      change (Highlighter.registerLanguage _ name given).registry.loaders.get? id = _
      rw [get?_loaders_registerLanguage, loaderFor?]
      by_cases hname : name = id
      · simp [hname]
      · simp [hname, Ne.symm hname]
    | _ => rfl

/-- Each language of the library is there under its own id. -/
theorem get?_loaders_builtins {definitions : List Definition}
    (hnodup : (definitions.map (·.id)).Nodup) (highlighter : Highlighter)
    (hnone : highlighter.registry.loaders = .empty) :
    (definitions.foldl (fun highlighter definition =>
      highlighter.registerLanguage definition.id (.value definition))
      highlighter).registry.loaders.get? id = some loader ↔
      ∃ definition ∈ definitions, definition.id = id ∧ loader = .value definition := by
  induction definitions using List.reverseRecOn with
  | nil => simp [hnone]
  | append_singleton definitions definition ih =>
    rw [List.map_append, List.nodup_append] at hnodup
    obtain ⟨hbefore, -, hother⟩ := hnodup
    rw [List.foldl_append, List.foldl_cons, List.foldl_nil, get?_loaders_registerLanguage]
    by_cases hid : id = definition.id
    · have habsent : ∀ other ∈ definitions, other.id ≠ id := by
        intro other hmem heq
        exact hother other.id (List.mem_map_of_mem hmem) definition.id (by simp) (heq.trans hid)
      rw [if_pos hid, Option.some_inj]
      constructor
      · rintro rfl
        exact ⟨definition, by simp, hid.symm, rfl⟩
      · rintro ⟨other, hmem, heq, rfl⟩
        rcases List.mem_append.mp hmem with hmem | hmem
        · exact absurd heq (habsent other hmem)
        · rw [List.mem_singleton.mp hmem]
    · rw [if_neg hid, ih hbefore]
      simp [Ne.symm hid]

theorem any_kind?_eq_none : calls.any (·.kind? = none) = true ↔ .builtinLanguages ∈ calls := by
  rw [List.any_eq_true]
  constructor
  · rintro ⟨call, hcall, hkind⟩
    cases call <;> first | exact hcall | simp [kind?] at hkind
  · intro hcall
    exact ⟨.builtinLanguages, hcall, rfl⟩

theorem get?_loaders_build (files : FileSystem) :
    ((Builder.ofCalls calls).build files).registry.loaders.get? id = some loader ↔
      LatestLoader calls id loader ∨
        (∀ other, .language id other ∉ calls) ∧ .builtinLanguages ∈ calls ∧
          ∃ definition ∈ Definition.builtins, definition.id = id ∧ loader = .value definition := by
  rw [Builder.build, ofCalls_eq, get?_loaders_languages, Option.or_eq_some_iff,
    lastLoader?_eq_some_iff, lastLoader?_eq_none_iff]
  refine or_congr_right (and_congr_right fun _ => ?_)
  dsimp only
  split
  · rename_i hbuiltins
    rw [and_iff_right (any_kind?_eq_none.mp hbuiltins), Highlighter.registerBuiltinLanguages]
    exact get?_loaders_builtins (by decide) _ rfl
  · rename_i hbuiltins
    rw [any_kind?_eq_none] at hbuiltins
    simp [hbuiltins, Highlighter.withBackend, Registry.empty]

/-! ## Configurations -/

theorem ofCalls_configured (environment : Environment) (config : Config) :
    Builder.ofCalls (configured environment config) =
      { Builder.empty with
        themeDirectories := environment.themesDirectory?.toList ++ config.themesDirectory.toList
        defaultTheme := some config.theme
        builtinLanguages := true } := by
  rw [configured]
  cases environment.themesDirectory? <;> cases config.themesDirectory <;> rfl

theorem ofConfig_eq_build (files : FileSystem) (environment : Environment) (config : Config) :
    Highlighter.ofConfig files environment config =
      (Builder.ofCalls (configured environment config)).build files := by
  rw [ofCalls_configured, Highlighter.ofConfig, Builder.build, if_pos rfl]
  -- The registry is the same on both sides, and comparing it would unfold the languages.
  refine congrArg (fun themes => (Highlighter.registerBuiltinLanguages ⟨themes, _⟩).2) ?_
  rfl

/-- A configured highlighter is the one that a builder makes of the directories in their order, the
default and the languages of the library. Whatever a builder is called for, only the order within
each kind of call counts. What is built has the theme that was given last under an id, and only
where none was given the theme of the directories and the library; it has the loader that was given
last for a language, and only where none was given that of the library; and no language is loaded
yet. -/
theorem highlighters_by_precedence (files : FileSystem) :
    (∀ environment config, Highlighter.ofConfig files environment config =
      (Builder.ofCalls (configured environment config)).build files) ∧
    (∀ calls others, Reordered calls others →
      (Builder.ofCalls calls).build files = (Builder.ofCalls others).build files) ∧
    ∀ calls,
      (∀ id theme, ((Builder.ofCalls calls).build files).themes.themes.get? id = some theme ↔
        StoreCall.Latest (calls.filterMap storeCall?) id theme ∨
          (∀ call ∈ calls.filterMap storeCall?, ¬ call.Files id) ∧
            ((calls.filterMap directory?).foldl (Builder.addDirectory files)
              .withBuiltins).themes.get? id = some theme) ∧
      (∀ id loader,
        ((Builder.ofCalls calls).build files).registry.loaders.get? id = some loader ↔
        LatestLoader calls id loader ∨
          (∀ other, .language id other ∉ calls) ∧ .builtinLanguages ∈ calls ∧
            ∃ definition ∈ Definition.builtins, definition.id = id ∧ loader = .value definition) ∧
      ((Builder.ofCalls calls).build files).registry.states = .empty := by
  refine ⟨ofConfig_eq_build files, fun calls others h => ?_, fun calls => ⟨fun id theme => ?_,
    fun id loader => get?_loaders_build files, ?_⟩⟩
  · rw [h.ofCalls_eq]
  · rw [themes_build_ofCalls, StoreCall.get?_foldl_apply_iff]
  · exact Highlighter.states_build files _

namespace Crossed

def library : List BuilderCall := [.builtinLanguages, .themeDirectory "themes"]

def day : Theme := ⟨"day", none, .empty⟩

def night : Theme := ⟨"night-owl", none, .empty⟩

/-- A definition with nothing in it. -/
def go : Loader := .value ⟨"go", none, ⟨none, none, none⟩⟩

/-- Two themes for one id, and a language that the library has too. -/
def own : List BuilderCall := [.themeAs "Night_Owl" day, .theme night, .language "go" go]

/-- The directory holds a theme for the same id. -/
def files : FileSystem where
  read := fun _ => .ok "\x7b\"id\":\"NIGHT-OWL\",\"styles\":\x7b\x7d\x7d"
  list := fun _ => some ["owl.json"]

theorem reordered : Reordered (library ++ own) (own ++ library) where
  perm := List.perm_append_comm
  order := by
    intro kind
    cases kind <;> rfl

theorem latest_night : StoreCall.Latest ((library ++ own).filterMap storeCall?) "night-owl" night :=
  have hid : normalizeThemeId "night-owl" = "night-owl" := by decide +kernel
  ⟨[.registerAs "Night_Owl" day], .register night, [], night, rfl,
    congrArg (fun id => some (id, night)) hid, by simp, rfl⟩

end Crossed

open Crossed in
/-- The sources of the library may be named before or after those of the caller, which win. -/
theorem highlighters_by_precedence_of_crossed :
    Reordered (library ++ own) (own ++ library) ∧
      (Builder.ofCalls (library ++ own)).build files =
        (Builder.ofCalls (own ++ library)).build files ∧
      ((Builder.ofCalls (library ++ own)).build files).themes.themes.get? "night-owl" =
        some night ∧
      ((Builder.ofCalls (library ++ own)).build files).registry.loaders.get? "go" = some go := by
  obtain ⟨-, hreordered, hbuilt⟩ := highlighters_by_precedence files
  obtain ⟨hthemes, hloaders, -⟩ := hbuilt (library ++ own)
  have hlatest : LatestLoader (library ++ own) "go" go :=
    ⟨library ++ [.themeAs "Night_Owl" day, .theme night], [], rfl, by simp⟩
  exact ⟨reordered, hreordered _ _ reordered, (hthemes _ _).mpr (.inl latest_night),
    (hloaders _ _).mpr (.inl hlatest)⟩

end BuilderCall

end CodeHighlight

import CodeHighlight.Theme.Log

/-! # The default theme stays

Whatever is done to a store, themes are filed one after the other and the default is set. Neither
takes a theme out of it, so the built-in default that a store begins with can always be chosen in
the end. -/
namespace CodeHighlight.ThemeStore

/-! ## What a store keeps -/

theorem themes_setDefault (store : ThemeStore) (id : String) :
    (store.setDefault id).themes = store.themes := by
  rw [setDefault]

theorem setDefault_registerAs (store : ThemeStore) (name : String) (theme : Theme) (id : String) :
    (store.registerAs name theme).2.setDefault id =
      ((store.setDefault id).registerAs name theme).2 := by
  simp only [registerAs, setDefault]

theorem setDefault_setDefault (store : ThemeStore) (id other : String) :
    (store.setDefault id).setDefault other = store.setDefault other := by
  simp only [setDefault]

/-- Filing a theme keeps the property, and so does setting the default. -/
structure Kept (P : ThemeStore → Prop) : Prop where
  registerAs : ∀ {store} (name : String) (theme : Theme),
    P store → P (store.registerAs name theme).2
  setDefault : ∀ {store} (id : String), P store → P (store.setDefault id)

namespace Kept

variable {P : ThemeStore → Prop} {store : ThemeStore}

theorem register (kept : Kept P) (theme : Theme) (h : P store) : P (store.register theme).2 :=
  kept.registerAs (ownName theme) theme h

theorem registerFiles (kept : Kept P) (files : FileSystem) (paths : List String) (h : P store) :
    P (ThemeStore.registerFiles files paths store).2 := by
  induction paths generalizing store with
  | nil => exact h
  | cons path paths ih =>
    rw [ThemeStore.registerFiles]
    cases Theme.ofFile files path with
    | ok theme => exact ih (kept.register theme h)
    | error _ => exact ih h

theorem loadDirectory (kept : Kept P) (files : FileSystem) (directory : String) (h : P store) :
    P (store.loadDirectory files directory).2 :=
  kept.registerFiles files (themeFiles files directory) h

theorem call (kept : Kept P) (call : StoreCall) (h : P store) : P (call.apply store) := by
  cases call with
  | register theme => exact kept.register theme h
  | registerAs name theme => exact kept.registerAs name theme h
  | setDefault id => exact kept.setDefault id h

theorem leads (kept : Kept P) (h : P store) {later : ThemeStore} (hleads : store.Leads later) :
    P later := by
  induction hleads with
  | done => exact h
  | call step _ ih => exact kept.call step ih
  | loadDirectory files directory _ ih => exact kept.loadDirectory files directory ih

end Kept

/-- What keeps a property at every step keeps it over a whole list. -/
theorem foldl_keeps {α : Type} {P : ThemeStore → Prop} {act : ThemeStore → α → ThemeStore}
    (keeps : ∀ store a, P store → P (act store a)) {store : ThemeStore} (h : P store)
    (entries : List α) : P (entries.foldl act store) := by
  induction entries generalizing store with
  | nil => exact h
  | cons entry entries ih => exact ih (keeps store entry h)

theorem Kept.reachable {P : ThemeStore → Prop} (kept : Kept P) (h : P .empty) {store : ThemeStore}
    (hreachable : Reachable store) : P store := by
  induction hreachable with
  | empty => exact h
  | withBuiltins => exact foldl_keeps (fun _ theme => kept.registerAs theme.id theme) h _
  | call step _ ih => exact kept.call step ih
  | loadDirectory files directory _ ih => exact kept.loadDirectory files directory ih

/-! ## The built-in default -/

/-- The built-in default can be chosen. -/
def HasDefault (store : ThemeStore) : Prop := (store.get? defaultThemeId).isSome

theorem hasDefault_kept : Kept HasDefault where
  registerAs {store} name theme h := by
    unfold HasDefault ThemeStore.get? ThemeStore.registerAs at *
    rw [Catalog.get?_insert]
    split
    · rfl
    · exact h
  setDefault {store} id h := by
    rw [HasDefault, ThemeStore.get?, themes_setDefault]
    exact h

/-- The first theme of the library is the default. -/
theorem hasDefault_withBuiltins : withBuiltins.HasDefault := by
  rw [withBuiltins, Theme.builtins, List.foldl_cons]
  refine foldl_keeps (fun _ theme => hasDefault_kept.registerAs theme.id theme) ?_ _
  unfold HasDefault ThemeStore.get? ThemeStore.registerAs
  rw [show Theme.githubDark.id = defaultThemeId from rfl, Catalog.get?_insert_self]
  rfl

theorem HasDefault.choose {store : ThemeStore} (h : store.HasDefault) (name : Option String) :
    ∃ theme, store.choose name = .ok theme := by
  obtain ⟨fallback, hfallback⟩ := Option.isSome_iff_exists.mp h
  rw [ThemeStore.choose, hfallback]
  cases (name.bind store.get?).or (store.get? store.defaultId) with
  | none => exact ⟨fallback, rfl⟩
  | some theme => exact ⟨theme, rfl⟩

theorem choose_of_get? {store : ThemeStore} {name : String} {theme : Theme}
    (h : store.get? name = some theme) : store.choose (some name) = .ok theme := by
  rw [choose, Option.bind_some, h]
  rfl

/-- A theme that was just filed is chosen by the name that it was filed under. -/
theorem choose_registerAs (store : ThemeStore) (name : String) (theme : Theme) :
    (store.registerAs name theme).2.choose (some name) =
      .ok { theme with id := normalizeThemeId name } := by
  refine choose_of_get? ?_
  rw [get?, registerAs, Catalog.get?_insert_self]

/-- Choosing fails in one way only. -/
theorem choose_error {store : ThemeStore} {name : Option String} {failure : Failure}
    (h : store.choose name = .error failure) : failure = .configuration defaultThemeId := by
  rw [ThemeStore.choose] at h
  split at h <;> cases h
  rfl

end CodeHighlight.ThemeStore

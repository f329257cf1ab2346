import CodeHighlight.Proofs.Theme.Default
import CodeHighlight.Proofs.Theme.Log

/-! # Listed themes can be chosen

A theme is filed under a normalized name, which it takes as its id, and normalizing a name twice is
normalizing it once. So asking for a listed id finds the theme that is listed, and since no theme is
ever taken out, an id once given out stays listed. -/
namespace CodeHighlight.ThemeStore

variable {store : ThemeStore} {id : String}

/-- Every theme is filed under its own id, in normalized form. -/
def WellFiled (store : ThemeStore) : Prop :=
  ∀ id theme, store.themes.get? id = some theme → normalizeThemeId id = id ∧ theme.id = id

theorem wellFiled_kept : Kept WellFiled where
  registerAs {store} name theme h := by
    intro id found hfound
    rw [registerAs, Catalog.get?_insert] at hfound
    split at hfound
    · rename_i hid
      rw [hid, ← Option.some.inj hfound]
      exact ⟨normalizeThemeId_normalizeThemeId name, rfl⟩
    · exact h id found hfound
  setDefault {store} id h := by
    rw [WellFiled, themes_setDefault]
    exact h

theorem wellFiled_empty : WellFiled empty := by
  intro id theme h
  cases h

theorem WellFiled.choose (h : store.WellFiled) {theme : Theme}
    (hentry : store.themes.get? id = some theme) : store.choose (some id) = .ok theme := by
  refine choose_of_get? ?_
  rw [get?, (h id theme hentry).1, hentry]

/-! ## Ids stay listed -/

theorem mem_ids_registerAs (store : ThemeStore) (name : String) (theme : Theme) :
    id ∈ (store.registerAs name theme).2.ids ↔ id = normalizeThemeId name ∨ id ∈ store.ids := by
  rw [ids, ids, Catalog.mem_names, Catalog.mem_names, registerAs, Catalog.get?_insert]
  by_cases hid : id = normalizeThemeId name <;> simp [hid]

theorem mem_ids_kept (id : String) : Kept fun store => id ∈ store.ids where
  registerAs {store} name theme h := (mem_ids_registerAs store name theme).mpr (.inr h)
  setDefault {store} name h := by
    rw [ids, themes_setDefault]
    exact h

theorem id_mem_registerAs (store : ThemeStore) (name : String) (theme : Theme) :
    (store.registerAs name theme).1 ∈ (store.registerAs name theme).2.ids :=
  (mem_ids_registerAs store name theme).mpr (.inl rfl)

theorem ids_mem_registerFiles (files : FileSystem) (paths : List String) :
    ∀ id ∈ (registerFiles files paths store).1, id ∈ (registerFiles files paths store).2.ids := by
  induction paths generalizing store with
  | nil => simp [registerFiles]
  | cons path paths ih =>
    rw [registerFiles]
    cases Theme.ofFile files path with
    | ok theme =>
      -- The id of this file is listed at once and stays so while the other files are registered.
      refine List.forall_mem_cons.mpr ⟨?_, ih⟩
      exact (mem_ids_kept _).registerFiles files paths (id_mem_registerAs store _ theme)
    | error _ => exact ih

/-- An id that a store lists is in normalized form and is the id of the theme that it chooses, every
id is listed once and in order, and an id that a registration gave out is listed ever after. -/
theorem listed_can_be_chosen (h : Reachable store) :
    (∀ id ∈ store.ids, normalizeThemeId id = id ∧ ∃ theme, store.themes.get? id = some theme ∧
        theme.id = id ∧ store.choose (some id) = .ok theme) ∧
      store.ids.Pairwise (· < ·) ∧
      (∀ theme later, (store.register theme).2.Leads later →
        (store.register theme).1 ∈ later.ids) ∧
      (∀ name theme later, (store.registerAs name theme).2.Leads later →
        (store.registerAs name theme).1 ∈ later.ids) ∧
      (∀ files directory later, (store.loadDirectory files directory).2.Leads later →
        ∀ id ∈ (store.loadDirectory files directory).1, id ∈ later.ids) ∧
      ∀ id, normalizeThemeId (normalizeThemeId id) = normalizeThemeId id := by
  have hfiled : store.WellFiled := wellFiled_kept.reachable wellFiled_empty h
  refine ⟨fun id hid => ?_, store.themes.names_ordered, fun theme later hleads => ?_,
    fun name theme later hleads => ?_, fun files directory later hleads id hid => ?_,
    normalizeThemeId_normalizeThemeId⟩
  · obtain ⟨theme, hentry⟩ := Option.isSome_iff_exists.mp (Catalog.mem_names.mp hid)
    obtain ⟨hnormal, hown⟩ := hfiled id theme hentry
    exact ⟨hnormal, theme, hentry, hown, hfiled.choose hentry⟩
  · exact (mem_ids_kept _).leads (id_mem_registerAs store (ownName theme) theme) hleads
  · exact (mem_ids_kept _).leads (id_mem_registerAs store name theme) hleads
  · exact (mem_ids_kept id).leads (ids_mem_registerFiles files _ id hid) hleads

namespace Listing

/-- Of these capitals one has a lower case of two characters, and three have one that depends on
where they stand in a word. -/
def name : String := "İΣ_ΣΑΣ"

def night : Theme := ⟨"", some "Night", .empty⟩

def named : ThemeStore := StoreCall.apply .empty (.registerAs name night)

/-- The store after a theme without an id and a new default. -/
def settled : ThemeStore :=
  StoreCall.apply (StoreCall.apply named (.register night)) (.setDefault name)

theorem normalizeThemeId_name : normalizeThemeId name = "i̇ς-σας" := by decide +kernel

end Listing

open Listing in
/-- A name in capitals is listed in lower case, and a theme without an id is listed after a new
default is set. -/
theorem listed_can_be_chosen_of_capitals :
    Reachable named ∧ "i̇ς-σας" ∈ named.ids ∧
      (∃ theme, named.themes.get? "i̇ς-σας" = some theme ∧ theme.id = "i̇ς-σας" ∧
        named.choose (some "i̇ς-σας") = .ok theme) ∧
      (named.register night).2.Leads settled ∧ (named.register night).1 ∈ settled.ids := by
  have hreachable : Reachable named := .call _ .empty
  obtain ⟨hlisted, -, hregistered, -⟩ := listed_can_be_chosen hreachable
  have hmem : "i̇ς-σας" ∈ named.ids :=
    (mem_ids_registerAs _ name night).mpr (.inl normalizeThemeId_name.symm)
  have hleads : (named.register night).2.Leads settled := .call (.setDefault name) .done
  exact ⟨hreachable, hmem, (hlisted _ hmem).2, hleads, hregistered night _ hleads⟩

end CodeHighlight.ThemeStore

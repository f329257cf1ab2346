import Mathlib.Data.List.Induction
import CodeHighlight.Proofs.LastFound
import CodeHighlight.Proofs.Text.Lowercase
import CodeHighlight.Theme.Log

/-! # A store answers from its log

A store keeps of every id the last theme that was filed under it, and of the defaults the last one.
Ids are normalized when a theme is filed and again when one is asked for; a second normalization
changes nothing, so a default that was set in any spelling finds what was filed in any other. -/
namespace CodeHighlight

open CodeHighlight.Text

/-! ## Normalized ids -/

theorem mem_normalizeThemeId {id : String} {c : Char} (h : c ∈ (normalizeThemeId id).toList) :
    IsLower c ∧ c ≠ '_' := by
  rw [normalizeThemeId, String.toList_ofList] at h
  obtain ⟨d, hd, rfl⟩ := List.mem_map.mp h
  by_cases hunderscore : d = '_'
  · rw [if_pos hunderscore]
    decide
  · rw [if_neg hunderscore]
    exact ⟨isLower_lowercase hd, hunderscore⟩

theorem normalizeThemeId_of_normal {id : String}
    (h : ∀ c ∈ id.toList, IsLower c ∧ c ≠ '_') : normalizeThemeId id = id := by
  rw [normalizeThemeId, lowercase_lower fun c hc => (h c hc).1]
  have hmap : (id.toList.map fun c => if c = '_' then '-' else c) = id.toList := by
    rw [List.map_congr_left fun c hc => if_neg (h c hc).2, List.map_id']
  rw [hmap, String.ofList_toList]

/-- Normalizing an id twice is normalizing it once. -/
theorem normalizeThemeId_normalizeThemeId (id : String) :
    normalizeThemeId (normalizeThemeId id) = normalizeThemeId id :=
  normalizeThemeId_of_normal fun _ => mem_normalizeThemeId

theorem normalizeThemeId_defaultThemeId : normalizeThemeId defaultThemeId = defaultThemeId :=
  by decide +kernel

namespace StoreCall

/-! ## What a log leads to -/

theorem replay_append_singleton (calls : List StoreCall) (call : StoreCall) :
    replay (calls ++ [call]) = call.apply (replay calls) := by
  rw [replay, List.foldl_append]
  rfl

/-- The theme that the call files under the id. -/
def filing? (call : StoreCall) (id : String) : Option Theme :=
  call.registration?.bind fun (filed, theme) => if filed = id then some { theme with id } else none

theorem get?_registerAs (store : ThemeStore) (name : String) (theme : Theme) (id : String) :
    (store.registerAs name theme).2.themes.get? id =
      (if normalizeThemeId name = id then some { theme with id } else none).or
        (store.themes.get? id) := by
  rw [ThemeStore.registerAs, Catalog.get?_insert]
  by_cases hid : normalizeThemeId name = id
  · rw [hid, if_pos rfl, if_pos rfl, Option.some_or]
  · rw [if_neg (Ne.symm hid), if_neg hid, Option.none_or]

theorem get?_apply (store : ThemeStore) (call : StoreCall) (id : String) :
    (call.apply store).themes.get? id = (call.filing? id).or (store.themes.get? id) := by
  cases call with
  | register theme =>
    rw [apply, ThemeStore.register, get?_registerAs, ThemeStore.ownName]
    simp only [filing?, registration?, Option.bind_some, String.isEmpty_iff]
  | registerAs name theme =>
    rw [apply, get?_registerAs]
    simp only [filing?, registration?, Option.bind_some]
  | setDefault id => rfl

theorem lastTheme?_eq (calls : List StoreCall) (id : String) :
    lastTheme? calls id = calls.reverse.findSome? (·.filing? id) := rfl

theorem lastTheme?_append_singleton (calls : List StoreCall) (call : StoreCall) (id : String) :
    lastTheme? (calls ++ [call]) id = (call.filing? id).or (lastTheme? calls id) := by
  rw [lastTheme?_eq, lastTheme?_eq, findSome?_reverse_append_singleton]

/-- After some calls a store has of each id the theme that was last filed under it, and what it had
before where none was. -/
theorem get?_foldl_apply (store : ThemeStore) (calls : List StoreCall) (id : String) :
    (calls.foldl apply store).themes.get? id =
      (lastTheme? calls id).or (store.themes.get? id) := by
  induction calls using List.reverseRecOn with
  | nil => rfl
  | append_singleton calls call ih =>
    rw [List.foldl_append, List.foldl_cons, List.foldl_nil, get?_apply, ih,
      lastTheme?_append_singleton, Option.or_assoc]

theorem get?_replay (calls : List StoreCall) (id : String) :
    (replay calls).themes.get? id = lastTheme? calls id := by
  rw [replay, get?_foldl_apply]
  exact Option.or_none

theorem lastDefault_append_singleton (calls : List StoreCall) (call : StoreCall) :
    lastDefault (calls ++ [call]) =
      match call with
      | setDefault id => normalizeThemeId id
      | _ => lastDefault calls := by
  rw [lastDefault, findSome?_reverse_append_singleton]
  cases call <;> rfl

theorem defaultId_replay (calls : List StoreCall) :
    (replay calls).defaultId = lastDefault calls := by
  induction calls using List.reverseRecOn with
  | nil => rfl
  | append_singleton calls call ih =>
    rw [replay_append_singleton, lastDefault_append_singleton]
    cases call with
    | register theme => exact ih
    | registerAs name theme => exact ih
    | setDefault id => rfl

theorem normalizeThemeId_lastDefault (calls : List StoreCall) :
    normalizeThemeId (lastDefault calls) = lastDefault calls := by
  induction calls using List.reverseRecOn with
  | nil => exact normalizeThemeId_defaultThemeId
  | append_singleton calls call ih =>
    rw [lastDefault_append_singleton]
    cases call with
    | register theme => exact ih
    | registerAs name theme => exact ih
    | setDefault id => exact normalizeThemeId_normalizeThemeId id

/-- The store chooses the theme that the log gives. -/
theorem choose_replay (calls : List StoreCall) (name : Option String) :
    (replay calls).choose name = choose calls name := by
  have hget : ∀ id, (replay calls).get? id = lastTheme? calls (normalizeThemeId id) := fun id =>
    get?_replay calls (normalizeThemeId id)
  have hdefault : (replay calls).get? (replay calls).defaultId =
      lastTheme? calls (lastDefault calls) := by
    rw [hget, defaultId_replay, normalizeThemeId_lastDefault]
  have hbuiltin : (replay calls).get? defaultThemeId = lastTheme? calls defaultThemeId := by
    rw [hget, normalizeThemeId_defaultThemeId]
  have hnamed : name.bind (replay calls).get? =
      (name.map normalizeThemeId).toList.findSome? (lastTheme? calls) := by
    cases name with
    | none => rfl
    | some name => simp [hget]
  have hothers : [lastDefault calls, defaultThemeId].findSome? (lastTheme? calls) =
      (lastTheme? calls (lastDefault calls)).or (lastTheme? calls defaultThemeId) := by
    rw [List.findSome?_cons, List.findSome?_cons, List.findSome?_nil]
    cases lastTheme? calls (lastDefault calls) <;> cases lastTheme? calls defaultThemeId <;> rfl
  have hfound : ((name.bind (replay calls).get?).or
      ((replay calls).get? (replay calls).defaultId)).or ((replay calls).get? defaultThemeId) =
      (wanted calls name).findSome? (lastTheme? calls) := by
    rw [hnamed, hdefault, hbuiltin, wanted, List.findSome?_append, hothers, Option.or_assoc]
  rewrite [ThemeStore.choose, choose, hfound]
  rfl

/-! ## What a log says -/

theorem filing?_eq_some_iff {call : StoreCall} {id : String} {theme : Theme} :
    call.filing? id = some theme ↔
      ∃ filed, call.registration? = some (id, filed) ∧ theme = { filed with id } := by
  rw [filing?, Option.bind_eq_some_iff]
  constructor
  · rintro ⟨⟨filedId, filed⟩, hcall, hfiled⟩
    dsimp only at hfiled
    split at hfiled
    · rename_i heq
      subst heq
      exact ⟨filed, hcall, (Option.some.inj hfiled).symm⟩
    · cases hfiled
  · rintro ⟨filed, hcall, rfl⟩
    exact ⟨(id, filed), hcall, if_pos rfl⟩

theorem filing?_eq_none_iff {call : StoreCall} {id : String} :
    call.filing? id = none ↔ ¬ call.Files id := by
  rw [Option.eq_none_iff_forall_ne_some]
  constructor
  · rintro hnone ⟨filed, hcall⟩
    exact hnone _ (filing?_eq_some_iff.mpr ⟨filed, hcall, rfl⟩)
  · rintro hfiles theme htheme
    obtain ⟨filed, hcall, -⟩ := filing?_eq_some_iff.mp htheme
    exact hfiles ⟨filed, hcall⟩

theorem registration?_register {theme : Theme} (h : theme.id ≠ "") :
    (register theme).registration? = some (normalizeThemeId theme.id, theme) := by
  rw [registration?, if_neg h]

theorem files_register_iff {theme : Theme} {id : String} (h : theme.id ≠ "") :
    (register theme).Files id ↔ normalizeThemeId theme.id = id := by
  rw [Files, registration?_register h]
  simp

theorem lastTheme?_eq_some_iff {calls : List StoreCall} {id : String} {theme : Theme} :
    lastTheme? calls id = some theme ↔ Latest calls id theme := by
  rw [lastTheme?_eq, findSome?_reverse_eq_some_iff]
  simp only [filing?_eq_some_iff, filing?_eq_none_iff]
  constructor
  · rintro ⟨earlier, call, later, hcalls, ⟨filed, hfiled, htheme⟩, hlater⟩
    exact ⟨earlier, call, later, filed, hcalls, hfiled, hlater, htheme⟩
  · rintro ⟨earlier, call, later, filed, hcalls, hfiled, hlater, htheme⟩
    exact ⟨earlier, call, later, hcalls, ⟨filed, hfiled, htheme⟩, hlater⟩

theorem lastTheme?_eq_none_iff {calls : List StoreCall} {id : String} :
    lastTheme? calls id = none ↔ ∀ call ∈ calls, ¬ call.Files id := by
  rw [lastTheme?_eq, findSome?_reverse_eq_none_iff]
  simp only [filing?_eq_none_iff]

theorem get?_foldl_apply_iff {store : ThemeStore} {calls : List StoreCall} {id : String}
    {theme : Theme} :
    (calls.foldl apply store).themes.get? id = some theme ↔
      Latest calls id theme ∨
        (∀ call ∈ calls, ¬ call.Files id) ∧ store.themes.get? id = some theme := by
  rw [get?_foldl_apply, Option.or_eq_some_iff, lastTheme?_eq_some_iff, lastTheme?_eq_none_iff]

theorem choose_eq_ok_iff {calls : List StoreCall} {name : Option String} {theme : Theme} :
    choose calls name = .ok theme ↔
      (wanted calls name).findSome? (lastTheme? calls) = some theme := by
  rw [choose]
  cases (wanted calls name).findSome? (lastTheme? calls) <;> simp

theorem choose_eq_error_iff {calls : List StoreCall} {name : Option String} {failure : Failure} :
    choose calls name = .error failure ↔
      failure = .configuration defaultThemeId ∧
        (wanted calls name).findSome? (lastTheme? calls) = none := by
  rw [choose]
  cases (wanted calls name).findSome? (lastTheme? calls) <;> simp [eq_comm]

/-- A store answers with the theme that was last filed under the first wanted id under which any
theme was filed, and fails exactly when nothing was filed under any wanted id. -/
theorem replay_answers_from_log (calls : List StoreCall) (name : Option String) :
    (∀ theme, (replay calls).choose name = .ok theme ↔
      ∃ absent id others, wanted calls name = absent ++ id :: others ∧
        (∀ other ∈ absent, ∀ call ∈ calls, ¬ call.Files other) ∧ Latest calls id theme) ∧
    ∀ failure, (replay calls).choose name = .error failure ↔
      failure = .configuration defaultThemeId ∧
        ∀ id ∈ wanted calls name, ∀ call ∈ calls, ¬ call.Files id := by
  rw [choose_replay]
  constructor
  · intro theme
    rw [choose_eq_ok_iff, List.findSome?_eq_some_iff]
    simp only [lastTheme?_eq_some_iff, lastTheme?_eq_none_iff]
    constructor
    · rintro ⟨absent, id, others, hwanted, hlatest, habsent⟩
      exact ⟨absent, id, others, hwanted, habsent, hlatest⟩
    · rintro ⟨absent, id, others, hwanted, habsent, hlatest⟩
      exact ⟨absent, id, others, hwanted, hlatest, habsent⟩
  · intro failure
    rw [choose_eq_error_iff, List.findSome?_eq_none_iff]
    simp only [lastTheme?_eq_none_iff]

end StoreCall

end CodeHighlight

import Mathlib.Data.List.Basic
import CodeHighlight.Proofs.Failure
import CodeHighlight.Proofs.PathText
import CodeHighlight.Proofs.Text.ByteOrder
import CodeHighlight.Proofs.Theme.Log
import CodeHighlight.Theme.Directory

/-! # Loading a directory of themes

Names are sorted before anything is read, so the order in which a directory lists them is of no
account. What is then registered is what the files hold, one after the other: a file that holds no
theme is passed over, and of several files for one id the last one counts. -/
namespace CodeHighlight

open CodeHighlight.Text

/-! ## Sorted names -/

theorem sorted_mergeSort (names : List String) : names.mergeSort.Pairwise (· ≤ ·) := by
  have hsorted : names.mergeSort.Pairwise fun a b => decide (a ≤ b) = true := by
    apply List.pairwise_mergeSort
    · intro a b c hab hbc
      rw [decide_eq_true_eq] at hab hbc ⊢
      exact String.le_trans hab hbc
    · intro a b
      rw [Bool.or_eq_true, decide_eq_true_eq, decide_eq_true_eq]
      exact String.le_total a b
  exact hsorted.imp of_decide_eq_true

theorem mergeSort_eq_of_perm {names others : List String} (h : names.Perm others) :
    names.mergeSort = others.mergeSort := by
  have hperm : names.mergeSort.Perm others.mergeSort :=
    (List.mergeSort_perm names _).trans (h.trans (List.mergeSort_perm others _).symm)
  exact hperm.eq_of_pairwise (fun _ _ _ _ => String.le_antisymm) (sorted_mergeSort names)
    (sorted_mergeSort others)

theorem mergeSort_bytes_ordered {names : List String} (h : names.Nodup) :
    names.mergeSort.Pairwise (bytes · < bytes ·) := by
  have hdistinct : names.mergeSort.Nodup := (List.mergeSort_perm names _).nodup_iff.mpr h
  refine ((sorted_mergeSort names).and hdistinct).imp ?_
  rintro a b ⟨hle, hne⟩
  rw [bytes_lt_iff]
  by_contra hge
  exact hne (String.le_antisymm hle (String.not_lt.mp hge))

/-! ## What a file holds -/

theorem Theme.id_named {stem : String} (theme : Theme) (h : stem ≠ "") :
    (theme.named stem).id ≠ "" := by
  rw [named]
  by_cases hid : theme.id = ""
  · rw [if_pos hid]
    exact h
  · rw [if_neg hid]
    exact hid

theorem Theme.ofFile_eq_ok_iff {files : FileSystem} {path stem : String} {theme : Theme}
    (hstem : PathText.stem? path = some stem) :
    ofFile files path = .ok theme ↔
      ∃ document written, files.read path = .ok document ∧
        (if PathText.extension? path = some "json" then ofJson document
          else ofYaml document) = .ok written ∧ theme = written.named stem := by
  rw [ofFile, Failure.bind_eq_ok_iff]
  refine exists_congr fun document => ?_
  rw [Failure.mapError_eq_ok_iff, Failure.bind_eq_ok_iff, ← exists_and_left]
  refine exists_congr fun written => ?_
  rw [Failure.mapError_eq_ok_iff, ofDocument, hstem, named]
  refine and_congr_right fun _ => and_congr_right fun _ => ?_
  by_cases hid : written.id = ""
  · rw [if_pos (String.isEmpty_iff.mpr hid), if_pos hid]
    constructor
    · intro h
      cases h
      rfl
    · rintro rfl
      rfl
  · rw [if_neg (mt String.isEmpty_iff.mp hid), if_neg hid]
    constructor
    · intro h
      cases h
      rfl
    · rintro rfl
      rfl

namespace ThemeStore

variable {files others : FileSystem} {directory name id : String} {theme : Theme}

/-- The extensions of files that are read at all. -/
def IsThemeExtension (extension : String) : Prop :=
  extension = "yaml" ∨ extension = "yml" ∨ extension = "json"

theorem IsThemeExtension.ne_empty {extension : String} (h : IsThemeExtension extension) :
    extension ≠ "" := by
  rcases h with rfl | rfl | rfl <;> decide

theorem IsThemeExtension.noDot {extension : String} (h : IsThemeExtension extension) :
    '.' ∉ extension.toList := by
  rcases h with rfl | rfl | rfl <;> decide

theorem isThemeFile_iff (hslash : '/' ∉ name.toList) :
    isThemeFile name = true ↔
      ∃ stem extension, name = stem ++ "." ++ extension ∧ stem ≠ "" ∧
        IsThemeExtension extension := by
  rw [isThemeFile]
  constructor
  · intro h
    split at h
    · rename_i extension hextension
      have hread : IsThemeExtension extension := by
        simpa [IsThemeExtension, or_assoc] using h
      obtain ⟨stem, hname, hstem, -⟩ :=
        (PathText.extension?_eq_some_iff hslash hread.ne_empty).mp hextension
      exact ⟨stem, extension, hname, hstem, hread⟩
    · cases h
  · rintro ⟨stem, extension, hname, hstem, hread⟩
    have hextension : PathText.extension? name = some extension :=
      (PathText.extension?_eq_some_iff hslash hread.ne_empty).mpr
        ⟨stem, hname, hstem, hread.noDot⟩
    rw [hextension]
    rcases hread with rfl | rfl | rfl <;> rfl

theorem ofFile_join_eq_ok_iff {stem extension : String} (hstem : stem ≠ "")
    (hread : IsThemeExtension extension) (hslash : '/' ∉ (stem ++ "." ++ extension).toList) :
    Theme.ofFile files (PathText.join directory (stem ++ "." ++ extension)) = .ok theme ↔
      ∃ document written,
        files.read (PathText.join directory (stem ++ "." ++ extension)) = .ok document ∧
        (if extension = "json" then Theme.ofJson document
          else Theme.ofYaml document) = .ok written ∧ theme = written.named stem := by
  have hextension :=
    PathText.extension?_join hstem hread.ne_empty hread.noDot hslash directory
  rw [Theme.ofFile_eq_ok_iff
    (PathText.stem?_join hstem hread.ne_empty hread.noDot hslash directory)]
  simp only [hextension, Option.some_inj]

/-- A file holds what reading it under its path gives, as long as its name is that of a theme. -/
theorem holds_iff (hslash : '/' ∉ name.toList) :
    Holds files directory name theme ↔
      isThemeFile name = true ∧ Theme.ofFile files (PathText.join directory name) = .ok theme := by
  constructor
  · intro h
    cases h with
    | json hstem hfile hjson =>
      have hread : IsThemeExtension "json" := .inr (.inr rfl)
      exact ⟨(isThemeFile_iff hslash).mpr ⟨_, _, rfl, hstem, hread⟩,
        (ofFile_join_eq_ok_iff hstem hread hslash).mpr ⟨_, _, hfile, hjson, rfl⟩⟩
    | yaml hstem hextension hfile hyaml =>
      have hread : IsThemeExtension _ := hextension.imp_right .inl
      refine ⟨(isThemeFile_iff hslash).mpr ⟨_, _, rfl, hstem, hread⟩,
        (ofFile_join_eq_ok_iff hstem hread hslash).mpr ⟨_, _, hfile, ?_, rfl⟩⟩
      rcases hextension with rfl | rfl
      · exact hyaml
      · exact hyaml
  · rintro ⟨hname, hfile⟩
    obtain ⟨stem, extension, rfl, hstem, hread⟩ := (isThemeFile_iff hslash).mp hname
    obtain ⟨document, written, hdocument, hwritten, rfl⟩ :=
      (ofFile_join_eq_ok_iff hstem hread hslash).mp hfile
    rcases hread with rfl | rfl | rfl
    · exact .yaml hstem (.inl rfl) hdocument hwritten
    · exact .yaml hstem (.inr rfl) hdocument hwritten
    · exact .json hstem hdocument hwritten

theorem Holds.id_ne_empty (h : Holds files directory name theme) : theme.id ≠ "" := by
  cases h with
  | json hstem hfile hjson => exact Theme.id_named _ hstem
  | yaml hstem hextension hfile hyaml => exact Theme.id_named _ hstem

/-! ## Registering what files hold -/

/-- Of some names those whose files hold a theme, each with its theme. -/
def held (files : FileSystem) (directory : String) (names : List String) :
    List (String × Theme) :=
  names.filterMap fun name =>
    (Theme.ofFile files (PathText.join directory name)).toOption.map (name, ·)

theorem registerFiles_eq (files : FileSystem) (directory : String) (names : List String)
    (store : ThemeStore) :
    registerFiles files (names.map (PathText.join directory)) store =
      ((held files directory names).map fun file => normalizeThemeId (ownName file.2),
        (held files directory names).foldl
          (fun store file => (store.register file.2).2) store) := by
  induction names generalizing store with
  | nil => rfl
  | cons name names ih =>
    -- A file without a theme is on neither side, and the store is as it was for the others.
    rw [List.map_cons, registerFiles, held, List.filterMap_cons]
    cases hfile : Theme.ofFile files (PathText.join directory name) with
    | error failure => exact ih store
    | ok theme =>
      dsimp only
      rw [ih]
      rfl

theorem mem_held {names : List String} :
    (name, theme) ∈ held files directory names ↔
      name ∈ names ∧ Theme.ofFile files (PathText.join directory name) = .ok theme := by
  rw [held, List.mem_filterMap]
  constructor
  · rintro ⟨other, hother, hfile⟩
    obtain ⟨found, hfound, heq⟩ := Option.map_eq_some_iff.mp hfile
    cases heq
    exact ⟨hother, Failure.toOption_eq_some_iff.mp hfound⟩
  · rintro ⟨hname, hfile⟩
    exact ⟨name, hname, by rw [hfile]; rfl⟩

theorem held_ordered {names : List String} (h : names.Pairwise (bytes · < bytes ·)) :
    (held files directory names).Pairwise fun file other => bytes file.1 < bytes other.1 := by
  rw [held, List.pairwise_filterMap]
  refine h.imp fun {name other} hlt => ?_
  intro file hfile later hlater
  obtain ⟨-, -, rfl⟩ := Option.map_eq_some_iff.mp hfile
  obtain ⟨-, -, rfl⟩ := Option.map_eq_some_iff.mp hlater
  exact hlt

/-- The last call of several that registers a theme for an id is the last file that holds one. -/
theorem latest_iff {held : List (String × Theme)} (hids : ∀ file ∈ held, file.2.id ≠ "") :
    StoreCall.Latest (held.map fun file => .register file.2) id theme ↔ LastHeld held id theme := by
  constructor
  · rintro ⟨earlier, call, later, filed, hcalls, hcall, hlater, rfl⟩
    obtain ⟨before, rest, rfl, -, hrest⟩ := List.map_eq_append_iff.mp hcalls
    obtain ⟨file, after, rfl, rfl, rfl⟩ := List.map_eq_cons_iff.mp hrest
    rw [StoreCall.registration?_register (hids file (by simp))] at hcall
    obtain ⟨rfl, rfl⟩ := Prod.mk.inj (Option.some.inj hcall)
    refine ⟨before, file, after, rfl, rfl, ?_, rfl⟩
    intro other hother heq
    refine hlater _ (List.mem_map_of_mem hother) ?_
    exact (StoreCall.files_register_iff (hids other (by simp [hother]))).mpr heq
  · rintro ⟨before, file, after, rfl, hid, hafter, rfl⟩
    refine ⟨_, .register file.2, _, file.2, by rw [List.map_append, List.map_cons], ?_, ?_, rfl⟩
    · rw [StoreCall.registration?_register (hids file (by simp)), hid]
    · intro call hcall
      obtain ⟨other, hother, rfl⟩ := List.mem_map.mp hcall
      rw [StoreCall.files_register_iff (hids other (by simp [hother]))]
      exact hafter other hother

theorem get?_registerAll {store : ThemeStore} {held : List (String × Theme)}
    (hids : ∀ file ∈ held, file.2.id ≠ "") :
    (held.foldl (fun store file => (store.register file.2).2) store).themes.get? id = some theme ↔
      LastHeld held id theme ∨
        (∀ file ∈ held, normalizeThemeId file.2.id ≠ id) ∧ store.themes.get? id = some theme := by
  have hcalls : held.foldl (fun store file => (store.register file.2).2) store =
      (held.map fun file => StoreCall.register file.2).foldl StoreCall.apply store := by
    rw [List.foldl_map]
    rfl
  rw [hcalls, StoreCall.get?_foldl_apply_iff, latest_iff hids, List.forall_mem_map]
  refine or_congr_right (and_congr_left fun _ => ?_)
  refine forall_congr' fun file => forall_congr' fun hfile => ?_
  rw [StoreCall.files_register_iff (hids file hfile)]

theorem defaultId_registerAll (store : ThemeStore) (held : List (String × Theme)) :
    (held.foldl (fun store file => (store.register file.2).2) store).defaultId =
      store.defaultId := by
  induction held generalizing store with
  | nil => rfl
  | cons file held ih =>
    rw [List.foldl_cons, ih, register, registerAs]

/-! ## Loading a directory -/

/-- The names of theme files, in order. -/
def sortedNames (files : FileSystem) (directory : String) : List String :=
  ((files.names directory).filter isThemeFile).mergeSort

theorem loadDirectory_of_relisted (h : files.Relisted others directory) (store : ThemeStore) :
    store.loadDirectory files directory = store.loadDirectory others directory := by
  have hfile : Theme.ofFile files = Theme.ofFile others := by
    funext path
    rw [Theme.ofFile, Theme.ofFile, h.read]
  have hregister : ∀ paths store,
      registerFiles files paths store = registerFiles others paths store := by
    intro paths
    induction paths with
    | nil =>
      intro store
      rfl
    | cons path paths ih =>
      intro store
      simp only [registerFiles, hfile, ih]
  have hpaths : themeFiles files directory = themeFiles others directory :=
    congrArg (List.map (PathText.join directory)) (mergeSort_eq_of_perm (h.list.filter isThemeFile))
  rw [loadDirectory, loadDirectory, hpaths, hregister]

theorem mem_held_sortedNames (h : files.Lists directory) :
    (name, theme) ∈ held files directory (sortedNames files directory) ↔
      name ∈ files.names directory ∧ Holds files directory name theme := by
  rw [mem_held, sortedNames, List.mem_mergeSort, List.mem_filter, and_assoc]
  refine and_congr_right fun hname => ?_
  rw [holds_iff (h.noSlash name hname)]

theorem loadDirectory_eq (h : files.Lists directory) (store : ThemeStore) :
    store.loadDirectory files directory =
      ((held files directory (sortedNames files directory)).map
          fun file => normalizeThemeId file.2.id,
        (held files directory (sortedNames files directory)).foldl
          (fun store file => (store.register file.2).2) store) := by
  -- No file gives a theme without an id, so none is filed under the default for want of one.
  have hnames : ∀ file ∈ held files directory (sortedNames files directory),
      normalizeThemeId (ownName file.2) = normalizeThemeId file.2.id := by
    rintro ⟨name, theme⟩ hfile
    have hid := ((mem_held_sortedNames h).mp hfile).2.id_ne_empty
    rw [ownName, if_neg (mt String.isEmpty_iff.mp hid)]
  rw [loadDirectory, ← List.map_congr_left hnames]
  exact registerFiles_eq files directory (sortedNames files directory) store

/-- Loading a directory does not depend on the order in which its names are listed. It registers, in
the order of the bytes of their names, the themes that the files hold, and nothing else: the answer
is the ids of those themes in that order; every id has the theme of the last file that holds one for
it, and the theme that it had where no file does; and the default stays. -/
theorem loadDirectory_in_byte_order (h : files.Lists directory) (store : ThemeStore) :
    (∀ others, files.Relisted others directory →
      store.loadDirectory files directory = store.loadDirectory others directory) ∧
    ∃ held : List (String × Theme),
      held.Pairwise (fun file other => bytes file.1 < bytes other.1) ∧
      (∀ name theme, (name, theme) ∈ held ↔
        name ∈ files.names directory ∧ Holds files directory name theme) ∧
      store.loadDirectory files directory =
        (held.map fun file => normalizeThemeId file.2.id,
          held.foldl (fun store file => (store.register file.2).2) store) ∧
      (∀ id theme, (store.loadDirectory files directory).2.themes.get? id = some theme ↔
        LastHeld held id theme ∨
          (∀ file ∈ held, normalizeThemeId file.2.id ≠ id) ∧ store.themes.get? id = some theme) ∧
      (store.loadDirectory files directory).2.defaultId = store.defaultId := by
  have hids : ∀ file ∈ held files directory (sortedNames files directory), file.2.id ≠ "" := by
    rintro ⟨name, theme⟩ hfile
    exact ((mem_held_sortedNames h).mp hfile).2.id_ne_empty
  refine ⟨fun others hothers => loadDirectory_of_relisted hothers store,
    held files directory (sortedNames files directory),
    held_ordered (mergeSort_bytes_ordered (h.nodup.filter _)),
    fun name theme => mem_held_sortedNames h, loadDirectory_eq h store, ?_, ?_⟩
  · intro id theme
    rw [loadDirectory_eq h]
    exact get?_registerAll hids
  · rw [loadDirectory_eq h]
    exact defaultId_registerAll store _

namespace Shuffled

/-- Two themes go by one id, one of them in another spelling and the other by the name of its file.
Of the rest one file is malformed and one cannot be read. -/
def read (path : String) : Except ReadFailure String :=
  if path = "themes/a.json" then
    .ok "\x7b\"id\":\"Night_Owl\",\"name\":\"Day\",\"styles\":\x7b\x7d\x7d"
  else if path = "themes/NIGHT-OWL.json" then .ok "\x7b\"styles\":\x7b\x7d\x7d"
  else if path = "themes/b.json" then .ok "\x7b"
  else .error .notFound

def folder : FileSystem :=
  ⟨read, fun _ => some ["b.json", "a.json", "notes", "c.yml", "NIGHT-OWL.json"]⟩

def turned : FileSystem :=
  ⟨read, fun _ => some ["NIGHT-OWL.json", "c.yml", "notes", "a.json", "b.json"]⟩

def day : Theme := ⟨"night-owl", some "Day", .empty⟩

theorem folder_lists : folder.Lists "themes" := ⟨by decide, by decide⟩

theorem folder_relisted : folder.Relisted turned "themes" := ⟨rfl, by decide⟩

theorem themeFiles_folder : themeFiles folder "themes" =
    ["themes/NIGHT-OWL.json", "themes/a.json", "themes/b.json", "themes/c.yml"] := by
  have hnames : (folder.names "themes").filter isThemeFile =
      ["b.json", "a.json", "c.yml", "NIGHT-OWL.json"] := by decide +kernel
  have hsorted : ["b.json", "a.json", "c.yml", "NIGHT-OWL.json"].mergeSort =
      ["NIGHT-OWL.json", "a.json", "b.json", "c.yml"] := by
    rw [mergeSort_eq_of_perm
      (by decide : List.Perm _ ["NIGHT-OWL.json", "a.json", "b.json", "c.yml"])]
    exact List.mergeSort_of_pairwise (by decide)
  change List.map _ (List.mergeSort ((folder.names "themes").filter isThemeFile)) = _
  rw [hnames, hsorted]
  decide +kernel

theorem loadDirectory_folder : empty.loadDirectory folder "themes" =
    (["night-owl", "night-owl"], ⟨Catalog.empty.insert "night-owl" day, defaultThemeId⟩) := by
  rw [loadDirectory, themeFiles_folder]
  decide +kernel

end Shuffled

open Shuffled in
/-- Of two themes for one id the one in the later file is kept, in whatever order the files are
listed. -/
theorem loadDirectory_in_byte_order_of_shuffled :
    folder.Lists "themes" ∧ folder.Relisted turned "themes" ∧
      (empty.loadDirectory turned "themes").1 = ["night-owl", "night-owl"] ∧
      (empty.loadDirectory turned "themes").2.get? "Night_Owl" = some day := by
  obtain ⟨hturned, -⟩ := loadDirectory_in_byte_order folder_lists empty
  rw [← hturned turned folder_relisted, loadDirectory_folder]
  have hget : (ThemeStore.mk (Catalog.empty.insert "night-owl" day) defaultThemeId).get?
      "Night_Owl" = some day := by decide +kernel
  exact ⟨folder_lists, folder_relisted, rfl, hget⟩

end ThemeStore

end CodeHighlight

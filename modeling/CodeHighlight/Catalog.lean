/-! # Catalogs

A catalog files values under names. Entries stand in the order of their names and each name occurs
once, so two catalogs that answer every lookup alike are equal.
-/
namespace CodeHighlight

/-- Put a value under a name among ordered entries, in place of the value that was there. -/
def insertEntry {α : Type} (name : String) (value : α) :
    List (String × α) → List (String × α)
  | [] => [(name, value)]
  | entry :: rest =>
    if name < entry.1 then (name, value) :: entry :: rest
    else if name = entry.1 then (name, value) :: rest
    else entry :: insertEntry name value rest

/-- The first entry of this name. -/
def findValue? {α : Type} (name : String) : List (String × α) → Option α
  | [] => none
  | entry :: rest => if entry.1 = name then some entry.2 else findValue? name rest

theorem mem_insertEntry {α : Type} {name : String} {value : α} {entries : List (String × α)}
    {e : String × α} (h : e ∈ insertEntry name value entries) :
    e = (name, value) ∨ e ∈ entries := by
  induction entries with
  | nil => simpa [insertEntry] using h
  | cons entry rest ih => grind [insertEntry]

theorem insertEntry_ordered {α : Type} (name : String) (value : α)
    {entries : List (String × α)} (h : entries.Pairwise (·.1 < ·.1)) :
    (insertEntry name value entries).Pairwise (·.1 < ·.1) := by
  induction entries with
  | nil => simp [insertEntry]
  | cons entry rest ih =>
    rw [List.pairwise_cons] at h
    rw [insertEntry]
    split
    · rename_i hlt
      refine List.pairwise_cons.mpr ⟨fun e he => ?_, List.pairwise_cons.mpr h⟩
      rcases List.mem_cons.mp he with rfl | he
      · exact hlt
      · exact String.lt_trans hlt (h.1 e he)
    · split
      · rename_i heq
        exact List.pairwise_cons.mpr ⟨fun e he => heq ▸ h.1 e he, h.2⟩
      · rename_i hnlt hne
        refine List.pairwise_cons.mpr ⟨fun e he => ?_, ih h.2⟩
        rcases mem_insertEntry he with rfl | he
        · exact Classical.byContradiction fun hge =>
            hne (String.le_antisymm (String.not_lt.mp hge) (String.not_lt.mp hnlt))
        · exact h.1 e he

theorem findValue?_insertEntry {α : Type} (name other : String) (value : α)
    (entries : List (String × α)) :
    findValue? other (insertEntry name value entries) =
      if other = name then some value else findValue? other entries := by
  induction entries with
  | nil => grind [insertEntry, findValue?]
  | cons entry rest ih => grind [insertEntry, findValue?]

theorem mem_of_findValue? {α : Type} {name : String} {value : α} {entries : List (String × α)}
    (h : findValue? name entries = some value) : (name, value) ∈ entries := by
  induction entries with
  | nil => simp [findValue?] at h
  | cons entry rest ih => grind [findValue?]

theorem findValue?_of_mem {α : Type} {entry : String × α} {entries : List (String × α)}
    (ordered : entries.Pairwise (·.1 < ·.1)) (h : entry ∈ entries) :
    findValue? entry.1 entries = some entry.2 := by
  induction entries with
  | nil => simp at h
  | cons first rest ih =>
    rw [List.pairwise_cons] at ordered
    rcases List.mem_cons.mp h with rfl | h
    · simp [findValue?]
    · have hne : first.1 ≠ entry.1 := fun heq =>
        String.lt_irrefl entry.1 (heq ▸ ordered.1 entry h)
      simp [findValue?, hne, ih ordered.2 h]

/-- Ordered entries are determined by what they answer. -/
theorem eq_of_findValue?_eq {α : Type} {a b : List (String × α)}
    (ha : a.Pairwise (·.1 < ·.1)) (hb : b.Pairwise (·.1 < ·.1))
    (h : ∀ name, findValue? name a = findValue? name b) : a = b := by
  have mem_iff : ∀ entry, entry ∈ a ↔ entry ∈ b := fun entry =>
    ⟨fun he => mem_of_findValue? ((h entry.1) ▸ findValue?_of_mem ha he),
      fun he => mem_of_findValue? ((h entry.1).symm ▸ findValue?_of_mem hb he)⟩
  clear h
  induction a generalizing b with
  | nil => exact (List.eq_nil_iff_forall_not_mem.mpr fun entry he =>
      List.not_mem_nil ((mem_iff entry).mpr he)).symm
  | cons first rest ih =>
    match b, hb, mem_iff with
    | [], _, mem_iff => exact absurd ((mem_iff first).mp List.mem_cons_self) List.not_mem_nil
    | other :: others, hb, mem_iff =>
      rw [List.pairwise_cons] at ha hb
      have hfirst : first = other := by
        rcases List.mem_cons.mp ((mem_iff first).mp List.mem_cons_self) with hf | hf
        · exact hf
        · rcases List.mem_cons.mp ((mem_iff other).mpr List.mem_cons_self) with ho | ho
          · exact ho.symm
          · exact absurd (String.lt_trans (ha.1 other ho) (hb.1 first hf)) (String.lt_irrefl _)
      subst hfirst
      refine congrArg (first :: ·) (ih ha.2 hb.2 fun entry => ⟨fun he => ?_, fun he => ?_⟩)
      · rcases List.mem_cons.mp ((mem_iff entry).mp (List.mem_cons_of_mem _ he)) with rfl | he'
        · exact absurd (ha.1 entry he) (String.lt_irrefl _)
        · exact he'
      · rcases List.mem_cons.mp ((mem_iff entry).mpr (List.mem_cons_of_mem _ he)) with rfl | he'
        · exact absurd (hb.1 entry he) (String.lt_irrefl _)
        · exact he'

/-- Values filed under names. -/
structure Catalog (α : Type) where
  entries : List (String × α)
  ordered : entries.Pairwise (·.1 < ·.1)
deriving DecidableEq

namespace Catalog

variable {α : Type}

def empty : Catalog α := ⟨[], .nil⟩

instance : Inhabited (Catalog α) := ⟨empty⟩

/-- File a value, replacing what the name held before. -/
def insert (catalog : Catalog α) (name : String) (value : α) : Catalog α :=
  ⟨insertEntry name value catalog.entries, insertEntry_ordered name value catalog.ordered⟩

def get? (catalog : Catalog α) (name : String) : Option α :=
  findValue? name catalog.entries

def contains (catalog : Catalog α) (name : String) : Bool :=
  (catalog.get? name).isSome

def names (catalog : Catalog α) : List String :=
  catalog.entries.map (·.1)

/-- Of several values for a name the last one is kept. -/
def ofList (pairs : List (String × α)) : Catalog α :=
  pairs.foldl (fun catalog pair => catalog.insert pair.1 pair.2) empty

@[simp]
theorem get?_empty (name : String) : (empty : Catalog α).get? name = none := rfl

theorem get?_insert (catalog : Catalog α) (name other : String) (value : α) :
    (catalog.insert name value).get? other =
      if other = name then some value else catalog.get? other :=
  findValue?_insertEntry name other value catalog.entries

@[simp]
theorem get?_insert_self (catalog : Catalog α) (name : String) (value : α) :
    (catalog.insert name value).get? name = some value := by
  simp [get?_insert]

theorem get?_insert_of_ne (catalog : Catalog α) {name other : String} (value : α)
    (h : other ≠ name) : (catalog.insert name value).get? other = catalog.get? other := by
  simp [get?_insert, h]

/-- Catalogs that answer every lookup alike are equal. -/
theorem ext_get? {a b : Catalog α} (h : ∀ name, a.get? name = b.get? name) : a = b := by
  obtain ⟨entries, ordered⟩ := a
  obtain ⟨others, others_ordered⟩ := b
  have := eq_of_findValue?_eq ordered others_ordered h
  subst this
  rfl

/-- Values under different names may be filed in either order. -/
theorem insert_comm (catalog : Catalog α) {a b : String} (x y : α) (h : a ≠ b) :
    (catalog.insert a x).insert b y = (catalog.insert b y).insert a x := by
  apply ext_get?
  intro name
  grind [get?_insert]

theorem mem_names {catalog : Catalog α} {name : String} :
    name ∈ catalog.names ↔ (catalog.get? name).isSome := by
  constructor
  · intro h
    obtain ⟨entry, he, rfl⟩ := List.mem_map.mp h
    exact Option.isSome_iff_exists.mpr ⟨entry.2, findValue?_of_mem catalog.ordered he⟩
  · intro h
    obtain ⟨value, hv⟩ := Option.isSome_iff_exists.mp h
    exact List.mem_map.mpr ⟨(name, value), mem_of_findValue? hv, rfl⟩

theorem mem_names_of_get? {catalog : Catalog α} {name : String} {value : α}
    (h : catalog.get? name = some value) : name ∈ catalog.names :=
  mem_names.mpr (Option.isSome_iff_exists.mpr ⟨value, h⟩)

theorem names_ordered (catalog : Catalog α) : catalog.names.Pairwise (· < ·) :=
  List.pairwise_map.mpr catalog.ordered

end Catalog

end CodeHighlight

import CodeHighlight.Theme.Cascade

/-! # The nearest entry answers

The names that are asked for in turn are those that head the key, the longest first. So the search
ends with the style of the longest that the theme has, and a color is that style's own. -/
namespace CodeHighlight

/-! ## The names on the way -/

theorem mem_ancestors {name key : List Char} : name ∈ ancestors key ↔ name ++ ['.'] <+: key := by
  induction key generalizing name with
  | nil => simp [ancestors]
  | cons c key ih =>
    rw [ancestors, List.mem_append, List.mem_map]
    cases name with
    | nil =>
      rw [List.nil_append, List.cons_prefix_cons]
      by_cases hdot : c = '.'
      · simp [hdot]
      · simp [hdot, Ne.symm hdot]
    | cons d name =>
      have hlonger : (∃ other ∈ ancestors key, c :: other = d :: name) ↔
          d = c ∧ name ∈ ancestors key := by
        simp only [List.cons.injEq]
        constructor
        · rintro ⟨_, hother, rfl, rfl⟩
          exact ⟨rfl, hother⟩
        · rintro ⟨rfl, hname⟩
          exact ⟨name, hname, rfl, rfl⟩
      rw [List.cons_append, List.cons_prefix_cons, ← ih, hlonger]
      split <;> simp

theorem ancestors_of_undotted {key : List Char} (h : '.' ∉ key) : ancestors key = [] := by
  rw [List.eq_nil_iff_forall_not_mem]
  intro name hname
  exact h ((mem_ancestors.mp hname).subset (by simp))

theorem ancestors_cut {front back : List Char} (h : '.' ∉ back) :
    ancestors (front ++ '.' :: back) = front :: ancestors front := by
  induction front with
  | nil => simp [ancestors, ancestors_of_undotted h]
  | cons c front ih => simp [ancestors, ih]

theorem ancestors_ordered (key : List Char) :
    (ancestors key).Pairwise fun a b => b.length < a.length := by
  induction key with
  | nil => exact .nil
  | cons c key ih =>
    rw [ancestors]
    refine List.pairwise_append.mpr ⟨List.pairwise_map.mpr (ih.imp Nat.succ_lt_succ), ?_, ?_⟩
    · split
      · exact List.pairwise_singleton _ _
      · exact .nil
    · intro a ha b hb
      obtain ⟨other, -, rfl⟩ := List.mem_map.mp ha
      split at hb
      · rw [List.mem_singleton.mp hb]
        exact Nat.succ_pos _
      · cases hb

/-- The names that are asked for, one after the other. -/
def lookups (key : String) : List String :=
  (key.toList :: ancestors key.toList).map String.ofList

theorem mem_lookups {name key : String} : name ∈ lookups key ↔ Heads name key := by
  have hname : ∀ cs, String.ofList cs = name ↔ cs = name.toList := fun cs =>
    ⟨fun h => by rw [← h, String.toList_ofList], fun h => by rw [h, String.ofList_toList]⟩
  simp only [lookups, List.mem_map, List.mem_cons, hname]
  constructor
  · rintro ⟨_, rfl | hmem, hcs⟩
    · exact .inl (String.toList_injective hcs.symm)
    · right
      rw [String.toList_append, ← hcs]
      exact mem_ancestors.mp hmem
  · rintro (rfl | hprefix)
    · exact ⟨_, .inl rfl, rfl⟩
    · rw [String.toList_append] at hprefix
      exact ⟨_, .inr (mem_ancestors.mpr hprefix), rfl⟩

theorem lookups_ordered (key : String) :
    (lookups key).Pairwise fun a b => b.length < a.length := by
  refine List.pairwise_map.mpr (List.pairwise_cons.mpr ⟨fun name hname => ?_, ?_⟩)
  · have hlength := (mem_ancestors.mp hname).length_le
    rw [List.length_append, List.length_singleton] at hlength
    rw [String.length_ofList, String.length_ofList]
    exact hlength
  · exact (ancestors_ordered key.toList).imp fun h => by simpa using h

theorem lookups_of_undotted {key : String} (h : '.' ∉ key.toList) : lookups key = [key] := by
  simp [lookups, ancestors_of_undotted h]

theorem lookups_cut {front back : String} (h : '.' ∉ back.toList) :
    lookups (front ++ "." ++ back) = (front ++ "." ++ back) :: lookups front := by
  have hkey : (front ++ "." ++ back).toList = front.toList ++ '.' :: back.toList := by simp
  rw [lookups, hkey, ancestors_cut h, List.map_cons, ← hkey, String.ofList_toList, lookups]

/-- Empty segments are segments like any other. -/
example : lookups "..a" = ["..a", ".", ""] := by decide

/-- A key with a dot is what stands before its last dot, and the rest. -/
theorem exists_cut {key : String} (h : '.' ∈ key.toList) :
    ∃ front back : String, key = front ++ "." ++ back ∧ '.' ∉ back.toList := by
  obtain ⟨back, front, hkey, hback⟩ := List.eq_append_cons_of_mem (List.mem_reverse.mpr h)
  refine ⟨String.ofList front.reverse, String.ofList back.reverse, ?_, by simpa using hback⟩
  apply String.toList_injective
  rw [← List.reverse_reverse key.toList, hkey]
  simp

theorem toList_isPrefix_append (a b : String) : a.toList <+: (a ++ b).toList := by
  rw [String.toList_append]
  exact List.prefix_append _ _

theorem Heads.isPrefix {name key : String} (h : Heads name key) : name.toList <+: key.toList := by
  rcases h with rfl | h
  · exact List.prefix_refl _
  · exact (toList_isPrefix_append name ".").trans h

theorem Heads.cut {name front : String} (h : Heads name front) (back : String) :
    Heads name (front ++ "." ++ back) := by
  right
  rcases h with rfl | h
  · exact toList_isPrefix_append _ _
  · exact h.trans ((toList_isPrefix_append _ _).trans (toList_isPrefix_append _ _))

theorem Style.channel_eq_some_iff {style : Style} {channel : Channel} {color : String} :
    style.channel channel = some color ↔ style.Gives channel color := by
  constructor
  · intro h
    cases style with
    | color text =>
      cases channel with
      | foreground =>
        cases h
        exact .color _
      | background => cases h
    | channels foreground background =>
      cases channel with
      | foreground =>
        change foreground = some color at h
        subst h
        exact .foreground _ _
      | background =>
        change background = some color at h
        subst h
        exact .background _ _
  · rintro (_ | _ | _) <;> rfl

namespace Theme

variable {theme : Theme} {key : String}

theorem resolve?_eq (theme : Theme) (key : String) :
    theme.resolve? key = (lookups key).findSome? theme.styles.get? := by
  rw [resolve?, lookups, List.findSome?_map]
  rfl

/-! ## The search ends -/

theorem resolve?_of_some {style : Style} (h : theme.styles.get? key = some style) :
    theme.resolve? key = some style := by
  rw [resolve?_eq, lookups, List.map_cons, List.findSome?_cons, String.ofList_toList, h]

theorem resolve?_of_undotted (h : theme.styles.get? key = none) (hdot : '.' ∉ key.toList) :
    theme.resolve? key = none := by
  rw [resolve?_eq, lookups_of_undotted hdot, List.findSome?_cons, h, List.findSome?_nil]

theorem resolve?_cut {front back : String} (h : theme.styles.get? (front ++ "." ++ back) = none)
    (hback : '.' ∉ back.toList) :
    theme.resolve? (front ++ "." ++ back) = theme.resolve? front := by
  rw [resolve?_eq, lookups_cut hback, List.findSome?_cons, h, resolve?_eq]

theorem search_resolve? (theme : Theme) (key : String) : theme.Search key (theme.resolve? key) := by
  -- The part before a dot is shorter than the key, so the cuts come to an end.
  induction hlength : key.length using Nat.strongRecOn generalizing key with
  | ind length ih =>
    cases hentry : theme.styles.get? key with
    | some style =>
      rw [resolve?_of_some hentry]
      exact .found hentry
    | none =>
      by_cases hdot : '.' ∈ key.toList
      · obtain ⟨front, back, rfl, hback⟩ := exists_cut hdot
        have hshorter : front.length < length := by
          rw [← hlength, String.length_append, String.length_append]
          have : ".".length = 1 := rfl
          omega
        rw [resolve?_cut hentry hback]
        exact .cut hentry hback (ih _ hshorter front rfl)
      · rw [resolve?_of_undotted hentry hdot]
        exact .missed hentry hdot

/-- The search ends, and in one way only. -/
theorem search_iff {answer : Option Style} :
    theme.Search key answer ↔ answer = theme.resolve? key := by
  constructor
  · intro h
    induction h with
    | found hentry => exact (resolve?_of_some hentry).symm
    | missed hentry hdot => exact (resolve?_of_undotted hentry hdot).symm
    | cut hentry hback _ ih => rw [resolve?_cut hentry hback, ih]
  · rintro rfl
    exact search_resolve? theme key

/-! ## What it ends with -/

theorem Nearest.unique {name other : String} {style otherStyle : Style}
    (h : theme.Nearest key name style) (hother : theme.Nearest key other otherStyle) :
    style = otherStyle := by
  -- Both names head the key and neither is longer, so they are one and the same.
  have hlength : name.length = other.length :=
    Nat.le_antisymm (hother.longest name (Catalog.mem_names_of_get? h.entry) h.heads)
      (h.longest other (Catalog.mem_names_of_get? hother.entry) hother.heads)
  have hbegins : name.toList <+: other.toList :=
    List.prefix_of_prefix_length_le h.heads.isPrefix hother.heads.isPrefix (Nat.le_of_eq hlength)
  have hname : name = other := String.toList_injective (hbegins.eq_of_length hlength)
  subst hname
  exact Option.some.inj (h.entry.symm.trans hother.entry)

/-- Before the first name with a style no name has one, after it they are shorter. -/
theorem exists_nearest {style : Style} (h : theme.resolve? key = some style) :
    ∃ name, theme.Nearest key name style := by
  rw [resolve?_eq, List.findSome?_eq_some_iff] at h
  obtain ⟨longer, name, shorter, hlookups, hentry, hnone⟩ := h
  have hordered := lookups_ordered key
  rw [hlookups, List.pairwise_append, List.pairwise_cons] at hordered
  obtain ⟨-, ⟨hshorter, -⟩, -⟩ := hordered
  refine ⟨name, mem_lookups.mp (by simp [hlookups]), hentry, fun other hother hheads => ?_⟩
  have hmem := mem_lookups.mpr hheads
  rw [hlookups, List.mem_append, List.mem_cons] at hmem
  rcases hmem with hlonger | rfl | hmem
  · have hsome := Catalog.mem_names.mp hother
    rw [hnone other hlonger] at hsome
    cases hsome
  · exact Nat.le_refl _
  · exact Nat.le_of_lt (hshorter other hmem)

theorem resolve?_eq_none_iff :
    theme.resolve? key = none ↔ ∀ name ∈ theme.styles.names, ¬ Heads name key := by
  rw [resolve?_eq, List.findSome?_eq_none_iff]
  constructor
  · intro hnone name hname hheads
    have hsome := Catalog.mem_names.mp hname
    rw [hnone name (mem_lookups.mpr hheads)] at hsome
    cases hsome
  · intro hnone name hname
    cases hentry : theme.styles.get? name with
    | none => rfl
    | some style =>
      exact absurd (mem_lookups.mp hname) (hnone name (Catalog.mem_names_of_get? hentry))

theorem resolve?_eq_some_iff {style : Style} :
    theme.resolve? key = some style ↔ ∃ name, theme.Nearest key name style := by
  constructor
  · exact exists_nearest
  · rintro ⟨name, hnearest⟩
    cases hanswer : theme.resolve? key with
    | none =>
      have hname := Catalog.mem_names_of_get? hnearest.entry
      exact absurd hnearest.heads (resolve?_eq_none_iff.mp hanswer name hname)
    | some other =>
      obtain ⟨otherName, hother⟩ := exists_nearest hanswer
      rw [hnearest.unique hother]

/-- The search for a style ends with the style of the longest name that heads the key, or with none
if no name does, and a color is what that one style gives for the channel. -/
theorem search_ends_with_nearest (theme : Theme) (key : String) :
    (∀ answer, theme.Search key answer ↔ answer = theme.resolve? key) ∧
      (∀ style, theme.resolve? key = some style ↔ ∃ name, theme.Nearest key name style) ∧
      (theme.resolve? key = none ↔ ∀ name ∈ theme.styles.names, ¬ Heads name key) ∧
      ∀ channel color, theme.color? key channel = some color ↔
        ∃ name style, theme.Nearest key name style ∧ style.Gives channel color := by
  refine ⟨fun _ => search_iff, fun _ => resolve?_eq_some_iff, resolve?_eq_none_iff, ?_⟩
  intro channel color
  rw [color?, Option.bind_eq_some_iff]
  simp only [resolve?_eq_some_iff, Style.channel_eq_some_iff]
  constructor
  · rintro ⟨style, ⟨name, hnearest⟩, hgives⟩
    exact ⟨name, style, hnearest, hgives⟩
  · rintro ⟨name, style, hnearest, hgives⟩
    exact ⟨style, ⟨name, hnearest⟩, hgives⟩

end Theme

end CodeHighlight

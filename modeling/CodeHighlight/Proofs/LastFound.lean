/-! # The last entry that counts

A log is searched from its end. An entry that is added either answers itself or leaves the answer as
it was. -/
namespace CodeHighlight

variable {α β : Type} {f : α → Option β} {entries : List α}

theorem findSome?_reverse_append_singleton (f : α → Option β) (entries : List α) (entry : α) :
    (entries ++ [entry]).reverse.findSome? f = (f entry).or (entries.reverse.findSome? f) := by
  rw [List.reverse_append, List.reverse_singleton, List.singleton_append, List.findSome?_cons]
  cases f entry <;> rfl

theorem findSome?_reverse_eq_some_iff {b : β} :
    entries.reverse.findSome? f = some b ↔
      ∃ earlier entry later, entries = earlier ++ entry :: later ∧ f entry = some b ∧
        ∀ other ∈ later, f other = none := by
  rw [List.findSome?_eq_some_iff]
  constructor
  · rintro ⟨later, entry, earlier, hentries, hentry, hlater⟩
    refine ⟨earlier.reverse, entry, later.reverse, ?_, hentry, ?_⟩
    · rw [← List.reverse_reverse entries, hentries]
      simp
    · intro other hother
      exact hlater other (List.mem_reverse.mp hother)
  · rintro ⟨earlier, entry, later, rfl, hentry, hlater⟩
    refine ⟨later.reverse, entry, earlier.reverse, by simp, hentry, ?_⟩
    intro other hother
    exact hlater other (List.mem_reverse.mp hother)

theorem findSome?_reverse_eq_none_iff :
    entries.reverse.findSome? f = none ↔ ∀ entry ∈ entries, f entry = none := by
  rw [List.findSome?_eq_none_iff]
  constructor
  · intro hnone entry hentry
    exact hnone entry (List.mem_reverse.mpr hentry)
  · intro hnone entry hentry
    exact hnone entry (List.mem_reverse.mp hentry)

end CodeHighlight

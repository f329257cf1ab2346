import CodeHighlight.Text.Lowercase

/-! # Lower case is final

What lower case gives is lower case already: no run of the case data covers a character that another
run leads to, and a capital sigma never comes out. So a second pass changes nothing. -/
namespace CodeHighlight.Text

/-! ## The case data -/

/-- The characters that a run leads to. -/
def CaseRun.image (run : CaseRun) : CaseRun :=
  ⟨(run.first + run.shift).toNat, (run.last + run.shift).toNat, run.step, 0⟩

/-- The runs share no character: one ends before the other begins, or they step over each other. -/
def CaseRun.misses (run other : CaseRun) : Bool :=
  run.last.blt other.first || other.last.blt run.first ||
    ((run.step == 2 || run.first == run.last) && other.step == 2 &&
      (run.first + other.first) % 2 == 1)

/-- What the run leads to are characters, and none is `İ`, which has a rule of its own. -/
def CaseRun.isSound (run : CaseRun) : Bool :=
  0 ≤ run.first + run.shift &&
    (run.image.last.blt 0xD800 ||
      (Nat.blt 0xDFFF run.image.first && run.image.last.blt 0x110000)) &&
    run.image.misses ⟨'İ'.toNat, 'İ'.toNat, 1, 0⟩

theorem lowercaseRuns_miss :
    (lowercaseRuns.map (·.image)).all fun image => lowercaseRuns.all image.misses := by
  decide +kernel

theorem lowercaseRuns_sound : lowercaseRuns.all (·.isSound) := by
  decide +kernel

theorem CaseRun.contains_iff {run : CaseRun} {n : Nat} :
    run.contains n ↔ run.first ≤ n ∧ n ≤ run.last ∧ (n - run.first) % run.step = 0 := by
  simp [contains, and_assoc]

theorem CaseRun.misses_iff {run other : CaseRun} :
    run.misses other ↔ run.last < other.first ∨ other.last < run.first ∨
      ((run.step = 2 ∨ run.first = run.last) ∧ other.step = 2 ∧
        (run.first + other.first) % 2 = 1) := by
  simp [misses, or_assoc, and_assoc, Nat.blt_eq]

theorem CaseRun.contains_image {run : CaseRun} {n : Nat} (hn : run.contains n)
    (hpos : 0 ≤ run.first + run.shift) : run.image.contains (n + run.shift).toNat := by
  rw [contains_iff] at hn ⊢
  obtain ⟨hfirst, hlast, hstep⟩ := hn
  refine ⟨by simp only [image]; omega, by simp only [image]; omega, ?_⟩
  have hdistance : (n + run.shift).toNat - run.image.first = n - run.first := by
    simp only [image]
    omega
  rw [hdistance]
  exact hstep

theorem CaseRun.not_contains {run other : CaseRun} (hmiss : run.misses other) {n : Nat}
    (hn : run.contains n) : other.contains n = false := by
  rw [contains_iff] at hn
  obtain ⟨hfirst, hlast, hstep⟩ := hn
  rw [Bool.eq_false_iff]
  intro hother
  rw [contains_iff] at hother
  obtain ⟨hfirst', hlast', hstep'⟩ := hother
  rcases misses_iff.mp hmiss with hbelow | habove | ⟨hsteps, htwo, hodd⟩
  · omega
  · omega
  · rw [htwo] at hstep'
    rcases hsteps with hsteps | hsteps
    · rw [hsteps] at hstep
      omega
    · omega

/-! ## A second pass -/

/-- The character is its own lower case. -/
def IsLower (c : Char) : Prop := lowercaseChar c = [c]

instance (c : Char) : Decidable (IsLower c) := inferInstanceAs (Decidable (_ = _))

theorem IsLower.ne_sigma {c : Char} (h : IsLower c) : c ≠ 'Σ' := by
  rintro rfl
  exact absurd h (by decide)

theorem isLower_run {run : CaseRun} (hrun : run ∈ lowercaseRuns) {n : Nat}
    (hn : run.contains n) : IsLower (Char.ofNat (n + run.shift).toNat) := by
  have hsound := List.all_eq_true.mp lowercaseRuns_sound run hrun
  simp only [CaseRun.isSound, Bool.and_eq_true, Bool.or_eq_true, decide_eq_true_eq,
    Nat.blt_eq] at hsound
  obtain ⟨⟨hpos, hchar⟩, hdotted⟩ := hsound
  have himage := CaseRun.contains_image hn hpos
  have hbounds := CaseRun.contains_iff.mp himage
  have hvalid : ((n + run.shift).toNat).isValidChar := by
    simp only [Nat.isValidChar]
    omega
  have hnat : (Char.ofNat (n + run.shift).toNat).toNat = (n + run.shift).toNat := by
    rw [Char.ofNat, dif_pos hvalid]
    rfl
  have hne : Char.ofNat (n + run.shift).toNat ≠ 'İ' := by
    intro heq
    have hmiss := CaseRun.not_contains hdotted himage
    rw [← hnat, heq] at hmiss
    exact absurd hmiss (by decide)
  have hnone : lowercaseRuns.find? (·.contains (n + run.shift).toNat) = none := by
    rw [List.find?_eq_none]
    intro other hother
    have hmisses := List.all_eq_true.mp lowercaseRuns_miss run.image (List.mem_map_of_mem hrun)
    rw [CaseRun.not_contains (List.all_eq_true.mp hmisses other hother) himage]
    exact Bool.false_ne_true
  rw [IsLower, lowercaseChar, if_neg (by simpa using hne), hnat, hnone]

theorem isLower_lowercaseChar {c d : Char} (h : d ∈ lowercaseChar c) : IsLower d := by
  rw [lowercaseChar] at h
  split at h
  · rcases List.mem_cons.mp h with rfl | h
    · decide
    · rw [List.mem_singleton.mp h]
      decide
  · rename_i hne
    split at h
    · rename_i run hrun
      rw [List.mem_singleton.mp h]
      exact isLower_run (List.mem_of_find?_eq_some hrun) (by simpa using List.find?_some hrun)
    · rename_i hnone
      rw [List.mem_singleton.mp h, IsLower, lowercaseChar, if_neg hne, hnone]

theorem isLower_lowercaseFrom {before cs : List Char} {d : Char}
    (h : d ∈ lowercaseFrom before cs) : IsLower d := by
  induction cs generalizing before with
  | nil => cases h
  | cons c cs ih =>
    rw [lowercaseFrom, List.mem_append] at h
    rcases h with h | h
    · split at h
      · rw [List.mem_singleton.mp h]
        split <;> decide
      · exact isLower_lowercaseChar h
    · exact ih h

theorem lowercaseFrom_lower {before cs : List Char} (h : ∀ c ∈ cs, IsLower c) :
    lowercaseFrom before cs = cs := by
  induction cs generalizing before with
  | nil => rfl
  | cons c cs ih =>
    have hc : IsLower c := h c List.mem_cons_self
    rw [lowercaseFrom, if_neg (by simpa using hc.ne_sigma), hc,
      ih fun d hd => h d (List.mem_cons_of_mem c hd)]
    rfl

theorem isLower_lowercase {text : String} {c : Char} (h : c ∈ (lowercase text).toList) :
    IsLower c := by
  rw [lowercase, String.toList_ofList] at h
  exact isLower_lowercaseFrom h

theorem lowercase_lower {text : String} (h : ∀ c ∈ text.toList, IsLower c) :
    lowercase text = text := by
  rw [lowercase, lowercaseFrom_lower h, String.ofList_toList]

end CodeHighlight.Text

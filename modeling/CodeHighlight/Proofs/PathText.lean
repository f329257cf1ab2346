import CodeHighlight.PathText

/-! # Names of files

A name without a slash is the last part of every path that ends in it, so its stem and its extension
do not depend on the directory. They are what stands before and after its last dot. Slashes and
single dots at the end of a path have no bearing on them. -/
namespace CodeHighlight.PathText

/-! ## The last dot -/

section

variable {separator : Char} {cs before after : List Char}

theorem splitLast?_of_not_mem (h : separator ∉ cs) : splitLast? separator cs = none := by
  induction cs with
  | nil => rfl
  | cons c cs ih =>
    rw [List.mem_cons, not_or] at h
    rw [splitLast?, ih h.2]
    exact if_neg (Ne.symm h.1)

theorem splitLast?_append (before : List Char) (h : separator ∉ after) :
    splitLast? separator (before ++ separator :: after) = some (before, after) := by
  induction before with
  | nil =>
    rw [List.nil_append, splitLast?, splitLast?_of_not_mem h]
    exact if_pos rfl
  | cons c before ih => rw [List.cons_append, splitLast?, ih]

theorem isSome_splitLast? (h : separator ∈ cs) : (splitLast? separator cs).isSome := by
  induction cs with
  | nil => cases h
  | cons c cs ih =>
    rw [splitLast?]
    cases hrest : splitLast? separator cs with
    | some cut => rfl
    | none =>
      rcases List.mem_cons.mp h with rfl | h
      · simp
      · rw [hrest] at ih
        exact absurd (ih h) (by simp)

theorem of_splitLast? (h : splitLast? separator cs = some (before, after)) :
    cs = before ++ separator :: after ∧ separator ∉ after := by
  induction cs generalizing before with
  | nil => cases h
  | cons c cs ih =>
    rw [splitLast?] at h
    cases hrest : splitLast? separator cs with
    | some cut =>
      rw [hrest] at h
      cases h
      obtain ⟨hcs, hafter⟩ := ih hrest
      exact ⟨congrArg (c :: ·) hcs, hafter⟩
    | none =>
      rw [hrest] at h
      by_cases hc : c = separator
      · dsimp only at h
        rw [if_pos hc] at h
        cases h
        refine ⟨congrArg (· :: after) hc, ?_⟩
        intro hmem
        have hsome := isSome_splitLast? hmem
        rw [hrest] at hsome
        cases hsome
      · dsimp only at h
        rw [if_neg hc] at h
        cases h

end

variable {name stem extension : String}

theorem splitName_eq_iff : splitName name = (stem, some extension) ↔
    name = stem ++ "." ++ extension ∧ stem ≠ "" ∧ '.' ∉ extension.toList := by
  have htext : name = stem ++ "." ++ extension ↔
      name.toList = stem.toList ++ '.' :: extension.toList := by
    rw [← String.toList_inj, String.toList_append, String.toList_append]
    simp
  rw [htext, splitName]
  constructor
  · intro h
    split at h
    · rename_i before after hcut
      obtain ⟨hname, hnot⟩ := of_splitLast? hcut
      split at h
      · cases h
      · rename_i hbefore
        cases h
        rw [String.toList_ofList, String.toList_ofList]
        refine ⟨hname, ?_, hnot⟩
        rintro hempty
        rw [String.ofList_eq_empty_iff] at hempty
        simp [hempty] at hbefore
    · cases h
  · rintro ⟨hname, hstem, hnot⟩
    rw [hname, splitLast?_append _ hnot]
    simp [hstem]

/-! ## The last part of a path -/

theorem segmentsFrom_append_slash (part cs ds : List Char) :
    segmentsFrom part (cs ++ '/' :: ds) = segmentsFrom part cs ++ segmentsFrom [] ds := by
  induction cs generalizing part with
  | nil => rfl
  | cons c cs ih =>
    rw [List.cons_append, segmentsFrom, segmentsFrom, ih, ih]
    split <;> rfl

theorem segmentsFrom_of_noSlash (part : List Char) {cs : List Char} (h : '/' ∉ cs) :
    segmentsFrom part cs = [part ++ cs] := by
  induction cs generalizing part with
  | nil => rw [segmentsFrom, List.append_nil]
  | cons c cs ih =>
    rw [List.mem_cons, not_or] at h
    rw [segmentsFrom, if_neg (Ne.symm h.1), ih _ h.2, List.append_assoc]
    rfl

theorem segments_of_noSlash (h : '/' ∉ name.toList) : segments name = [name] := by
  rw [segments, segmentsFrom_of_noSlash [] h]
  simp

/-- A name is the last part of its path below any directory. -/
theorem exists_segments_join (directory : String) (h : '/' ∉ name.toList) :
    ∃ above, segments (join directory name) = above ++ [name] := by
  have hroot : name.startsWith "/" = false := by
    rw [String.startsWith_string_eq_false_iff]
    intro hstarts
    exact h (hstarts.subset (by simp))
  have hbelow : ∀ path : String, (∃ cs, path.toList = cs ++ '/' :: name.toList) →
      ∃ above, segments path = above ++ [name] := by
    rintro path ⟨cs, hpath⟩
    refine ⟨(segmentsFrom [] cs).map String.ofList, ?_⟩
    rw [segments, hpath, segmentsFrom_append_slash, segmentsFrom_of_noSlash [] h]
    simp
  rw [join, hroot, Bool.false_or]
  split
  · exact ⟨[], segments_of_noSlash h⟩
  · split
    · rename_i hslash
      rw [String.endsWith, String.Slice.endsWith_string_iff, String.copy_toSlice] at hslash
      obtain ⟨cs, hcs⟩ := hslash
      exact hbelow _ ⟨cs, by rw [String.toList_append, ← hcs]; simp⟩
    · exact hbelow _ ⟨directory.toList, by simp⟩

/-- A last part other than a dot or two is the name of a file. -/
theorem fileName?_of_segments {path : String} {above : List String}
    (hpath : segments path = above ++ [name]) (hempty : name ≠ "") (hdot : name ≠ ".")
    (hparent : name ≠ "..") : fileName? path = some name := by
  rw [fileName?, hpath, List.reverse_append, List.reverse_singleton, List.singleton_append,
    List.dropWhile_cons_of_neg (by simp [hempty, hdot])]
  simp [hparent]

theorem fileName?_of_noSlash (hslash : '/' ∉ name.toList) {file : String}
    (h : fileName? name = some file) : file = name := by
  rw [fileName?, segments_of_noSlash hslash] at h
  split at h
  · cases h
  · rename_i part parts hparts
    have hmem : part ∈ [name].reverse :=
      (List.dropWhile_suffix _).subset (hparts ▸ List.mem_cons_self)
    split at h
    · cases h
    · cases h
      simpa using hmem

/-! ## Stems and extensions -/

section

variable (hstem : stem ≠ "") (hextension : extension ≠ "") (hdot : '.' ∉ extension.toList)
  (hslash : '/' ∉ (stem ++ "." ++ extension).toList)

include hstem hextension hslash in
theorem fileName?_join (directory : String) :
    fileName? (join directory (stem ++ "." ++ extension)) = some (stem ++ "." ++ extension) := by
  have hlength : 3 ≤ (stem ++ "." ++ extension).length := by
    have hone : ∀ text : String, text ≠ "" → 1 ≤ text.length := by
      intro text htext
      rw [Nat.one_le_iff_ne_zero]
      simpa using htext
    have := hone stem hstem
    have := hone extension hextension
    rw [String.length_append, String.length_append]
    have hdot : ".".length = 1 := rfl
    omega
  obtain ⟨above, habove⟩ := exists_segments_join directory hslash
  refine fileName?_of_segments habove ?_ ?_ ?_ <;>
  · intro h
    rw [h] at hlength
    exact absurd hlength (by decide)

include hstem hextension hdot hslash in
theorem extension?_join (directory : String) :
    extension? (join directory (stem ++ "." ++ extension)) = some extension := by
  rw [extension?, fileName?_join hstem hextension hslash, Option.bind_some,
    splitName_eq_iff.mpr ⟨rfl, hstem, hdot⟩]

include hstem hextension hdot hslash in
theorem stem?_join (directory : String) :
    stem? (join directory (stem ++ "." ++ extension)) = some stem := by
  rw [stem?, fileName?_join hstem hextension hslash, Option.map_some,
    splitName_eq_iff.mpr ⟨rfl, hstem, hdot⟩]

end

/-- The extension of a name without a slash is what stands after its last dot. -/
theorem extension?_eq_some_iff (hslash : '/' ∉ name.toList) (hextension : extension ≠ "") :
    extension? name = some extension ↔
      ∃ stem, name = stem ++ "." ++ extension ∧ stem ≠ "" ∧ '.' ∉ extension.toList := by
  constructor
  · intro h
    obtain ⟨file, hfile, hsplit⟩ := Option.bind_eq_some_iff.mp h
    rw [fileName?_of_noSlash hslash hfile] at hsplit
    exact ⟨(splitName name).1, splitName_eq_iff.mp (Prod.ext rfl hsplit)⟩
  · rintro ⟨stem, rfl, hstem, hdot⟩
    have hhere := extension?_join hstem hextension hdot hslash ""
    rwa [join, if_pos (by simp)] at hhere

/-! ## Any path -/

theorem segmentsFrom_eq_splitOn (part cs : List Char) :
    segmentsFrom part cs = (cs.splitOn '/').modifyHead (part ++ ·) := by
  induction cs generalizing part with
  | nil => simp [segmentsFrom]
  | cons c cs ih =>
    rw [segmentsFrom, List.splitOn, List.splitOnP_cons_eq_if_modifyHead, ih, ih]
    by_cases hslash : c = '/'
    · rw [if_pos hslash, if_pos (by simpa using hslash), List.modifyHead_cons, List.append_nil,
        List.splitOn]
      cases List.splitOnP (· == '/') cs <;> rfl
    · rw [if_neg hslash, if_neg (by simpa using hslash), List.modifyHead_modifyHead, List.splitOn]
      congr 1
      funext rest
      simp

theorem segments_eq (path : String) :
    segments path = (path.toList.splitOn '/').map String.ofList := by
  rw [segments, segmentsFrom_eq_splitOn]
  cases path.toList.splitOn '/' <;> rfl

/-- The first part from the end that is of account. -/
theorem fileName?_eq (path : String) :
    fileName? path = ((segments path).reverse.find? fun part => !(part.isEmpty || part == ".")).bind
      fun part => if part == ".." then none else some part := by
  have hfirst : ∀ (idle : String → Bool) (parts : List String),
      parts.find? (fun part => !idle part) = (parts.dropWhile idle).head? := by
    intro idle parts
    induction parts with
    | nil => rfl
    | cons part parts ih =>
      by_cases hidle : idle part = true
      · rw [List.dropWhile_cons_of_pos hidle, List.find?_cons_of_neg (by simp [hidle]), ih]
      · rw [List.dropWhile_cons_of_neg hidle, List.find?_cons_of_pos (by simp [hidle])]
        rfl
  rw [fileName?, hfirst fun part => part.isEmpty || part == "."]
  cases (segments path).reverse.dropWhile fun part => part.isEmpty || part == "." <;> rfl

theorem isFinal_iff {path : String} :
    IsFinal path name ↔
      (segments path).reverse.find? (fun part => !(part.isEmpty || part == ".")) = some name := by
  have hdot : ∀ part : List Char, String.ofList part = "." ↔ part = ['.'] := by
    intro part
    rw [← String.toList_inj, String.toList_ofList]
    rfl
  rw [List.find?_eq_some_iff_append, segments_eq]
  constructor
  · rintro ⟨above, below, hpath, hname, hsingle, hidle⟩
    refine ⟨by simp [hname, hsingle], (below.map String.ofList).reverse,
      (above.map String.ofList).reverse, by simp [hpath], ?_⟩
    intro part hpart
    obtain ⟨other, hother, rfl⟩ := List.mem_map.mp (List.mem_reverse.mp hpart)
    rcases hidle other hother with rfl | rfl <;> rfl
  · rintro ⟨hcounts, below, above, hparts, hidle⟩
    rw [List.reverse_eq_iff, List.reverse_append, List.reverse_cons, List.append_assoc,
      List.singleton_append, List.map_eq_append_iff] at hparts
    obtain ⟨upper, rest, hpath, -, hrest⟩ := hparts
    obtain ⟨final, lower, rfl, rfl, hlower⟩ := List.map_eq_cons_iff.mp hrest
    simp only [Bool.not_eq_true', Bool.or_eq_false_iff, String.isEmpty_eq_false_iff,
      beq_eq_false_iff_ne] at hcounts
    refine ⟨upper, lower, by rw [hpath, String.toList_ofList], hcounts.1, hcounts.2, ?_⟩
    intro part hpart
    have hmem : String.ofList part ∈ below := by
      rw [← List.mem_reverse, ← hlower]
      exact List.mem_map_of_mem hpart
    have hpartIdle := hidle _ hmem
    simpa [hdot] using hpartIdle

/-- The last part is the name of a file unless it leads to the parent directory. -/
theorem fileName?_eq_some_iff {path : String} :
    fileName? path = some name ↔ IsFinal path name ∧ name ≠ ".." := by
  rw [fileName?_eq, Option.bind_eq_some_iff, isFinal_iff]
  constructor
  · rintro ⟨part, hpart, hname⟩
    split at hname
    · cases hname
    · rename_i hparent
      cases hname
      exact ⟨hpart, by simpa using hparent⟩
  · rintro ⟨hpart, hparent⟩
    exact ⟨name, hpart, by simp [hparent]⟩

theorem extension?_iff_hasExtension {path : String} :
    extension? path = some extension ↔ HasExtension path extension := by
  rw [extension?, Option.bind_eq_some_iff]
  constructor
  · rintro ⟨file, hfile, hsplit⟩
    obtain ⟨hfinal, hparent⟩ := fileName?_eq_some_iff.mp hfile
    obtain ⟨hname, hstem, hdot⟩ := splitName_eq_iff.mp (Prod.ext rfl hsplit)
    refine ⟨(splitName file).1, ?_, hstem, hdot, ?_⟩
    · rwa [← hname]
    · rwa [← hname]
  · rintro ⟨stem, hfinal, hstem, hdot, hparent⟩
    refine ⟨_, fileName?_eq_some_iff.mpr ⟨hfinal, hparent⟩, ?_⟩
    rw [splitName_eq_iff.mpr ⟨rfl, hstem, hdot⟩]

end CodeHighlight.PathText

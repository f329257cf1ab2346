import CodeHighlight.Text.Blank

/-! # Words and the blanks between them

A text falls into words at its blanks. No word is empty or has a blank in it, and only a text of
blanks has none. Joined by hyphens, the words of a text that begins and ends with one are the text
with a hyphen for every stretch of blanks. -/
namespace CodeHighlight.Text

theorem isBlank_of_isAsciiBlank {c : Char} (h : isAsciiBlank c) : isBlank c := by
  simp only [isAsciiBlank, Bool.or_eq_true, beq_iff_eq] at h
  rcases h with (((rfl | rfl) | rfl) | rfl) | rfl <;> decide

variable {word cs : List Char}

/-! ## The words of a text -/

theorem wordsFrom_blank {c : Char} (hc : isBlank c) (cs : List Char) :
    wordsFrom [] (c :: cs) = wordsFrom [] cs := by
  simp [wordsFrom, hc]

theorem wordsFrom_blank_of_ne_nil {c : Char} (hc : isBlank c) (hword : word ≠ [])
    (cs : List Char) : wordsFrom word (c :: cs) = word :: wordsFrom [] cs := by
  simp [wordsFrom, hc, hword]

theorem wordsFrom_letter {c : Char} (hc : isBlank c = false) (word cs : List Char) :
    wordsFrom word (c :: cs) = wordsFrom (word ++ [c]) cs := by
  simp [wordsFrom, hc]

theorem wordsFrom_ne_nil (hword : word ≠ []) (cs : List Char) : wordsFrom word cs ≠ [] := by
  induction cs generalizing word with
  | nil => simp [wordsFrom, hword]
  | cons c cs ih =>
    cases hc : isBlank c with
    | true =>
      rw [wordsFrom_blank_of_ne_nil hc hword]
      exact List.cons_ne_nil _ _
    | false =>
      rw [wordsFrom_letter hc]
      exact ih (by simp)

theorem wordsFrom_nil_eq_nil_iff : wordsFrom [] cs = [] ↔ ∀ c ∈ cs, isBlank c := by
  induction cs with
  | nil => simp [wordsFrom]
  | cons c cs ih =>
    cases hc : isBlank c with
    | true => rw [wordsFrom_blank hc, ih, List.forall_mem_cons, and_iff_right hc]
    | false =>
      rw [wordsFrom_letter hc, List.nil_append]
      constructor
      · exact fun h => absurd h (wordsFrom_ne_nil (List.cons_ne_nil c []) cs)
      · intro h
        rw [h c List.mem_cons_self] at hc
        cases hc

theorem words_eq_nil_iff (text : String) : words text = [] ↔ isBlankText text := by
  rw [words, List.map_eq_nil_iff, wordsFrom_nil_eq_nil_iff, isBlankText, List.all_eq_true]

/-- What the word under way has in it and what is still to come are cut at the blanks. -/
theorem mem_wordsFrom {w : List Char} (hword : ∀ c ∈ word, isBlank c = false)
    (h : w ∈ wordsFrom word cs) : w ≠ [] ∧ ∀ c ∈ w, isBlank c = false := by
  induction cs generalizing word with
  | nil =>
    rw [wordsFrom] at h
    split at h
    · cases h
    · rename_i hne
      obtain rfl := List.mem_singleton.mp h
      exact ⟨by simpa using hne, hword⟩
  | cons c cs ih =>
    cases hc : isBlank c with
    | true =>
      by_cases hnil : word = []
      · subst hnil
        rw [wordsFrom_blank hc] at h
        exact ih hword h
      · rw [wordsFrom_blank_of_ne_nil hc hnil] at h
        rcases List.mem_cons.mp h with rfl | h
        · exact ⟨hnil, hword⟩
        · exact ih (by simp) h
    | false =>
      rw [wordsFrom_letter hc] at h
      refine ih (List.forall_mem_append.mpr ⟨hword, ?_⟩) h
      simpa using hc

/-! ## Words joined by hyphens -/

theorem toList_intercalate_words (text : String) :
    (String.intercalate "-" (words text)).toList =
      ['-'].intercalate (wordsFrom [] text.toList) := by
  have hwords : (words text).map String.toList = wordsFrom [] text.toList := by
    simp [words, Function.comp_def]
  rw [String.toList_intercalate, hwords]
  rfl

theorem mem_intercalate {separator : List Char} {parts : List (List Char)} {c : Char}
    (h : c ∈ separator.intercalate parts) : c ∈ separator ∨ ∃ part ∈ parts, c ∈ part := by
  induction parts with
  | nil => simp at h
  | cons part parts ih =>
    by_cases hnil : parts = []
    · subst hnil
      rw [List.intercalate_singleton] at h
      exact .inr ⟨part, List.mem_cons_self, h⟩
    · rw [List.intercalate_cons_of_ne_nil hnil, List.mem_append, List.mem_append] at h
      rcases h with (h | h) | h
      · exact .inr ⟨part, List.mem_cons_self, h⟩
      · exact .inl h
      · rcases ih h with h | ⟨other, hother, h⟩
        · exact .inl h
        · exact .inr ⟨other, List.mem_cons_of_mem _ hother, h⟩

theorem intercalate_ne_nil {part : List Char} (hpart : part ≠ []) (separator : List Char)
    (parts : List (List Char)) : separator.intercalate (part :: parts) ≠ [] := by
  by_cases hnil : parts = []
  · rw [hnil, List.intercalate_singleton]
    exact hpart
  · rw [List.intercalate_cons_of_ne_nil hnil]
    simp [hpart]

/-- No word is empty, so joined words are not. -/
theorem joined_eq_empty_iff (text : String) :
    String.intercalate "-" (words text) = "" ↔ isBlankText text := by
  rw [← words_eq_nil_iff, ← String.toList_eq_nil_iff, toList_intercalate_words, words,
    List.map_eq_nil_iff]
  constructor
  · intro hjoined
    cases hwords : wordsFrom [] text.toList with
    | nil => rfl
    | cons word rest =>
      have hword : word ∈ wordsFrom [] text.toList := by simp [hwords]
      rw [hwords] at hjoined
      exact absurd hjoined (intercalate_ne_nil (mem_wordsFrom (by simp) hword).1 _ _)
  · intro hwords
    rw [hwords, List.intercalate_nil]

/-- Joined words have no blank in them. -/
theorem not_isBlank_of_mem_joined {text : String} {c : Char}
    (h : c ∈ (String.intercalate "-" (words text)).toList) : isBlank c = false := by
  rw [toList_intercalate_words] at h
  rcases mem_intercalate h with h | ⟨word, hword, hc⟩
  · rw [List.mem_singleton.mp h]
    decide
  · exact (mem_wordsFrom (by simp) hword).2 c hc

theorem hyphenated_nil : hyphenated [] = [] := by
  rw [hyphenated, replaceStretches]

theorem hyphenated_blank {c : Char} (hc : isBlank c) (cs : List Char) :
    hyphenated (c :: cs) = '-' :: hyphenated (cs.dropWhile isBlank) := by
  rw [hyphenated, replaceStretches, if_pos hc, hyphenated]

theorem hyphenated_letter {c : Char} (hc : isBlank c = false) (cs : List Char) :
    hyphenated (c :: cs) = c :: hyphenated cs := by
  rw [hyphenated, replaceStretches, hc, if_neg Bool.false_ne_true, hyphenated]

/-- A text that goes on with a blank goes on with a word after it. Within a word the text is copied,
and from a blank on it is copied from the next word. -/
theorem intercalate_wordsFrom (hlast : ∀ c, cs.getLast? = some c → isBlank c = false) :
    (∀ word, word ≠ [] → ['-'].intercalate (wordsFrom word cs) = word ++ hyphenated cs) ∧
      (cs ≠ [] → wordsFrom [] cs ≠ [] ∧
        ['-'].intercalate (wordsFrom [] cs) = hyphenated (cs.dropWhile isBlank)) := by
  induction cs with
  | nil =>
    refine ⟨fun word hword => ?_, fun h => absurd rfl h⟩
    simp [wordsFrom, hword, hyphenated_nil]
  | cons c cs ih =>
    have htail : ∀ d, cs.getLast? = some d → isBlank d = false := by
      intro d hd
      refine hlast d ?_
      rw [List.getLast?_cons, hd]
      rfl
    obtain ⟨hinside, hbetween⟩ := ih htail
    cases hc : isBlank c with
    | true =>
      have hne : cs ≠ [] := by
        rintro rfl
        rw [hlast c rfl] at hc
        cases hc
      obtain ⟨hwords, hjoined⟩ := hbetween hne
      constructor
      · intro word hword
        rw [wordsFrom_blank_of_ne_nil hc hword, List.intercalate_cons_of_ne_nil hwords, hjoined,
          hyphenated_blank hc, List.append_assoc, List.singleton_append]
      · intro _
        rw [wordsFrom_blank hc, List.dropWhile_cons_of_pos hc]
        exact ⟨hwords, hjoined⟩
    | false =>
      constructor
      · intro word hword
        rw [wordsFrom_letter hc, hinside _ (by simp), hyphenated_letter hc, List.append_assoc,
          List.singleton_append]
      · intro _
        rw [wordsFrom_letter hc, List.nil_append, List.dropWhile_cons_of_neg (by simp [hc]),
          hinside _ (List.cons_ne_nil c []), hyphenated_letter hc]
        exact ⟨wordsFrom_ne_nil (List.cons_ne_nil c []) cs, rfl⟩

theorem joined_of_isTrimmed {text : String} (hne : text ≠ "") (htrimmed : IsTrimmed text) :
    (String.intercalate "-" (words text)).toList = hyphenated text.toList := by
  have hlist : text.toList ≠ [] := by simpa using hne
  obtain ⟨c, cs, hcs⟩ := List.exists_cons_of_ne_nil hlist
  have hc : isBlank c = false := htrimmed c (.inl (by rw [hcs]; rfl))
  obtain ⟨-, hbetween⟩ := intercalate_wordsFrom fun c hlast => htrimmed c (.inr hlast)
  rw [toList_intercalate_words, (hbetween hlist).2, hcs,
    List.dropWhile_cons_of_neg (by simp [hc])]

/-- Stretches of blanks at either end are dropped, not replaced. -/
example : String.intercalate "-" (words " a \t b ") = "a-b" := by decide

end CodeHighlight.Text

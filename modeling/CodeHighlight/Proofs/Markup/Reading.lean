import CodeHighlight.Proofs.Markup.Inline

/-! # Reading tags and text

A tag is read whole and opens or closes a span for the text that follows. Escaped text is read as
the characters that it stands for, each with the tags that are open there. -/
namespace CodeHighlight.Markup

variable {content rest : List Char} {opened : List (List Char)}

theorem items_tag (h : '>' ∉ content) :
    items ('<' :: (content ++ '>' :: rest)) = .tag content :: items rest := by
  have htake : (content ++ '>' :: rest).takeWhile (· ≠ '>') = content := by
    rw [List.takeWhile_append_of_pos]
    · simp
    · intro c hc
      have hne : c ≠ '>' := fun heq => h (heq ▸ hc)
      simpa using hne
  rw [items, if_pos rfl, htake, afterTag_append h]

/-- No entity begins with another, so the entity that is there is the one that is found. -/
theorem find?_entity {entity : List Char × Char} (h : entity ∈ entities) (rest : List Char) :
    entities.find? (fun other => other.1.isPrefixOf (entity.1 ++ rest)) = some entity := by
  have hself : entity.1.isPrefixOf (entity.1 ++ rest) := by simp
  have hsome : (entities.find? fun other => other.1.isPrefixOf (entity.1 ++ rest)).isSome :=
    List.find?_isSome.mpr ⟨entity, h, hself⟩
  obtain ⟨other, hother⟩ := Option.isSome_iff_exists.mp hsome
  have hreads := List.find?_some hother
  rw [hother, eq_of_reads_entity (List.mem_of_find?_eq_some hother) h hreads]

theorem find?_of_not_entity {c : Char} (h : entity? c = none) (rest : List Char) :
    entities.find? (fun entity => entity.1.isPrefixOf (c :: rest)) = none := by
  rw [List.find?_eq_none]
  intro entity hentity hprefix
  obtain ⟨tail, htail, -⟩ := ampersand_of_mem hentity
  rw [htail, List.isPrefixOf_iff_prefix, List.cons_prefix_cons] at hprefix
  rw [← hprefix.1] at h
  cases h

theorem items_escapeChar (c : Char) (rest : List Char) :
    items (escapeChar c ++ rest) = .character c :: items rest := by
  rcases escapeChar_cases c with ⟨hnone, heq⟩ | ⟨entity, hmem, rfl, heq⟩
  · have hne : c ≠ '<' := by
      rintro rfl
      cases hnone
    rw [heq, List.singleton_append, items, if_neg hne, find?_of_not_entity hnone]
  · obtain ⟨tail, htail, -⟩ := ampersand_of_mem hmem
    have hfind := find?_entity hmem rest
    rw [htail, List.cons_append] at hfind
    rw [heq, htail, List.cons_append, items, if_neg (by decide), hfind]
    simp [htail]

theorem items_escape (text rest : List Char) :
    items (text.flatMap escapeChar ++ rest) = text.map .character ++ items rest := by
  induction text with
  | nil => rfl
  | cons c cs ih =>
    rw [List.flatMap_cons, List.append_assoc, items_escapeChar, ih, List.map_cons,
      List.cons_append]

/-! ## Enclosing tags -/

theorem enclosedFrom_characters (text : List Char) (rest : List Item) :
    enclosedFrom opened (text.map .character ++ rest) =
      text.map (fun c => (c, opened)) ++ enclosedFrom opened rest := by
  induction text with
  | nil => rfl
  | cons c cs ih => rw [List.map_cons, List.cons_append, enclosedFrom, ih, List.map_cons,
      List.cons_append]

theorem enclosedFrom_escape (text : List Char) :
    enclosedFrom opened (items (text.flatMap escapeChar ++ rest)) =
      text.map (fun c => (c, opened)) ++ enclosedFrom opened (items rest) := by
  rw [items_escape, enclosedFrom_characters]

theorem enclosedFrom_openTag (h : '>' ∉ content) (hopens : content.head? ≠ some '/') :
    enclosedFrom opened (items ('<' :: (content ++ '>' :: rest))) =
      enclosedFrom (opened ++ [content]) (items rest) := by
  rw [items_tag h, enclosedFrom, if_neg hopens]

theorem enclosedFrom_closeTag :
    enclosedFrom (opened ++ [content]) (items ("</span>".toList ++ rest)) =
      enclosedFrom opened (items rest) := by
  have hcontent : '>' ∉ "/span".toList := by decide
  have hitems : items ("</span>".toList ++ rest) = .tag "/span".toList :: items rest :=
    items_tag hcontent
  rw [hitems, enclosedFrom, if_pos (by decide), List.dropLast_concat]

end CodeHighlight.Markup

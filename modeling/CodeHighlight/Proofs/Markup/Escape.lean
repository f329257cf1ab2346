import CodeHighlight.Markup.Grammar
import CodeHighlight.Proofs.Text.Boundary

/-! # Escaping and back

Copying the stretches between special characters gives what replacing each character gives. Escaped
text is free of the characters that delimit markup, and replacing the entities one after the other,
the ampersand last, gives back the text. -/
namespace CodeHighlight.Markup

open CodeHighlight.Text

/-- Every stretch can be sliced: it begins where `pending` does, the text that is not copied yet. -/
theorem foldl_stretchesFrom (before pending rest : List Char) (out : String) :
    (stretchesFrom (byteLength before) (byteLength before + byteLength pending) rest).foldl
        (fun out stretch =>
          out ++ String.ofList
              ((slice? (before ++ pending ++ rest) stretch.start stretch.stop).getD [])
            ++ stretch.entity) out =
      out ++ String.ofList (pending ++ rest.flatMap escapeChar) := by
  induction rest generalizing before pending out with
  | nil =>
    have hslice := slice?_append before pending []
    rw [List.append_nil] at hslice
    simp [stretchesFrom, hslice]
  | cons c rest ih =>
    rw [stretchesFrom]
    cases h : entity? c with
    | some entity =>
      have hslice := slice?_append before pending (c :: rest)
      have hrest := ih (before ++ pending ++ [c]) [] (out ++ String.ofList pending ++ entity)
      simp only [byteLength_append, byteLength, Nat.add_zero, List.append_assoc, List.nil_append,
        List.cons_append] at hslice hrest ⊢
      rw [Nat.add_assoc, List.foldl_cons, hslice, Option.getD_some, hrest]
      simp [escapeChar, h, String.ofList_append, String.append_assoc]
    | none =>
      have hrest := ih before (pending ++ [c]) out
      simp only [byteLength_append, byteLength, Nat.add_zero, List.append_assoc, List.nil_append,
        List.cons_append] at hrest ⊢
      rw [Nat.add_assoc, hrest]
      simp [escapeChar, h]

theorem appendEscaped_eq (out text : String) : appendEscaped out text = out ++ escape text := by
  have h := foldl_stretchesFrom [] [] text.toList out
  simpa [appendEscaped, escape, byteLength] using h

theorem entity_mem {c : Char} {entity : String} (h : entity? c = some entity) :
    (entity.toList, c) ∈ entities := by
  unfold entity? at h
  split at h <;> simp [entities] at * <;> simp [← h]

theorem entity?_of_mem {entity : List Char × Char} (h : entity ∈ entities) :
    entity? entity.2 = some (String.ofList entity.1) := by
  simp only [entities, List.mem_cons, List.not_mem_nil, or_false] at h
  rcases h with rfl | rfl | rfl | rfl | rfl <;> rfl

theorem escapeChar_of_mem {entity : List Char × Char} (h : entity ∈ entities) :
    escapeChar entity.2 = entity.1 := by
  simp [escapeChar, entity?_of_mem h]

/-- A character stands for itself or is written as an entity. -/
theorem escapeChar_cases (c : Char) :
    (entity? c = none ∧ escapeChar c = [c]) ∨ ∃ entity ∈ entities, entity.2 = c ∧
      escapeChar c = entity.1 := by
  cases h : entity? c with
  | none => exact Or.inl ⟨rfl, by simp [escapeChar, h]⟩
  | some entity => exact Or.inr ⟨_, entity_mem h, rfl, by simp [escapeChar, h]⟩

theorem plain_append {a b : List Char} (ha : Plain a) (hb : Plain b) : Plain (a ++ b) := by
  induction ha with
  | nil => exact hb
  | character h _ ih => exact .character h ih
  | entity h _ ih =>
    rw [List.append_assoc]
    exact .entity h ih

theorem plain_escapeChar (c : Char) : Plain (escapeChar c) := by
  rcases escapeChar_cases c with ⟨h, heq⟩ | ⟨entity, h, -, heq⟩
  · rw [heq]
    exact .character h .nil
  · rw [heq, ← List.append_nil entity.1]
    exact .entity h .nil

theorem plain_escape (text : List Char) : Plain (text.flatMap escapeChar) := by
  induction text with
  | nil => exact .nil
  | cons c cs ih => exact plain_append (plain_escapeChar c) ih

theorem plain_toList_escape (text : String) : Plain (escape text).toList :=
  toList_escape text ▸ plain_escape text.toList

/-- The characters that delimit tags and attribute values. -/
def delimiters : List Char := ['<', '>', '"', '\'']

theorem Plain.not_delimiter {text : List Char} (h : Plain text) : ∀ c ∈ text, c ∉ delimiters := by
  induction h with
  | nil => simp
  | @character c rest h _ ih =>
    refine List.forall_mem_cons.mpr ⟨fun hc => ?_, ih⟩
    simp only [delimiters, List.mem_cons, List.not_mem_nil, or_false] at hc
    rcases hc with rfl | rfl | rfl | rfl <;> cases h
  | @entity entity rest h _ ih =>
    refine List.forall_mem_append.mpr ⟨?_, ih⟩
    simp only [entities, List.mem_cons, List.not_mem_nil, or_false] at h
    rcases h with rfl | rfl | rfl | rfl | rfl <;> simp [delimiters]

/-- Every entity begins with an ampersand and has no other. -/
theorem ampersand_of_mem {entity : List Char × Char} (h : entity ∈ entities) :
    ∃ rest, entity.1 = '&' :: rest ∧ '&' ∉ rest := by
  simp only [entities, List.mem_cons, List.not_mem_nil, or_false] at h
  rcases h with rfl | rfl | rfl | rfl | rfl <;> exact ⟨_, rfl, by decide⟩

theorem eq_of_entity_isPrefix :
    ∀ entity ∈ entities, ∀ other ∈ entities, entity.1 <+: other.1 → entity = other := by
  decide

theorem eq_of_reads_entity {entity other : List Char × Char} {rest : List Char}
    (he : entity ∈ entities) (ho : other ∈ entities)
    (h : entity.1.isPrefixOf (other.1 ++ rest)) : entity = other := by
  rcases List.prefix_or_prefix_of_prefix (List.isPrefixOf_iff_prefix.mp h)
    (List.prefix_append other.1 rest) with hprefix | hprefix
  · exact eq_of_entity_isPrefix entity he other ho hprefix
  · exact (eq_of_entity_isPrefix other ho entity he hprefix).symm

theorem replaceEntity_append {entity : List Char × Char} (he : entity ∈ entities)
    {text rest : List Char} (h : '&' ∉ text) :
    replaceEntity entity (text ++ rest) = text ++ replaceEntity entity rest := by
  obtain ⟨tail, htail, -⟩ := ampersand_of_mem he
  induction text with
  | nil => rfl
  | cons c cs ih =>
    rw [List.mem_cons, not_or] at h
    have hprefix : ¬ entity.1.isPrefixOf (c :: (cs ++ rest)) := by
      simp [htail, List.isPrefixOf, h.1]
    rw [List.cons_append, replaceEntity, if_neg hprefix, ih h.2, List.cons_append]

theorem replaceEntity_self {entity : List Char × Char} (he : entity ∈ entities)
    (rest : List Char) :
    replaceEntity entity (entity.1 ++ rest) = entity.2 :: replaceEntity entity rest := by
  obtain ⟨tail, htail, -⟩ := ampersand_of_mem he
  rw [htail, List.cons_append, replaceEntity, htail, if_pos]
  · simp
  · simp

theorem replaceEntity_other {entity other : List Char × Char} (he : entity ∈ entities)
    (ho : other ∈ entities) (hne : entity ≠ other) (rest : List Char) :
    replaceEntity entity (other.1 ++ rest) = other.1 ++ replaceEntity entity rest := by
  obtain ⟨tail, htail, hmem⟩ := ampersand_of_mem ho
  have hprefix : ¬ entity.1.isPrefixOf (other.1 ++ rest) := fun h =>
    hne (eq_of_reads_entity he ho h)
  rw [htail, List.cons_append] at hprefix
  rw [htail, List.cons_append, replaceEntity, if_neg hprefix, replaceEntity_append he hmem,
    List.cons_append]

/-- A character as it stands while the entities in `pending` are still to be replaced. -/
def pendingChar (pending : List (List Char × Char)) (c : Char) : List Char :=
  if c ∈ pending.map (·.2) then escapeChar c else [c]

/-- Whatever is still to be replaced, the ampersand is. -/
theorem ampersand_pending {entity : List Char × Char} {pending : List (List Char × Char)}
    (h : entity :: pending <:+ entities) : '&' ∈ (entity :: pending).map (·.2) := by
  obtain ⟨replaced, h⟩ := h
  have hlast : (replaced ++ entity :: pending).getLast? = some ("&amp;".toList, '&') := by
    rw [h]
    rfl
  rw [List.getLast?_append, List.getLast?_eq_some_getLast (List.cons_ne_nil _ _),
    Option.some_or] at hlast
  exact List.mem_map.mpr ⟨_, List.getLast_mem _, congrArg Prod.snd (Option.some.inj hlast)⟩

theorem entities_nodup : (entities.map (·.2)).Nodup := by decide

theorem replaceEntity_pendingChar {entity : List Char × Char}
    {pending : List (List Char × Char)} (h : entity :: pending <:+ entities) (c : Char)
    (rest : List Char) :
    replaceEntity entity (pendingChar (entity :: pending) c ++ rest) =
      pendingChar pending c ++ replaceEntity entity rest := by
  have he : entity ∈ entities := h.subset List.mem_cons_self
  have hnodup : entity.2 ∉ pending.map (·.2) :=
    (List.nodup_cons.mp (entities_nodup.sublist (h.sublist.map _))).1
  by_cases hc : c ∈ (entity :: pending).map (·.2)
  · rw [pendingChar, if_pos hc]
    obtain ⟨other, hother, rfl⟩ := List.mem_map.mp hc
    have ho : other ∈ entities := h.subset hother
    rw [escapeChar_of_mem ho]
    rcases List.mem_cons.mp hother with rfl | hother
    · rw [replaceEntity_self he, pendingChar, if_neg hnodup, List.singleton_append]
    · have hne : entity ≠ other := fun heq => hnodup (heq ▸ List.mem_map_of_mem hother)
      rw [replaceEntity_other he ho hne, pendingChar, if_pos (List.mem_map_of_mem hother),
        escapeChar_of_mem ho]
  · have hamp : '&' ∉ [c] := fun hmem =>
      hc (List.mem_singleton.mp hmem ▸ ampersand_pending h)
    have hpending : c ∉ pending.map (·.2) := fun hmem => hc (List.mem_cons_of_mem _ hmem)
    rw [pendingChar, if_neg hc, pendingChar, if_neg hpending, replaceEntity_append he hamp]

theorem replaceEntity_pending {entity : List Char × Char} {pending : List (List Char × Char)}
    (h : entity :: pending <:+ entities) (text : List Char) :
    replaceEntity entity (text.flatMap (pendingChar (entity :: pending))) =
      text.flatMap (pendingChar pending) := by
  induction text with
  | nil => simp [replaceEntity]
  | cons c cs ih => rw [List.flatMap_cons, replaceEntity_pendingChar h, ih, List.flatMap_cons]

/-- Replacing what is pending, entity by entity, leaves the text. -/
theorem foldl_replaceEntity {pending : List (List Char × Char)} (h : pending <:+ entities)
    (text : List Char) :
    pending.foldl (fun text entity => replaceEntity entity text)
      (text.flatMap (pendingChar pending)) = text := by
  induction pending with
  | nil =>
    induction text with
    | nil => rfl
    | cons c cs ih => simpa [pendingChar] using ih
  | cons entity pending ih =>
    rw [List.foldl_cons, replaceEntity_pending h]
    exact ih ((List.suffix_cons entity pending).trans h)

theorem pendingChar_entities (c : Char) : pendingChar entities c = escapeChar c := by
  unfold pendingChar
  split
  · rfl
  · rename_i h
    rcases escapeChar_cases c with ⟨-, heq⟩ | ⟨entity, hmem, rfl, -⟩
    · exact heq.symm
    · exact absurd (List.mem_map_of_mem hmem) h

theorem unescape_escape (text : List Char) : unescape (text.flatMap escapeChar) = text := by
  have h := foldl_replaceEntity (List.suffix_refl entities) text
  rwa [funext pendingChar_entities] at h

end CodeHighlight.Markup

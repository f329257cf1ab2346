import CodeHighlight.Proofs.Markup.Escape
import CodeHighlight.Proofs.Text.Clamping

/-! # Stretches between special characters

Escaping copies the stretches of a text between the characters that need an entity, by their byte
offsets. Each stretch begins and ends at boundaries, so it can be copied whatever stands around it,
and what comes out is the text with every special character replaced. So a text may be escaped part
by part. -/
namespace CodeHighlight.Markup

open CodeHighlight.Text

/-- The ends of a stretch are boundaries in order, and there is text between them to copy. -/
structure Stretch.Fits (stretch : Stretch) (text : List Char) : Prop where
  start_isBoundary : IsBoundary text stretch.start
  stop_isBoundary : IsBoundary text stretch.stop
  start_le : stretch.start ≤ stretch.stop
  stop_le : stretch.stop ≤ byteLength text
  copied : ∃ part, slice? text stretch.start stretch.stop = some part

/-- The text that is not copied yet makes a stretch. -/
theorem fits_pending (before pending rest : List Char) (entity : String) :
    Stretch.Fits ⟨byteLength before, byteLength before + byteLength pending, entity⟩
      (before ++ pending ++ rest) where
  start_isBoundary := ⟨before, pending ++ rest, List.append_assoc .., rfl⟩
  stop_isBoundary := ⟨before ++ pending, rest, rfl, byteLength_append before pending⟩
  start_le := Nat.le_add_right _ _
  stop_le := by simp
  copied := ⟨pending, slice?_append before pending rest⟩

theorem fits_of_mem_stretchesFrom {before pending rest : List Char} {stretch : Stretch}
    (h : stretch ∈
      stretchesFrom (byteLength before) (byteLength before + byteLength pending) rest) :
    stretch.Fits (before ++ pending ++ rest) := by
  induction rest generalizing before pending with
  | nil =>
    rw [stretchesFrom, List.mem_singleton] at h
    rw [h]
    exact fits_pending before pending [] ""
  | cons c rest ih =>
    have htext : ∀ copied, copied = before ++ pending ++ [c] →
        copied ++ rest = before ++ pending ++ c :: rest := by
      rintro _ rfl
      simp
    rw [stretchesFrom] at h
    cases hentity : entity? c with
    | some entity =>
      rw [hentity] at h
      rcases List.mem_cons.mp h with rfl | h
      · exact fits_pending before pending (c :: rest) entity
      · -- The next stretch begins after the special character, with nothing pending.
        rw [← htext (before ++ pending ++ [c] ++ []) (by simp)]
        apply ih
        simpa [byteLength, Nat.add_assoc] using h
    | none =>
      rw [hentity] at h
      rw [← htext (before ++ (pending ++ [c])) (by simp)]
      apply ih
      simpa [byteLength, Nat.add_assoc] using h

theorem fits_of_mem_stretches {text : List Char} {stretch : Stretch}
    (h : stretch ∈ stretchesFrom 0 0 text) : stretch.Fits text :=
  @fits_of_mem_stretchesFrom [] [] text stretch h

/-! ## Parts of a text -/

/-- Parts that are appended one after the other are escaped as the whole text is. -/
theorem foldl_appendEscaped (out : String) (texts : List String) :
    texts.foldl appendEscaped out = appendEscaped out (String.join texts) := by
  induction texts generalizing out with
  | nil =>
    rw [List.foldl_nil, appendEscaped_eq, show escape (String.join []) = "" from rfl,
      String.append_empty]
  | cons text texts ih =>
    rw [List.foldl_cons, ih, String.join_cons]
    simp only [appendEscaped_eq, escape_append, String.append_assoc]

theorem escapeChar_of_not_mem {c : Char} (h : c ∉ entities.map (·.2)) : escapeChar c = [c] := by
  rcases escapeChar_cases c with ⟨-, hself⟩ | ⟨entity, hmem, rfl, -⟩
  · exact hself
  · exact absurd (List.mem_map_of_mem hmem) h

/-- To append a text escaped is to append it with each of the five special characters replaced by
its entity. All stretches that are copied for it can be sliced, and it comes to the same to escape
the text as a whole or the parts that it is made of, one after the other. -/
theorem appendEscaped_by_stretches (out text : String) :
    (appendEscaped out text).toList = out.toList ++ text.toList.flatMap escapeChar ∧
    ((∀ entity ∈ entities, escapeChar entity.2 = entity.1) ∧
      ∀ c, c ∉ entities.map (·.2) → escapeChar c = [c]) ∧
    (∀ stretch ∈ stretchesFrom 0 0 text.toList, stretch.Fits text.toList) ∧
    (∀ other, escape (text ++ other) = escape text ++ escape other) ∧
    ∀ texts, String.join texts = text → texts.foldl appendEscaped out = appendEscaped out text := by
  refine ⟨?_,
    ⟨fun entity hentity => escapeChar_of_mem hentity, fun c hc => escapeChar_of_not_mem hc⟩,
    fun stretch hstretch => fits_of_mem_stretches hstretch, escape_append text, ?_⟩
  · rw [appendEscaped_eq, String.toList_append, toList_escape]
  · rintro texts rfl
    exact foldl_appendEscaped out texts

/-- Two special characters in a row stand between characters of two bytes, and the text is cut
between them. -/
theorem appendEscaped_by_stretches_of_neighbors :
    (⟨3, 3, "&amp;"⟩ : Stretch).Fits "é<&ü".toList ∧ escapeChar '<' = "&lt;".toList ∧
      escapeChar 'é' = ['é'] ∧
      appendEscaped (appendEscaped ">" "é<") "&ü" = appendEscaped ">" "é<&ü" := by
  obtain ⟨-, ⟨hspecial, hplain⟩, hfits, -, hparts⟩ := appendEscaped_by_stretches ">" "é<&ü"
  exact ⟨hfits _ (by decide), hspecial ("&lt;".toList, '<') (by decide), hplain 'é' (by decide),
    hparts ["é<", "&ü"] rfl⟩

end CodeHighlight.Markup

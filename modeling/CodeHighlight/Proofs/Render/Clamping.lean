import CodeHighlight.Proofs.Render.Events
import Mathlib.Order.Monotone.Defs

/-! # Offsets that do not cut the text

Captures come with any offsets. Each is moved to the greatest boundary that is not beyond it, so the
two ends of a capture stay in order, and a capture that ends within the character it starts in is
left without text. -/
namespace CodeHighlight.Render

open CodeHighlight.Text

theorem captureEvents_eq_nil_iff {source : List Char} {capture : Capture} {index : Nat} :
    captureEvents source capture index = [] ↔
      floorBoundary source capture.stop ≤ floorBoundary source capture.start := by
  rw [captureEvents_eq]
  split
  · rename_i hlt
    simp [hlt]
  · rename_i hge
    simpa using hge

/-- An offset is moved back, by three bytes at most, to the greatest position of the text that is
neither beyond it nor past the end. So the order of offsets is kept, a second pass changes nothing
and no capture is turned round; and a capture that starts within a character is left without text
exactly if it also stops within that character. -/
theorem offsets_clamped (text : String) :
    (∀ offset, IsGreatest
        {position | (⟨position⟩ : String.Pos.Raw).IsValid text ∧
          position ≤ min offset text.utf8ByteSize}
        (clampOffset text.toList offset) ∧
      min offset text.utf8ByteSize ≤ clampOffset text.toList offset + 3) ∧
    Monotone (clampOffset text.toList) ∧
    (∀ offset, clampOffset text.toList (clampOffset text.toList offset) =
      clampOffset text.toList offset) ∧
    ∀ (capture : Capture) (index : Nat),
      (capture.start ≤ capture.stop →
        clampOffset text.toList capture.start ≤ clampOffset text.toList capture.stop) ∧
      ∀ before c after, text.toList = before ++ c :: after →
        byteLength before ≤ capture.start → capture.start < byteLength before + c.utf8Size →
        (captureEvents text.toList capture index = [] ↔
          capture.stop < byteLength before + c.utf8Size) := by
  have hmono : Monotone (clampOffset text.toList) := by
    intro offset other hle
    rw [clampOffset_eq_floorBoundary, clampOffset_eq_floorBoundary]
    exact floorBoundary_mono text.toList hle
  refine ⟨fun offset => ⟨?_, ?_⟩, hmono, fun offset => ?_, fun capture index => ⟨?_, ?_⟩⟩
  · have hgreatest := clampOffset_isGreatest text.toList offset
    simp only [isBoundary_toList_iff, byteLength_toList] at hgreatest
    exact hgreatest
  · rw [clampOffset_eq_floorBoundary, ← byteLength_toList]
    exact le_floorBoundary_add_three text.toList offset
  · rw [clampOffset_eq_floorBoundary, clampOffset_eq_floorBoundary]
    exact (isBoundary_floorBoundary text.toList offset).floorBoundary_eq
  · intro hle
    exact hmono hle
  · intro before c after htext hstart hwithin
    have hbegins := floorBoundary_within after hstart hwithin
    rw [captureEvents_eq_nil_iff, htext, hbegins]
    by_cases hstop : capture.stop < byteLength before + c.utf8Size
    · have hback : floorBoundary (before ++ c :: after) capture.stop ≤ byteLength before := by
        by_cases hle : byteLength before ≤ capture.stop
        · rw [floorBoundary_within after hle hstop]
        · exact Nat.le_trans (floorBoundary_le_offset _ _) (by omega)
      exact iff_of_true hback hstop
    · have hforth := le_floorBoundary_beyond after (Nat.not_lt.mp hstop)
      have hpos := c.utf8Size_pos
      exact iff_of_false (by omega) hstop

/-- The middle character is three bytes long, and the capture has only its second byte. -/
theorem offsets_clamped_inside :
    clampOffset "a€b".toList 3 = 1 ∧ clampOffset "a€b".toList 100 = 5 ∧
      captureEvents "a€b".toList ⟨"string", 2, 3⟩ 0 = [] := by
  obtain ⟨-, -, -, hcaptures⟩ := offsets_clamped "a€b"
  have hempty := (hcaptures ⟨"string", 2, 3⟩ 0).2 ['a'] '€' ['b'] rfl (by decide) (by decide)
  exact ⟨by decide, by decide, hempty.mpr (by decide)⟩

end CodeHighlight.Render

import Mathlib.Data.List.Basic
import CodeHighlight.Text.Utf8

/-! # The order of bytes

Texts are ordered by their characters, and the UTF-8 form keeps that order: the first byte tells how
many there are and is the greater the more there are, and the bits of a character stand in the order
of their weight. -/
namespace CodeHighlight.Text

/-! ## One character -/

theorem encode_ne_nil (c : Char) : String.utf8EncodeChar c ≠ [] := by
  intro h
  have hlength := String.length_utf8EncodeChar c
  rw [h] at hlength
  have := c.utf8Size_pos
  simp at hlength
  omega

theorem toNat_byte {v : Nat} (h : v < 256) : (UInt8.ofNat v).toNat = v := by
  rw [UInt8.toNat_ofNat', Nat.mod_eq_of_lt h]

theorem digit_lt {m n : Nat} (h : m < n) :
    m / 64 < n / 64 ∨ m / 64 = n / 64 ∧ m % 64 < n % 64 := by
  omega

/-- The lesser number has the lesser digits. -/
theorem digits_lt {m n : Nat} (h : m < n) :
    m / 262144 < n / 262144 ∨ m / 262144 = n / 262144 ∧
      (m / 4096 % 64 < n / 4096 % 64 ∨ m / 4096 % 64 = n / 4096 % 64 ∧
        (m / 64 % 64 < n / 64 % 64 ∨ m / 64 % 64 = n / 64 % 64 ∧ m % 64 < n % 64)) := by
  have htwo : ∀ k : Nat, k / 4096 = k / 64 / 64 := fun k => (Nat.div_div_eq_div_mul k 64 64).symm
  have hthree : ∀ k : Nat, k / 262144 = k / 64 / 64 / 64 := by
    intro k
    rw [← htwo, Nat.div_div_eq_div_mul]
  rw [hthree m, hthree n, htwo m, htwo n]
  rcases digit_lt h with h | ⟨heq, h⟩
  · rcases digit_lt h with h | ⟨heq, h⟩
    · exact (digit_lt h).imp_right fun ⟨heq, h⟩ => ⟨heq, .inl h⟩
    · rw [heq]
      exact .inr ⟨rfl, .inr ⟨rfl, .inl h⟩⟩
  · rw [heq]
    exact .inr ⟨rfl, .inr ⟨rfl, .inr ⟨rfl, h⟩⟩⟩

/-- Of two characters the lesser has the lesser bytes, whatever follows. -/
theorem encode_append_lt {c d : Char} (h : c < d) (xs ys : List UInt8) :
    String.utf8EncodeChar c ++ xs < String.utf8EncodeChar d ++ ys := by
  have hlt : c.val.toNat < d.val.toNat := h
  have hbound : d.val.toNat < 0x110000 := by
    rcases d.valid with h | ⟨-, h⟩ <;> omega
  simp only [String.utf8EncodeChar]
  generalize c.val.toNat = m at *
  generalize d.val.toNat = n at *
  -- Forms of different lengths differ in the first byte; forms of one length are digits to base 64.
  have hdigits := digits_lt hlt
  have htop : m / 262144 % 8 = m / 262144 ∧ n / 262144 % 8 = n / 262144 := by omega
  split_ifs <;>
    simp (disch := omega) only [List.cons_append, List.cons_lt_cons_iff, UInt8.lt_iff_toNat_lt,
      ← UInt8.toNat_inj, toNat_byte] <;>
    omega

/-! ## Texts -/

theorem bytes_eq (text : String) : bytes text = text.toList.flatMap String.utf8EncodeChar := by
  rw [bytes, String.toUTF8_eq_toByteArray, ← String.utf8Encode_toList, List.utf8Encode,
    List.toList_data_toByteArray]

theorem flatMap_encode_lt {cs ds : List Char} (h : cs < ds) :
    cs.flatMap String.utf8EncodeChar < ds.flatMap String.utf8EncodeChar := by
  induction cs generalizing ds with
  | nil =>
    cases ds with
    | nil => exact absurd h (List.lt_irrefl _)
    | cons d ds =>
      rw [List.flatMap_nil, List.flatMap_cons]
      cases hd : String.utf8EncodeChar d with
      | nil => exact absurd hd (encode_ne_nil d)
      | cons byte bytes => exact List.nil_lt_cons _ _
  | cons c cs ih =>
    cases ds with
    | nil => exact absurd h (List.not_lt_nil _)
    | cons d ds =>
      rw [List.flatMap_cons, List.flatMap_cons]
      rcases List.cons_lt_cons_iff.mp h with hlt | ⟨rfl, hrest⟩
      · exact encode_append_lt hlt _ _
      · exact List.append_left_lt (ih hrest)

/-- The order of texts is that of their bytes. -/
theorem bytes_lt_iff {text other : String} : bytes text < bytes other ↔ text < other := by
  rw [bytes_eq, bytes_eq]
  constructor
  · intro h
    by_contra hge
    rcases Decidable.em (text = other) with rfl | hne
    · exact List.lt_irrefl _ h
    · have hgt : other < text := by
        by_contra hle
        exact hne (String.le_antisymm (String.not_lt.mp hle) (String.not_lt.mp hge))
      exact List.lt_asymm (flatMap_encode_lt hgt) h
  · intro h
    exact flatMap_encode_lt h

end CodeHighlight.Text

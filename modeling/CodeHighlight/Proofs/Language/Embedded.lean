import CodeHighlight.Language.Grammar
import CodeHighlight.Proofs.Base64

/-! # Embedded grammars

An embedded grammar decodes to bytes exactly if its text carries what these bytes are written with,
however blanks break it up and with or without the head of a `data:` address. Every other text is a
failure of the backend. -/
namespace CodeHighlight.Grammar

/-- A text carries itself. A `data:` address carries what follows its first comma, and without a
comma all that follows `data:`. -/
inductive Carries : List Char → List Char → Prop where
  | itself {text : List Char} : ¬ "data:".toList <+: text → Carries text text
  | headed {head data : List Char} :
    ',' ∉ head → Carries ("data:".toList ++ head ++ ',' :: data) data
  | bare {data : List Char} : ',' ∉ data → Carries ("data:".toList ++ data) data

theorem dataPart_address (address : List Char) :
    dataPart ("data:".toList ++ address) =
      if address.contains ',' then (address.dropWhile (· ≠ ',')).drop 1 else address := by
  rw [dataPart, if_pos (List.isPrefixOf_iff_prefix.mpr (List.prefix_append _ _))]
  rfl

theorem dropWhile_comma {head : List Char} (h : ',' ∉ head) (data : List Char) :
    (head ++ ',' :: data).dropWhile (· ≠ ',') = ',' :: data := by
  rw [List.dropWhile_append_of_pos]
  · rfl
  · intro c hc
    exact decide_eq_true fun heq => h (heq ▸ hc)

theorem Carries.dataPart_eq {text data : List Char} (h : Carries text data) :
    dataPart text = data := by
  cases h with
  | itself hplain =>
    rw [dataPart, if_neg]
    intro hprefix
    exact hplain (List.isPrefixOf_iff_prefix.mp hprefix)
  | @headed head data hhead =>
    rw [List.append_assoc, dataPart_address, if_pos (by simp), dropWhile_comma hhead]
    rfl
  | bare hdata => rw [dataPart_address, if_neg (by simpa using hdata)]

theorem carries_dataPart (text : List Char) : Carries text (dataPart text) := by
  by_cases haddress : "data:".toList <+: text
  · obtain ⟨address, rfl⟩ := haddress
    by_cases hcomma : ',' ∈ address
    · obtain ⟨head, data, rfl, hhead⟩ := List.eq_append_cons_of_mem hcomma
      have hcarries : Carries ("data:".toList ++ head ++ ',' :: data) data := .headed hhead
      rw [List.append_assoc] at hcarries
      rw [hcarries.dataPart_eq]
      exact hcarries
    · rw [(Carries.bare hcomma).dataPart_eq]
      exact .bare hcomma
  · rw [(Carries.itself haddress).dataPart_eq]
    exact .itself haddress

theorem carries_iff {text data : List Char} : Carries text data ↔ data = dataPart text := by
  constructor
  · intro h
    exact h.dataPart_eq.symm
  · rintro rfl
    exact carries_dataPart text

/-- The bytes of a text without the five blanks of ASCII. -/
def unbrokenBytes (text : List Char) : List UInt8 :=
  (text.filter fun c => c ∉ [' ', '\t', '\n', '\x0c', '\r']).flatMap String.utf8EncodeChar

theorem payload_eq (text : String) : payload text = unbrokenBytes (dataPart text.toList) := by
  have hblank : (fun c => !Text.isAsciiBlank c) =
      fun c => decide (c ∉ [' ', '\t', '\n', '\x0c', '\r']) := by
    funext c
    rw [Bool.eq_iff_iff]
    simp [Text.isAsciiBlank, and_assoc]
  rw [payload, hblank, unbrokenBytes]

theorem decodeEmbedded_of_empty {text : String} (h : payload text = []) :
    decodeEmbedded text = .error (.backendUnavailable "embedded grammar is empty") := by
  rw [decodeEmbedded, h]
  rfl

theorem decodeEmbedded_of_ne_nil {text : String} (h : payload text ≠ []) :
    decodeEmbedded text = (Base64.decode (payload text)).mapError fun failure =>
      .backendUnavailable ("cannot decode embedded grammar: " ++ failure.message) := by
  rw [decodeEmbedded, List.isEmpty_eq_false_iff.mpr h]
  rfl

theorem decodeEmbedded_eq_ok_iff {text : String} {bytes : List UInt8} :
    decodeEmbedded text = .ok bytes ↔ bytes ≠ [] ∧ payload text = Base64.encode bytes := by
  by_cases hempty : payload text = []
  · rw [decodeEmbedded_of_empty hempty, hempty]
    constructor
    · intro h
      cases h
    · rintro ⟨hne, hencode⟩
      exact absurd (Base64.encode_eq_nil_iff.mp hencode.symm) hne
  · have hne : payload text = Base64.encode bytes → bytes ≠ [] := by
      rintro hencode rfl
      exact hempty hencode
    rw [decodeEmbedded_of_ne_nil hempty, and_iff_right_of_imp hne, ← Base64.decode_eq_ok_iff]
    cases Base64.decode (payload text) with
    | ok decoded =>
      constructor
      · rintro ⟨⟩
        rfl
      · rintro ⟨⟩
        rfl
    | error failure =>
      constructor
      · rintro ⟨⟩
      · rintro ⟨⟩

theorem decodeEmbedded_cases (text : String) :
    (∃ bytes, decodeEmbedded text = .ok bytes) ∨
      ∃ reason, decodeEmbedded text = .error (.backendUnavailable reason) := by
  by_cases hempty : payload text = []
  · exact Or.inr ⟨_, decodeEmbedded_of_empty hempty⟩
  · rw [decodeEmbedded_of_ne_nil hempty]
    cases Base64.decode (payload text) with
    | ok bytes => exact Or.inl ⟨bytes, rfl⟩
    | error failure => exact Or.inr ⟨_, rfl⟩

/-- An embedded grammar decodes to some bytes exactly if there are any and the text carries what
they are written with, but for blanks. Every text that carries nothing of the kind is a failure of
the backend. -/
theorem decodeEmbedded_iff_carries (text : String) :
    (∀ bytes, decodeEmbedded text = .ok bytes ↔
      bytes ≠ [] ∧
        ∃ data, Carries text.toList data ∧ unbrokenBytes data = Base64.encode bytes) ∧
    ((∃ bytes, decodeEmbedded text = .ok bytes) ∨
      ∃ reason, decodeEmbedded text = .error (.backendUnavailable reason)) := by
  refine ⟨?_, decodeEmbedded_cases text⟩
  intro bytes
  rw [decodeEmbedded_eq_ok_iff, payload_eq]
  simp only [carries_iff, exists_eq_left]

example : decodeEmbedded "data:application/wasm;base64,AGFz\nbQ==" = .ok [0, 97, 115, 109] := by
  rfl

end CodeHighlight.Grammar

import CodeHighlight.Base64

/-! # Decoding undoes encoding, and only that

Symbols and their values determine each other, and three bytes the four values that they are written
with. So symbols decode to bytes exactly if the bytes are written with these symbols. Nothing else
is accepted: no other padding, no unused bits that are set, no symbols left over. -/
namespace CodeHighlight.Base64

/-! ## Symbols -/

theorem value?_symbol {value : Nat} (h : value < 64) : value? (symbol value) = some value := by
  have hall : ∀ value < 64, value? (symbol value) = some value := by decide
  exact hall value h

theorem symbol_of_value? {byte : UInt8} {value : Nat} (h : value? byte = some value) :
    value < 64 ∧ symbol value = byte := by
  have hall : ∀ n < 256, ∀ value ∈ value? (UInt8.ofNat n),
      value < 64 ∧ symbol value = UInt8.ofNat n := by decide +kernel
  have hbyte := hall byte.toNat byte.toNat_lt
  rw [UInt8.ofNat_toNat] at hbyte
  exact hbyte value h

theorem symbol_ne_padding {value : Nat} (h : value < 64) : symbol value ≠ padding := by
  intro heq
  have hvalue := value?_symbol h
  rw [heq] at hvalue
  cases hvalue

/-! ## Groups of bytes and of values -/

theorem toNat_ofNat {n : Nat} (h : n < 256) : (UInt8.ofNat n).toNat = n := by
  rw [UInt8.toNat_ofNat', Nat.mod_eq_of_lt h]

theorem eq_ofNat {byte : UInt8} {n : Nat} (h : n = byte.toNat) : byte = UInt8.ofNat n := by
  rw [h, UInt8.ofNat_toNat]

section Groups

variable {w x y z : Nat}

theorem encode_single (hw : w < 64) (hx : x < 64) (hunused : x % 16 = 0) :
    encode [UInt8.ofNat (w * 4 + x / 16)] = [symbol w, symbol x, padding, padding] := by
  rw [encode, toNat_ofNat (by omega)]
  generalize hbits : (w * 4 + x / 16) * 16 = bits
  have hfirst : bits / 64 = w := by omega
  have hsecond : bits % 64 = x := by omega
  rw [hfirst, hsecond]

theorem encode_pair (hw : w < 64) (hx : x < 64) (hy : y < 64) (hunused : y % 4 = 0) :
    encode [UInt8.ofNat (w * 4 + x / 16), UInt8.ofNat (x % 16 * 16 + y / 4)] =
      [symbol w, symbol x, symbol y, padding] := by
  rw [encode, toNat_ofNat (by omega), toNat_ofNat (by omega)]
  generalize hbits : ((w * 4 + x / 16) * 256 + (x % 16 * 16 + y / 4)) * 4 = bits
  have hfirst : bits / 4096 = w := by omega
  have hsecond : bits / 64 % 64 = x := by omega
  have hthird : bits % 64 = y := by omega
  rw [hfirst, hsecond, hthird]

theorem encode_triple (hw : w < 64) (hx : x < 64) (hy : y < 64) (hz : z < 64)
    (rest : List UInt8) :
    encode (UInt8.ofNat (w * 4 + x / 16) :: UInt8.ofNat (x % 16 * 16 + y / 4) ::
        UInt8.ofNat (y % 4 * 64 + z) :: rest) =
      symbol w :: symbol x :: symbol y :: symbol z :: encode rest := by
  rw [encode, toNat_ofNat (by omega), toNat_ofNat (by omega), toNat_ofNat (by omega)]
  generalize hbits : ((w * 4 + x / 16) * 256 + (x % 16 * 16 + y / 4)) * 256 + (y % 4 * 64 + z) =
    bits
  have hfirst : bits / 262144 = w := by omega
  have hsecond : bits / 4096 % 64 = x := by omega
  have hthird : bits / 64 % 64 = y := by omega
  have hfourth : bits % 64 = z := by omega
  rw [hfirst, hsecond, hthird, hfourth]

theorem exists_single (a : UInt8) :
    ∃ w x, w < 64 ∧ x < 64 ∧ x % 16 = 0 ∧ a = UInt8.ofNat (w * 4 + x / 16) := by
  have ha := a.toNat_lt
  refine ⟨a.toNat / 4, a.toNat % 4 * 16, by omega, by omega, by omega, eq_ofNat ?_⟩
  omega

theorem exists_pair (a b : UInt8) :
    ∃ w x y, w < 64 ∧ x < 64 ∧ y < 64 ∧ y % 4 = 0 ∧ a = UInt8.ofNat (w * 4 + x / 16) ∧
      b = UInt8.ofNat (x % 16 * 16 + y / 4) := by
  have ha := a.toNat_lt
  have hb := b.toNat_lt
  refine ⟨a.toNat / 4, a.toNat % 4 * 16 + b.toNat / 16, b.toNat % 16 * 4, by omega, by omega,
    by omega, by omega, eq_ofNat ?_, eq_ofNat ?_⟩
  · omega
  · omega

theorem exists_triple (a b c : UInt8) :
    ∃ w x y z, w < 64 ∧ x < 64 ∧ y < 64 ∧ z < 64 ∧ a = UInt8.ofNat (w * 4 + x / 16) ∧
      b = UInt8.ofNat (x % 16 * 16 + y / 4) ∧ c = UInt8.ofNat (y % 4 * 64 + z) := by
  have ha := a.toNat_lt
  have hb := b.toNat_lt
  have hc := c.toNat_lt
  refine ⟨a.toNat / 4, a.toNat % 4 * 16 + b.toNat / 16, b.toNat % 16 * 4 + c.toNat / 64,
    c.toNat % 64, by omega, by omega, by omega, by omega, eq_ofNat ?_, eq_ofNat ?_, eq_ofNat ?_⟩
  · omega
  · omega
  · omega

end Groups

theorem length_encode_mod (bytes : List UInt8) : (encode bytes).length % 4 = 0 := by
  fun_induction encode bytes with
  | case1 => rfl
  | case2 a bits => simp
  | case3 a b bits => simp
  | case4 a b c rest bits ih =>
    simp only [List.length_cons]
    omega

theorem encode_eq_nil_iff {bytes : List UInt8} : encode bytes = [] ↔ bytes = [] := by
  cases bytes using encode.fun_cases <;> simp [encode]

/-! ## The last group -/

/-- A symbol together with its value. -/
def withValue (value : Nat) : UInt8 × Nat := (symbol value, value)

section Tail

variable {offset pads total : Nat} {symbols all : List (UInt8 × Nat)} {bytes : List UInt8}

theorem readTail_padding (h : 2 ≤ symbols.length + pads) (more : Nat) :
    readTail offset symbols pads (List.replicate more padding) = .ok (symbols, pads + more) := by
  induction more generalizing pads with
  | zero => rfl
  | succ more ih =>
    rw [List.replicate_succ, readTail, if_pos rfl, if_neg (by omega), ih (by omega)]
    congr 2
    omega

theorem readTail_symbols {values : List Nat} (h : ∀ value ∈ values, value < 64)
    (rest : List UInt8) :
    readTail offset symbols 0 (values.map symbol ++ rest) =
      readTail offset (symbols ++ values.map withValue) 0 rest := by
  induction values generalizing symbols with
  | nil => simp
  | cons value values ih =>
    obtain ⟨hvalue, hvalues⟩ := List.forall_mem_cons.mp h
    rw [List.map_cons, List.cons_append, readTail, if_neg (symbol_ne_padding hvalue),
      if_neg (Nat.lt_irrefl 0), value?_symbol hvalue]
    have hrest : readTail offset (symbols ++ [withValue value]) 0 (values.map symbol ++ rest) =
        readTail offset (symbols ++ [withValue value] ++ values.map withValue) 0 rest :=
      ih hvalues
    rw [List.append_assoc] at hrest
    exact hrest

/-- What is read is some symbols and then some padding. -/
theorem eq_of_readTail (h : readTail offset symbols pads bytes = .ok (all, total)) :
    ∃ (values : List Nat) (more : Nat), (∀ value ∈ values, value < 64) ∧
      bytes = values.map symbol ++ List.replicate more padding ∧
      all = symbols ++ values.map withValue ∧ total = pads + more ∧ (0 < pads → values = []) := by
  induction bytes generalizing symbols pads with
  | nil =>
    rw [readTail] at h
    cases h
    exact ⟨[], 0, by simp, rfl, by simp, rfl, fun _ => rfl⟩
  | cons byte rest ih =>
    rw [readTail] at h
    split at h
    · rename_i hbyte
      split at h
      · cases h
      · obtain ⟨values, more, -, hrest, hall, htotal, hnone⟩ := ih h
        obtain rfl := hnone (Nat.succ_pos pads)
        refine ⟨[], more + 1, by simp, ?_, hall, by omega, fun _ => rfl⟩
        rw [hbyte, hrest]
        rfl
    · split at h
      · cases h
      · rename_i hpads
        split at h
        · rename_i value hvalue
          obtain ⟨hlt, hsymbol⟩ := symbol_of_value? hvalue
          obtain ⟨values, more, hvalues, hrest, hall, htotal, -⟩ := ih h
          refine ⟨value :: values, more, List.forall_mem_cons.mpr ⟨hlt, hvalues⟩, ?_, ?_, htotal,
            fun hpos => absurd hpos hpads⟩
          · rw [hrest, List.map_cons, hsymbol, List.cons_append]
          · rw [hall, List.append_assoc, ← hsymbol]
            rfl
        · cases h

theorem readTail_group (offset : Nat) (values : List Nat) (more : Nat)
    (h : ∀ value ∈ values, value < 64) (hlength : 2 ≤ values.length) :
    readTail offset [] 0 (values.map symbol ++ List.replicate more padding) =
      .ok (values.map withValue, more) := by
  rw [readTail_symbols h, List.nil_append, readTail_padding, Nat.zero_add]
  rw [List.length_map]
  exact hlength

section Values

variable {w x y z : Nat}

theorem decodeTail_single (hw : w < 64) (hx : x < 64) :
    decodeTail offset [symbol w, symbol x, padding, padding] =
      if x % 16 ≠ 0 then .error (.invalidLastSymbol (symbol x) (offset + 1))
      else .ok [UInt8.ofNat (w * 4 + x / 16)] := by
  have hread : readTail offset [] 0 [symbol w, symbol x, padding, padding] =
      .ok ([withValue w, withValue x], 2) :=
    readTail_group offset [w, x] 2 (by simp [hw, hx]) (by simp)
  rw [decodeTail, hread]
  rfl

theorem decodeTail_pair (hw : w < 64) (hx : x < 64) (hy : y < 64) :
    decodeTail offset [symbol w, symbol x, symbol y, padding] =
      if y % 4 ≠ 0 then .error (.invalidLastSymbol (symbol y) (offset + 2))
      else .ok [UInt8.ofNat (w * 4 + x / 16), UInt8.ofNat (x % 16 * 16 + y / 4)] := by
  have hread : readTail offset [] 0 [symbol w, symbol x, symbol y, padding] =
      .ok ([withValue w, withValue x, withValue y], 1) :=
    readTail_group offset [w, x, y] 1 (by simp [hw, hx, hy]) (by simp)
  rw [decodeTail, hread]
  rfl

theorem decodeTail_triple (hw : w < 64) (hx : x < 64) (hy : y < 64) (hz : z < 64) :
    decodeTail offset [symbol w, symbol x, symbol y, symbol z] =
      .ok [UInt8.ofNat (w * 4 + x / 16), UInt8.ofNat (x % 16 * 16 + y / 4),
        UInt8.ofNat (y % 4 * 64 + z)] := by
  have hread : readTail offset [] 0 [symbol w, symbol x, symbol y, symbol z] =
      .ok ([withValue w, withValue x, withValue y, withValue z], 0) :=
    readTail_group offset [w, x, y, z] 0 (by simp [hw, hx, hy, hz]) (by simp)
  rw [decodeTail, hread]
  rfl

end Values

theorem decodeTail_encode {out : List UInt8} (h : (encode out).length ≤ 4) (hne : out ≠ []) :
    decodeTail offset (encode out) = .ok out := by
  cases out using encode.fun_cases with
  | case1 => exact absurd rfl hne
  | case2 a =>
    obtain ⟨w, x, hw, hx, hunused, rfl⟩ := exists_single a
    rw [encode_single hw hx hunused, decodeTail_single hw hx, if_neg fun hused => hused hunused]
  | case3 a b =>
    obtain ⟨w, x, y, hw, hx, hy, hunused, rfl, rfl⟩ := exists_pair a b
    rw [encode_pair hw hx hy hunused, decodeTail_pair hw hx hy,
      if_neg fun hused => hused hunused]
  | case4 a b c rest =>
    obtain ⟨w, x, y, z, hw, hx, hy, hz, rfl, rfl, rfl⟩ := exists_triple a b c
    rw [encode_triple hw hx hy hz] at h ⊢
    have hrest : encode rest = [] := by
      apply List.eq_nil_of_length_eq_zero
      simp only [List.length_cons] at h
      omega
    rw [hrest, decodeTail_triple hw hx hy hz, encode_eq_nil_iff.mp hrest]

/-- What decodes as a last group is two to four symbols, with padding up to four. -/
theorem exists_group {out : List UInt8} (h : decodeTail offset bytes = .ok out) :
    ∃ (values : List Nat) (more : Nat), (∀ value ∈ values, value < 64) ∧
      bytes = values.map symbol ++ List.replicate more padding ∧
      2 ≤ values.length ∧ values.length + more = 4 := by
  rw [decodeTail] at h
  cases hread : readTail offset [] 0 bytes with
  | error failure =>
    rw [hread] at h
    cases h
  | ok result =>
    obtain ⟨all, total⟩ := result
    obtain ⟨values, more, hvalues, hbytes, rfl, rfl, -⟩ := eq_of_readTail hread
    rw [hread] at h
    change (if _ then _ else if _ then _ else _) = _ at h
    rw [List.nil_append, List.length_map, Nat.zero_add] at h
    split at h
    · cases h
    · split at h
      · cases h
      · rename_i hleast hfour
        exact ⟨values, more, hvalues, hbytes, Nat.not_lt.mp hleast, Decidable.not_not.mp hfour⟩

theorem encode_of_decodeTail {out : List UInt8} (h : decodeTail offset bytes = .ok out) :
    out ≠ [] ∧ bytes = encode out := by
  obtain ⟨values, more, hvalues, rfl, hleast, hfour⟩ := exists_group h
  rcases values with _ | ⟨w, _ | ⟨x, _ | ⟨y, _ | ⟨z, _ | ⟨v, values⟩⟩⟩⟩⟩
  · simp at hleast
  · simp at hleast
  · obtain rfl : more = 2 := Nat.add_left_cancel (n := 2) hfour
    simp only [List.forall_mem_cons] at hvalues
    obtain ⟨hw, hx, -⟩ := hvalues
    change decodeTail offset [symbol w, symbol x, padding, padding] = _ at h
    rw [decodeTail_single hw hx] at h
    split at h
    · cases h
    · rename_i hunused
      cases h
      rw [encode_single hw hx (Decidable.not_not.mp hunused)]
      exact ⟨List.cons_ne_nil _ _, rfl⟩
  · obtain rfl : more = 1 := Nat.add_left_cancel (n := 3) hfour
    simp only [List.forall_mem_cons] at hvalues
    obtain ⟨hw, hx, hy, -⟩ := hvalues
    change decodeTail offset [symbol w, symbol x, symbol y, padding] = _ at h
    rw [decodeTail_pair hw hx hy] at h
    split at h
    · cases h
    · rename_i hunused
      cases h
      rw [encode_pair hw hx hy (Decidable.not_not.mp hunused)]
      exact ⟨List.cons_ne_nil _ _, rfl⟩
  · obtain rfl : more = 0 := Nat.add_left_cancel (n := 4) hfour
    simp only [List.forall_mem_cons] at hvalues
    obtain ⟨hw, hx, hy, hz, -⟩ := hvalues
    change decodeTail offset [symbol w, symbol x, symbol y, symbol z] = _ at h
    rw [decodeTail_triple hw hx hy hz] at h
    cases h
    rw [encode_triple hw hx hy hz]
    exact ⟨List.cons_ne_nil _ _, rfl⟩
  · simp only [List.length_cons] at hfour
    omega

end Tail

/-! ## All groups -/

section Groups

variable {offset : Nat} {bytes out : List UInt8}

theorem valueAt_symbol {value : Nat} (h : value < 64) (offset : Nat) :
    valueAt (symbol value) offset = .ok value := by
  rw [valueAt, value?_symbol h]

theorem symbol_of_valueAt {byte : UInt8} {next : Nat → Except DecodeFailure (List UInt8)}
    (h : (valueAt byte offset >>= next) = .ok out) :
    ∃ value, value < 64 ∧ byte = symbol value ∧ next value = .ok out := by
  rw [valueAt] at h
  split at h
  · rename_i value hvalue
    obtain ⟨hlt, hsymbol⟩ := symbol_of_value? hvalue
    exact ⟨value, hlt, hsymbol.symm, h⟩
  · cases h

theorem encode_of_decodeFrom (h : decodeFrom offset bytes = .ok out) :
    out ≠ [] ∧ bytes = encode out := by
  induction offset, bytes using decodeFrom.induct generalizing out with
  | case1 offset a b c d next rest ih =>
    rw [decodeFrom] at h
    obtain ⟨w, hw, ha, hfirst⟩ := symbol_of_valueAt h
    obtain ⟨x, hx, hb, hsecond⟩ := symbol_of_valueAt hfirst
    obtain ⟨y, hy, hc, hthird⟩ := symbol_of_valueAt hsecond
    obtain ⟨z, hz, hd, hfourth⟩ := symbol_of_valueAt hthird
    cases hmore : decodeFrom (offset + 4) (next :: rest) with
    | error failure =>
      rw [hmore] at hfourth
      cases hfourth
    | ok more =>
      rw [hmore] at hfourth
      cases hfourth
      obtain ⟨-, hrest⟩ := ih hmore
      rw [encode_triple hw hx hy hz, ← hrest, ha, hb, hc, hd]
      exact ⟨List.cons_ne_nil _ _, rfl⟩
  | case2 offset bytes hshort =>
    rw [decodeFrom.eq_2 offset bytes hshort] at h
    exact encode_of_decodeTail h

theorem decodeFrom_of_length_le (h : bytes.length ≤ 4) (offset : Nat) :
    decodeFrom offset bytes = decodeTail offset bytes := by
  rw [decodeFrom]
  rintro a b c d next rest rfl
  simp only [List.length_cons] at h
  omega

theorem decodeFrom_encode (h : out ≠ []) (offset : Nat) :
    decodeFrom offset (encode out) = .ok out := by
  induction out using encode.induct generalizing offset with
  | case1 => exact absurd rfl h
  | case2 a =>
    have hlength : (encode [a]).length ≤ 4 := Nat.le_refl 4
    rw [decodeFrom_of_length_le hlength, decodeTail_encode hlength h]
  | case3 a b =>
    have hlength : (encode [a, b]).length ≤ 4 := Nat.le_refl 4
    rw [decodeFrom_of_length_le hlength, decodeTail_encode hlength h]
  | case4 a b c rest ih =>
    by_cases hrest : rest = []
    · subst hrest
      have hlength : (encode [a, b, c]).length ≤ 4 := Nat.le_refl 4
      rw [decodeFrom_of_length_le hlength, decodeTail_encode hlength h]
    · obtain ⟨w, x, y, z, hw, hx, hy, hz, rfl, rfl, rfl⟩ := exists_triple a b c
      have hmore := ih hrest (offset + 4)
      obtain ⟨next, more, hnext⟩ := List.exists_cons_of_ne_nil (mt encode_eq_nil_iff.mp hrest)
      rw [hnext] at hmore
      rw [encode_triple hw hx hy hz, hnext, decodeFrom, valueAt_symbol hw, valueAt_symbol hx,
        valueAt_symbol hy, valueAt_symbol hz, hmore]
      rfl

/-- The symbols for some bytes are never one more than whole groups. -/
theorem decode_eq_decodeFrom (h : bytes ≠ []) (hgroups : bytes.length % 4 = 0) :
    decode bytes = decodeFrom 0 bytes := by
  rw [decode, List.getLast?_eq_some_getLast h]
  simp [hgroups]

/-- Decoding gives bytes exactly for the symbols that they are written with. -/
theorem decode_eq_ok_iff : decode bytes = .ok out ↔ bytes = encode out := by
  constructor
  · intro h
    by_cases hbytes : bytes = []
    · subst hbytes
      cases h
      rfl
    · rw [decode, List.getLast?_eq_some_getLast hbytes] at h
      dsimp only at h
      split at h
      · cases h
      · exact (encode_of_decodeFrom h).2
  · rintro rfl
    by_cases hout : out = []
    · subst hout
      rfl
    · have hencode : encode out ≠ [] := mt encode_eq_nil_iff.mp hout
      rw [decode_eq_decodeFrom hencode (length_encode_mod out), decodeFrom_encode hout]

end Groups

end CodeHighlight.Base64

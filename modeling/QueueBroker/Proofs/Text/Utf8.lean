import QueueBroker.Text.Utf8

/-!
# Decoding what was encoded

Every text is read back from its bytes.
-/

namespace QueueBroker.Utf8

theorem toNat_toUInt8_of_lt {n : Nat} (h : n < 256) : n.toUInt8.toNat = n := by
  rw [UInt8.toNat_ofNat']
  exact Nat.mod_eq_of_lt h

/-- The order of bytes is that of their values. -/
theorem toUInt8_lt_iff {n : Nat} {b : UInt8} (h : n < 256) : n.toUInt8 < b ↔ n < b.toNat := by
  rw [UInt8.lt_iff_toNat_lt, toNat_toUInt8_of_lt h]

theorem le_toUInt8_iff {n : Nat} {b : UInt8} (h : n < 256) : b ≤ n.toUInt8 ↔ b.toNat ≤ n := by
  rw [UInt8.le_iff_toNat_le, toNat_toUInt8_of_lt h]

theorem encodeChar_of_ascii {c : Char} (h : c.toNat < 0x80) : encodeChar c = [c.toNat.toUInt8] :=
  if_pos h

/-- The bytes of a character outside ASCII are all outside ASCII. -/
theorem le_of_mem_encodeChar {c : Char} (h : ¬c.toNat < 0x80) {b : UInt8} (hb : b ∈ encodeChar c) : 0x80 ≤ b.toNat := by
  have hvalid : c.toNat < 0xD800 ∨ 0xDFFF < c.toNat ∧ c.toNat < 0x110000 := c.valid
  have hlead {n : Nat} (hbyte : n < 256) (hlow : 0x80 ≤ n) : 0x80 ≤ n.toUInt8.toNat := by
    rw [toNat_toUInt8_of_lt hbyte]
    exact hlow
  rw [encodeChar, if_neg h] at hb
  by_cases h2 : c.toNat < 0x800
  · rw [if_pos h2] at hb
    simp only [List.mem_cons, List.not_mem_nil, or_false] at hb
    rcases hb with rfl | rfl <;> exact hlead (by omega) (by omega)
  by_cases h3 : c.toNat < 0x10000
  · rw [if_neg h2, if_pos h3] at hb
    simp only [List.mem_cons, List.not_mem_nil, or_false] at hb
    rcases hb with rfl | rfl | rfl <;> exact hlead (by omega) (by omega)
  · rw [if_neg h2, if_neg h3] at hb
    simp only [List.mem_cons, List.not_mem_nil, or_false] at hb
    rcases hb with rfl | rfl | rfl | rfl <;> exact hlead (by omega) (by omega)

/-- A continuation byte gives its low six bits. -/
theorem continuation?_toUInt8 {n : Nat} (h : n < 0x40) : continuation? (0x80 + n).toUInt8 = some n := by
  have hbyte : 0x80 + n < 256 := by omega
  have hrange : 0x80 ≤ (0x80 + n).toUInt8 ∧ (0x80 + n).toUInt8 < 0xC0 := by
    rw [le_toUInt8_iff hbyte, toUInt8_lt_iff hbyte]
    simp
    omega
  rw [continuation?, if_pos hrange, toNat_toUInt8_of_lt hbyte]
  simp

/-- No two bytes spell a character when the first begins a longer sequence. -/
theorem pair?_eq_none {n : Nat} {b : UInt8} (hlow : 0xE0 ≤ n) (hbyte : n < 256) : pair? n.toUInt8 b = none := by
  have hnot : ¬(0xC2 ≤ n.toUInt8 ∧ n.toUInt8 < 0xE0) := by
    rw [le_toUInt8_iff hbyte, toUInt8_lt_iff hbyte]
    simp
    omega
  unfold pair?
  cases continuation? b with
  | none => rfl
  | some y => exact if_neg hnot

/-- No three bytes spell a character when the first begins a longer sequence. -/
theorem triple?_eq_none {n : Nat} {b c : UInt8} (hlow : 0xF0 ≤ n) (hbyte : n < 256) : triple? n.toUInt8 b c = none := by
  have hnot : ¬n.toUInt8 < 0xF0 := by
    rw [toUInt8_lt_iff hbyte]
    simp
    omega
  unfold triple?
  cases continuation? b with
  | none => rfl
  | some y =>
    cases continuation? c with
    | none => rfl
    | some z => exact if_neg fun h => hnot h.2.1

theorem pair?_encoded {n : Nat} (hlow : 0x80 ≤ n) (hhigh : n < 0x800) :
    pair? (0xC0 + n / 0x40).toUInt8 (0x80 + n % 0x40).toUInt8 = some (Char.ofNat n) := by
  have hbyte : 0xC0 + n / 0x40 < 256 := by omega
  have hrange : 0xC2 ≤ (0xC0 + n / 0x40).toUInt8 ∧ (0xC0 + n / 0x40).toUInt8 < 0xE0 := by
    rw [le_toUInt8_iff hbyte, toUInt8_lt_iff hbyte]
    simp
    omega
  have hvalue : (0xC0 + n / 0x40 - 0xC0) * 0x40 + n % 0x40 = n := by omega
  rw [pair?, continuation?_toUInt8 (by omega), toNat_toUInt8_of_lt hbyte]
  simp only [Option.bind_eq_bind, Option.bind_some, hvalue]
  exact if_pos hrange

theorem triple?_encoded {n : Nat} (hlow : 0x800 ≤ n) (hhigh : n < 0x10000) (hvalid : ¬(0xD800 ≤ n ∧ n < 0xE000)) :
    triple? (0xE0 + n / 0x1000).toUInt8 (0x80 + n / 0x40 % 0x40).toUInt8 (0x80 + n % 0x40).toUInt8 =
      some (Char.ofNat n) := by
  have hbyte : 0xE0 + n / 0x1000 < 256 := by omega
  have hrange : 0xE0 ≤ (0xE0 + n / 0x1000).toUInt8 ∧ (0xE0 + n / 0x1000).toUInt8 < 0xF0 := by
    rw [le_toUInt8_iff hbyte, toUInt8_lt_iff hbyte]
    simp
    omega
  have hvalue : (0xE0 + n / 0x1000 - 0xE0) * 0x1000 + n / 0x40 % 0x40 * 0x40 + n % 0x40 = n := by omega
  rw [triple?, continuation?_toUInt8 (by omega), continuation?_toUInt8 (by omega), toNat_toUInt8_of_lt hbyte]
  simp only [Option.bind_eq_bind, Option.bind_some, hvalue]
  exact if_pos ⟨hrange.1, hrange.2, hlow, hvalid⟩

theorem quadruple?_encoded {n : Nat} (hlow : 0x10000 ≤ n) (hhigh : n < 0x110000) :
    quadruple? (0xF0 + n / 0x40000).toUInt8 (0x80 + n / 0x1000 % 0x40).toUInt8 (0x80 + n / 0x40 % 0x40).toUInt8
      (0x80 + n % 0x40).toUInt8 = some (Char.ofNat n) := by
  have hbyte : 0xF0 + n / 0x40000 < 256 := by omega
  have hrange : 0xF0 ≤ (0xF0 + n / 0x40000).toUInt8 ∧ (0xF0 + n / 0x40000).toUInt8 < 0xF5 := by
    rw [le_toUInt8_iff hbyte, toUInt8_lt_iff hbyte]
    simp
    omega
  have hvalue : (0xF0 + n / 0x40000 - 0xF0) * 0x40000 + n / 0x1000 % 0x40 * 0x1000 + n / 0x40 % 0x40 * 0x40 +
      n % 0x40 = n := by omega
  rw [quadruple?, continuation?_toUInt8 (by omega), continuation?_toUInt8 (by omega), continuation?_toUInt8 (by omega),
    toNat_toUInt8_of_lt hbyte]
  simp only [Option.bind_eq_bind, Option.bind_some, hvalue]
  exact if_pos ⟨hrange.1, hrange.2, hlow, hhigh⟩

section Steps

variable {read : List Char} {rest : Bytes} {a b c d : UInt8} {x : Char}

theorem decodeFrom_single (ha : a < 0x80) : decodeFrom read (a :: rest) = decodeFrom (Char.ofNat a.toNat :: read) rest := by
  rw [decodeFrom.eq_def]
  exact if_pos ha

theorem decodeFrom_pair (ha : ¬a < 0x80) (h2 : pair? a b = some x) :
    decodeFrom read (a :: b :: rest) = decodeFrom (x :: read) rest := by
  rw [decodeFrom.eq_def]
  simp only [if_neg ha, h2]

theorem decodeFrom_triple (ha : ¬a < 0x80) (h2 : pair? a b = none) (h3 : triple? a b c = some x) :
    decodeFrom read (a :: b :: c :: rest) = decodeFrom (x :: read) rest := by
  rw [decodeFrom.eq_def]
  simp only [if_neg ha, h2, h3]

theorem decodeFrom_quadruple (ha : ¬a < 0x80) (h2 : pair? a b = none) (h3 : triple? a b c = none)
    (h4 : quadruple? a b c d = some x) :
    decodeFrom read (a :: b :: c :: d :: rest) = decodeFrom (x :: read) rest := by
  rw [decodeFrom.eq_def]
  simp only [if_neg ha, h2, h3, h4]

end Steps

/-- A character is read back from its bytes, whatever follows. -/
theorem decodeFrom_encodeChar (c : Char) (read : List Char) (rest : Bytes) :
    decodeFrom read (encodeChar c ++ rest) = decodeFrom (c :: read) rest := by
  have hvalid : c.toNat < 0xD800 ∨ 0xDFFF < c.toNat ∧ c.toNat < 0x110000 := c.valid
  have hback : Char.ofNat c.toNat = c := Char.ofNat_toNat c
  have hnot {n : Nat} (hbyte : n < 256) (hlow : 0x80 ≤ n) : ¬n.toUInt8 < 0x80 := by
    rw [toUInt8_lt_iff hbyte]
    simpa using hlow
  rw [encodeChar]
  by_cases h1 : c.toNat < 0x80
  · have hascii : c.toNat.toUInt8 < 0x80 := (toUInt8_lt_iff (by omega)).2 h1
    rw [if_pos h1, List.singleton_append, decodeFrom_single hascii, toNat_toUInt8_of_lt (by omega), hback]
  by_cases h2 : c.toNat < 0x800
  · rw [if_neg h1, if_pos h2]
    refine (decodeFrom_pair (hnot ?_ ?_) (pair?_encoded ?_ h2)).trans (by rw [hback]; rfl) <;> omega
  by_cases h3 : c.toNat < 0x10000
  · rw [if_neg h1, if_neg h2, if_pos h3]
    refine (decodeFrom_triple (hnot ?_ ?_) (pair?_eq_none ?_ ?_) (triple?_encoded ?_ h3 ?_)).trans (by rw [hback]; rfl) <;> omega
  · rw [if_neg h1, if_neg h2, if_neg h3]
    refine (decodeFrom_quadruple (hnot ?_ ?_) (pair?_eq_none ?_ ?_) (triple?_eq_none ?_ ?_)
      (quadruple?_encoded ?_ ?_)).trans (by rw [hback]; rfl) <;> omega

theorem decodeFrom_encode (cs read : List Char) : decodeFrom read (cs.flatMap encodeChar) = (read.reverse ++ cs, []) := by
  induction cs generalizing read with
  | nil => simp [decodeFrom]
  | cons c cs ih =>
    rw [List.flatMap_cons, decodeFrom_encodeChar, ih]
    simp

/-- Characters are read back from their bytes. -/
theorem decode_flatMap (cs : List Char) : decode (cs.flatMap encodeChar) = .ok (String.ofList cs) := by
  rw [decode, decodeFrom_encode]
  rfl

end QueueBroker.Utf8

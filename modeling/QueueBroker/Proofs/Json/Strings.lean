import QueueBroker.Proofs.Json.Reading
import QueueBroker.Proofs.Text.Utf8

/-!
# Reading strings

A string is read back from its quoted form. Each character inside the quotes is escaped on its own, and is read back in one
turn when it was escaped and in one turn per byte when it was not.
-/

namespace QueueBroker.Json.Reader

variable {read out i j rest : Bytes} {fuel : Nat}

/-- The bytes of some characters. -/
abbrev encoded (cs : List Char) : Bytes :=
  cs.flatMap Utf8.encodeChar

theorem encoded_cons_of_ascii {c : Char} (h : c.toNat < 0x80) (cs : List Char) :
    encoded (c :: cs) = code c :: encoded cs := by
  rw [encoded, List.flatMap_cons, Utf8.encodeChar_of_ascii h]
  rfl

/-! ## Escapes -/

/-- An escape by a letter is read as the character it stands for. -/
theorem escapeSequence_simple {b : UInt8} {c : Char} (h : simpleEscape? b = some c) (i : Bytes) :
    Reads escapeSequence (b :: i) c i := by
  refine Reads.bind (Reads.take b i) ?_
  simp only [h]
  exact Reads.pure c i

theorem hexEscape_reads {a b d e : UInt8} {x y z w : Nat} (ha : hexValue? a = some x) (hb : hexValue? b = some y)
    (hd : hexValue? d = some z) (he : hexValue? e = some w) (i : Bytes) :
    Reads hexEscape (a :: b :: d :: e :: i) (x * 4096 + y * 256 + z * 16 + w) i := by
  intro p
  refine ⟨(((p.advance a).advance b).advance d).advance e, ?_⟩
  simp only [hexEscape, ha, hb, hd, he]

theorem hexValue?_digit : ∀ n < 16, hexValue? (code (Nat.digitChar n)) = some n := by
  decide

theorem digitChar_ascii : ∀ n < 16, (Nat.digitChar n).toNat < 0x80 := by
  decide

/-- The escape of a control character by its code is read as that character. -/
theorem escapeSequence_control {n : Nat} (h : n < 0x20) (i : Bytes) :
    Reads escapeSequence (code 'u' :: encoded ('0' :: '0' :: hexPair n) ++ i) (Char.ofNat n) i := by
  have hpair : encoded ('0' :: '0' :: hexPair n) =
      [code '0', code '0', code (Nat.digitChar (n / 16)), code (Nat.digitChar (n % 16))] := by
    rw [encoded_cons_of_ascii (by decide), encoded_cons_of_ascii (by decide), hexPair,
      encoded_cons_of_ascii (digitChar_ascii _ (by omega)), encoded_cons_of_ascii (digitChar_ascii _ (by omega))]
    rfl
  have hvalue : 0 * 4096 + 0 * 256 + n / 16 * 16 + n % 16 = n := by omega
  have hzero : hexValue? (code '0') = some 0 := by decide
  have hhex := hexEscape_reads hzero hzero (hexValue?_digit (n / 16) (by omega)) (hexValue?_digit (n % 16) (by omega)) i
  rw [hvalue] at hhex
  rw [hpair]
  refine Reads.bind (Reads.take (code 'u') _) ?_
  refine Reads.bind hhex ?_
  rw [if_neg (by omega), if_neg (by omega)]
  exact Reads.pure _ i

/-! ## Turns of the loop -/

theorem stringBytes_quote (fuel : Nat) (read i : Bytes) :
    Reads (stringBytes (fuel + 1) read) (code '"' :: i) read.reverse i :=
  Reads.bind (Reads.take (code '"') i) (Reads.pure read.reverse i)

theorem stringBytes_escape {c : Char} (h1 : Reads escapeSequence i c j)
    (h2 : Reads (stringBytes fuel ((Utf8.encodeChar c).reverse ++ read)) j out rest) :
    Reads (stringBytes (fuel + 1) read) (code '\\' :: i) out rest :=
  Reads.bind (Reads.take (code '\\') i) (Reads.bind h1 h2)

theorem stringBytes_plain {b : UInt8} (hquote : b ≠ code '"') (hslash : b ≠ code '\\') (hlow : ¬b < 0x20)
    (h : Reads (stringBytes fuel (b :: read)) i out rest) : Reads (stringBytes (fuel + 1) read) (b :: i) out rest := by
  refine Reads.bind (Reads.take b i) ?_
  simp only [if_neg hquote, if_neg hslash, if_neg hlow]
  exact h

/-- Bytes that need no escape are read one by one. -/
theorem stringBytes_plains {bs : Bytes} (hbs : ∀ b ∈ bs, b ≠ code '"' ∧ b ≠ code '\\' ∧ ¬b < 0x20)
    (h : Reads (stringBytes fuel (bs.reverse ++ read)) i out rest) :
    Reads (stringBytes (fuel + bs.length) read) (bs ++ i) out rest := by
  induction bs generalizing read with
  | nil => exact h
  | cons b bs ih =>
    obtain ⟨hquote, hslash, hlow⟩ := hbs b List.mem_cons_self
    refine stringBytes_plain hquote hslash hlow (ih (fun b' hb' => hbs b' (List.mem_cons_of_mem b hb')) ?_)
    rw [List.reverse_cons, List.append_assoc] at h
    exact h

/-! ## Characters -/

/-- The characters that are escaped by a letter. -/
def lettered : List Char :=
  ['"', '\\', '\x08', '\x0c', '\n', '\r', '\t']

theorem escape_of_lettered : ∀ c ∈ lettered, ∃ b, escape c = ['\\', b] ∧ b.toNat < 0x80 ∧ simpleEscape? (code b) = some c := by
  simp only [lettered, List.forall_mem_cons]
  refine ⟨⟨'"', ?_⟩, ⟨'\\', ?_⟩, ⟨'b', ?_⟩, ⟨'f', ?_⟩, ⟨'n', ?_⟩, ⟨'r', ?_⟩, ⟨'t', ?_⟩, List.forall_mem_nil _⟩ <;> decide

theorem escape_of_control {c : Char} (hc : c ∉ lettered) (h : c.toNat < 0x20) :
    escape c = '\\' :: 'u' :: '0' :: '0' :: hexPair c.toNat := by
  simp only [lettered, List.mem_cons, List.not_mem_nil, or_false, not_or] at hc
  obtain ⟨h1, h2, h3, h4, h5, h6, h7⟩ := hc
  rw [escape, if_neg h1, if_neg h2, if_neg h3, if_neg h4, if_neg h5, if_neg h6, if_neg h7, if_pos h]

theorem escape_of_plain {c : Char} (hc : c ∉ lettered) (h : ¬c.toNat < 0x20) : escape c = [c] := by
  simp only [lettered, List.mem_cons, List.not_mem_nil, or_false, not_or] at hc
  obtain ⟨h1, h2, h3, h4, h5, h6, h7⟩ := hc
  rw [escape, if_neg h1, if_neg h2, if_neg h3, if_neg h4, if_neg h5, if_neg h6, if_neg h7, if_neg h]

/-- The bytes of a character that is not escaped are neither marks nor controls. -/
theorem plain_of_mem_encodeChar {c : Char} (hc : c ∉ lettered) (h : ¬c.toNat < 0x20) {b : UInt8}
    (hb : b ∈ Utf8.encodeChar c) : b ≠ code '"' ∧ b ≠ code '\\' ∧ ¬b < 0x20 := by
  have hval : c.toNat < 0x80 ∧ b.toNat = c.toNat ∨ 0x80 ≤ b.toNat := by
    by_cases hascii : c.toNat < 0x80
    · rw [Utf8.encodeChar_of_ascii hascii, List.mem_singleton] at hb
      exact Or.inl ⟨hascii, hb ▸ Utf8.toNat_toUInt8_of_lt (by omega)⟩
    · exact Or.inr (Utf8.le_of_mem_encodeChar hascii hb)
  have hne {d : Char} (hd : d ∈ lettered) (hsmall : d.toNat < 0x80) : b ≠ code d := by
    intro hbd
    have hcode : b.toNat = d.toNat := hbd ▸ Utf8.toNat_toUInt8_of_lt (by omega)
    rcases hval with ⟨-, hval⟩ | hval
    · exact hc (Char.toNat_inj.1 (hval.symm.trans hcode) ▸ hd)
    · omega
  refine ⟨hne (by decide) (by decide), hne (by decide) (by decide), fun hlow => ?_⟩
  have := UInt8.lt_iff_toNat_lt.1 hlow
  simp only [UInt8.reduceToNat] at this
  omega

/-- With fuel for every byte, a character of a string is read from what stands for it inside the quotes. -/
theorem stringBytes_char (c : Char) (h : ∀ fuel, i.length < fuel →
      Reads (stringBytes fuel ((Utf8.encodeChar c).reverse ++ read)) i out rest) :
    ∀ fuel, (encoded (escape c) ++ i).length < fuel → Reads (stringBytes fuel read) (encoded (escape c) ++ i) out rest := by
  intro fuel hfuel
  rw [List.length_append] at hfuel
  by_cases hlettered : c ∈ lettered
  · obtain ⟨b, hescape, hascii, hb⟩ := escape_of_lettered c hlettered
    have hbytes : encoded (escape c) = [code '\\', code b] := by
      rw [hescape, encoded_cons_of_ascii (by decide), encoded_cons_of_ascii hascii]
      rfl
    rw [hbytes] at hfuel ⊢
    obtain ⟨fuel, rfl⟩ : ∃ n, fuel = n + 1 := ⟨fuel - 1, by omega⟩
    exact stringBytes_escape (escapeSequence_simple hb i) (h fuel (by simp at hfuel; omega))
  by_cases hcontrol : c.toNat < 0x20
  · have hbytes : encoded (escape c) = code '\\' :: code 'u' :: encoded ('0' :: '0' :: hexPair c.toNat) := by
      rw [escape_of_control hlettered hcontrol, encoded_cons_of_ascii (by decide), encoded_cons_of_ascii (by decide)]
    have hread := escapeSequence_control hcontrol i
    rw [Char.ofNat_toNat] at hread
    rw [hbytes] at hfuel ⊢
    obtain ⟨fuel, rfl⟩ : ∃ n, fuel = n + 1 := ⟨fuel - 1, by omega⟩
    exact stringBytes_escape hread (h fuel (by simp at hfuel; omega))
  · have hbytes : encoded (escape c) = Utf8.encodeChar c := by
      rw [escape_of_plain hlettered hcontrol]
      exact List.append_nil _
    rw [hbytes] at hfuel ⊢
    obtain ⟨fuel, rfl⟩ : ∃ n, fuel = n + (Utf8.encodeChar c).length := ⟨fuel - (Utf8.encodeChar c).length, by omega⟩
    exact stringBytes_plains (fun b hb => plain_of_mem_encodeChar hlettered hcontrol hb) (h fuel (by omega))

/-- With fuel for every byte, the contents of a string are read up to the closing quote. -/
theorem stringBytes_chars (cs : List Char) (read rest : Bytes) :
    ∀ fuel, (encoded (cs.flatMap escape) ++ code '"' :: rest).length < fuel →
      Reads (stringBytes fuel read) (encoded (cs.flatMap escape) ++ code '"' :: rest) (read.reverse ++ encoded cs) rest := by
  induction cs generalizing read with
  | nil =>
    intro fuel hfuel
    obtain ⟨fuel, rfl⟩ : ∃ n, fuel = n + 1 := ⟨fuel - 1, by omega⟩
    have h := stringBytes_quote fuel read rest
    rwa [← List.append_nil read.reverse] at h
  | cons c cs ih =>
    have hsplit : encoded ((c :: cs).flatMap escape) = encoded (escape c) ++ encoded (cs.flatMap escape) := by
      rw [List.flatMap_cons, encoded, List.flatMap_append]
    have hout : read.reverse ++ encoded (c :: cs) = ((Utf8.encodeChar c).reverse ++ read).reverse ++ encoded cs := by
      simp [encoded]
    rw [hsplit, hout, List.append_assoc]
    exact stringBytes_char c (ih _)

/-- A string is read back from its quoted form, its opening quote taken. -/
theorem string_reads (s : String) (rest : Bytes) :
    Reads string (encoded (s.toList.flatMap escape) ++ code '"' :: rest) s rest := by
  intro p
  obtain ⟨q, hq⟩ := stringBytes_chars s.toList [] rest _ (Nat.lt_succ_self _) p
  refine ⟨q, ?_⟩
  simp only [string, hq, List.reverse_nil, List.nil_append, Utf8.decode_flatMap, String.ofList_toList]

/-- The bytes of a quoted string, its quotes apart. -/
theorem encoded_quote (s : String) : encoded (quote s) = code '"' :: (encoded (s.toList.flatMap escape) ++ [code '"']) := by
  rw [quote, List.cons_append, encoded_cons_of_ascii (by decide), encoded, List.flatMap_append]
  rfl

end QueueBroker.Json.Reader

import Mathlib.Algebra.Group.Nat.Defs
import Mathlib.Data.List.Induction
import QueueBroker.Text.BigEndian

/-!
# Numbers as bytes

Some bytes are the spelling of the number that they spell, so that whatever is long enough begins with the spelling of a number.
-/

namespace QueueBroker

namespace BigEndian

theorem decode_lt (bytes : Bytes) : decode bytes < 256 ^ bytes.length := by
  induction bytes using List.reverseRecOn with
  | nil => exact Nat.one_pos
  | append_singleton bytes b ih =>
    rw [decode_append_singleton, List.length_append, List.length_singleton, Nat.pow_succ]
    have := b.toNat_lt
    omega

/-- Bytes are spelled again by the number they spell. -/
theorem encode_decode (bytes : Bytes) : encode bytes.length (decode bytes) = bytes := by
  induction bytes using List.reverseRecOn with
  | nil => rfl
  | append_singleton bytes b ih =>
    have hb := b.toNat_lt
    have hdiv : (decode bytes * 256 + b.toNat) / 256 = decode bytes := by omega
    have hmod : (decode bytes * 256 + b.toNat) % 256 = b.toNat := by omega
    rw [decode_append_singleton, List.length_append, List.length_singleton, encode, hdiv, hmod, ih]
    simp [Nat.toUInt8]

/-- Bytes begin with a number when there are enough of them. -/
theorem exists_eq_encode_append {width : Nat} {bytes : Bytes} (h : width ≤ bytes.length) :
    ∃ n rest, n < 256 ^ width ∧ bytes = encode width n ++ rest := by
  have hlen : (bytes.take width).length = width := List.length_take_of_le h
  have hlt := decode_lt (bytes.take width)
  have hspell := encode_decode (bytes.take width)
  rw [hlen] at hlt hspell
  refine ⟨decode (bytes.take width), bytes.drop width, hlt, ?_⟩
  rw [hspell, List.take_append_drop]

end BigEndian

end QueueBroker

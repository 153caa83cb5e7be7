import QueueBroker.Text.Utf8

/-!
# Big-endian numbers

Fixed-width numbers as bytes, most significant byte first.
-/

namespace QueueBroker.BigEndian

/-- The number that some bytes spell. -/
def decode (bytes : Bytes) : Nat :=
  bytes.foldl (fun n b => n * 256 + b.toNat) 0

/-- The last `width` bytes of a number. -/
def encode : (width : Nat) → (n : Nat) → Bytes
  | 0, _ => []
  | width + 1, n => encode width (n / 256) ++ [(n % 256).toUInt8]

@[simp] theorem length_encode (width n : Nat) : (encode width n).length = width := by
  induction width generalizing n with
  | zero => rfl
  | succ width ih => simp [encode, ih]

theorem decode_append_singleton (bytes : Bytes) (b : UInt8) : decode (bytes ++ [b]) = decode bytes * 256 + b.toNat := by
  simp [decode, List.foldl_append]

/-- A number that fits its width is read back. -/
theorem decode_encode (width n : Nat) (h : n < Nat.pow 256 width) : decode (encode width n) = n := by
  induction width generalizing n with
  | zero => simp at h; simp [encode, decode, h]
  | succ width ih =>
    have h' : n / 256 < Nat.pow 256 width := by
      rw [Nat.div_lt_iff_lt_mul (by decide)]
      exact h
    rw [encode, decode_append_singleton, ih _ h']
    have hb : (n % 256).toUInt8.toNat = n % 256 := by
      simp [Nat.toUInt8]
    omega

end QueueBroker.BigEndian

import Mathlib.Algebra.Order.Field.Rat
import Mathlib.Tactic.NormNum
import Mathlib.Tactic.Linarith
import QueueBroker.Config.Setting
import QueueBroker.Proofs.Number.Notation

/-!
# Whole numbers that are kept

Decimal notation is read as the nearest binary number. Where it stands for a whole number of at most 53 significant bits, that is the
number itself: `ofRatio_eq` says so of a ratio, `exact_eq` of digits and a power of ten, `nearest_eq` of the whole number that a text
counts as in the end.
-/

namespace QueueBroker

/-- A whole number with at most 53 significant bits. -/
def Magnitude.Precise (k : Nat) : Prop :=
  ∃ significand unit, significand < 2 ^ 53 ∧ k = significand * 2 ^ unit

variable {k n den : Nat} {m : Magnitude} {e : Int}

namespace Magnitude

theorem precise_of_lt (h : k < 2 ^ 53) : Precise k :=
  ⟨k, 0, h, by rw [Nat.pow_zero, Nat.mul_one]⟩

theorem exists_scale_eq : ∃ j, j = 1074 ∧ scale = 2 ^ j := by
  have hpow (j : Nat) : Nat.pow 2 j = 2 ^ j := rfl
  delta scale
  generalize 1074 = j
  exact ⟨j, rfl, hpow j⟩

/-- Shifting a number shifts its leading bit. -/
theorem log2_mul_two_pow (hk : k ≠ 0) (j : Nat) : Nat.log2 (k * 2 ^ j) = Nat.log2 k + j := by
  have hpos : 0 < 2 ^ j := Nat.two_pow_pos j
  refine (Nat.log2_eq_iff (Nat.mul_ne_zero hk hpos.ne')).2 ⟨?_, ?_⟩
  · rw [Nat.pow_add]
    exact Nat.mul_le_mul_right _ (Nat.log2_self_le hk)
  · rw [Nat.add_right_comm, Nat.pow_add]
    exact Nat.mul_lt_mul_of_pos_right Nat.lt_log2_self hpos

/-- The bits below the 53 leading ones are zero. -/
theorem Precise.dvd (h : Precise k) (hk : k ≠ 0) : 2 ^ (Nat.log2 k - 52) ∣ k := by
  obtain ⟨s, u, hs, rfl⟩ := h
  have hs0 : s ≠ 0 := by
    rintro rfl
    exact hk (Nat.zero_mul _)
  have hlog : Nat.log2 (s * 2 ^ u) - 52 ≤ u := by
    have hlt : Nat.log2 s < 53 := (Nat.log2_lt hs0).2 hs
    rw [log2_mul_two_pow hs0]
    omega
  exact (Nat.pow_dvd_pow 2 hlog).mul_left s

theorem roundHalfEven_mul (q : Nat) (hden : 0 < den) : roundHalfEven (q * den) den = q := by
  simp [roundHalfEven, Nat.mul_div_cancel q hden, hden]

/-- A ratio that is a whole number of few bits is read as it is. -/
theorem ofRatio_eq (h : Precise k) (hk : k ≠ 0) (hlt : k < 2 ^ 64) (hden : 0 < den) :
    ∃ m, ofRatio (k * den) den = some m ∧ m.scaled = k * scale := by
  obtain ⟨j, hj, hscale⟩ := exists_scale_eq
  have hlog : Nat.log2 k < 64 := (Nat.log2_lt hk).2 hlt
  -- The unit counts the bits below the 53 leading ones, and divides the number, so that nothing is rounded away.
  obtain ⟨unit, hunit⟩ : ∃ unit, Nat.log2 k + j = unit + 52 := ⟨Nat.log2 k + j - 52, by omega⟩
  obtain ⟨q, hq⟩ : 2 ^ unit ∣ k * scale := by
    refine (Nat.pow_dvd_pow 2 (?_ : unit ≤ (Nat.log2 k - 52) + j)).trans ?_
    · omega
    · rw [hscale, Nat.pow_add]
      exact Nat.mul_dvd_mul_right (h.dvd hk) _
  have hlow : Nat.log2 (k * den * scale / den) - 52 = unit := by
    rw [Nat.mul_right_comm, Nat.mul_div_cancel _ hden, hscale, log2_mul_two_pow hk]
    omega
  have hround : roundHalfEven (k * den * scale) (den * Nat.pow 2 unit) = q := by
    have hnum : k * den * scale = q * (den * 2 ^ unit) := by
      rw [Nat.mul_right_comm, hq]
      ac_rfl
    rw [hnum, Nat.pow_eq]
    exact roundHalfEven_mul q (Nat.mul_pos hden (Nat.two_pow_pos _))
  have hbits : q < 2 ^ 53 := by
    have hlt : 2 ^ unit * q < 2 ^ unit * 2 ^ 53 := by
      have hsum : unit + 53 = Nat.log2 k + 1 + j := by omega
      rw [← hq, hscale, ← Nat.pow_add, hsum, Nat.pow_add 2 (Nat.log2 k + 1)]
      exact Nat.mul_lt_mul_of_pos_right Nat.lt_log2_self (Nat.two_pow_pos j)
    exact Nat.lt_of_mul_lt_mul_left hlt
  have hmax : unit ≤ maxUnit := by
    rw [maxUnit]
    omega
  refine ⟨⟨q, unit⟩, ?_, ?_⟩
  · have hne : q ≠ Nat.pow 2 53 := hbits.ne
    simp only [ofRatio, hlow, hround, if_neg hne, if_pos hmax]
  · rw [scaled, Nat.pow_eq, Nat.mul_comm, hq]

theorem roundHalfUp_eq (h : m.scaled = k * scale) : m.roundHalfUp = k := by
  have hpos : 0 < scale := by
    obtain ⟨j, -, hscale⟩ := exists_scale_eq
    rw [hscale]
    exact Nat.two_pow_pos j
  have hnum : 2 * (k * scale) + scale = scale + 2 * scale * k := by
    rw [Nat.add_comm, Nat.mul_assoc, Nat.mul_comm k]
  have hhalf : scale / (2 * scale) = 0 := Nat.div_eq_of_lt (by omega)
  rw [roundHalfUp, h, hnum, Nat.add_mul_div_left _ _ (Nat.mul_pos Nat.zero_lt_two hpos), hhalf, Nat.zero_add]

end Magnitude

namespace Decimal

/-- Decimal notation for a whole number, as an equation between whole numbers. -/
theorem eq_of_zpow (h : (k : ℚ) = n * (10 : ℚ) ^ e) :
    ∃ j : Nat, (e = j ∧ k = n * 10 ^ j) ∨ (0 < j ∧ e = -j ∧ n = k * 10 ^ j) := by
  rcases lt_or_ge e 0 with he | he
  · obtain ⟨j, rfl⟩ := Int.exists_eq_neg_ofNat he.le
    have hpow : (10 : ℚ) ^ j ≠ 0 := pow_ne_zero j (by norm_num)
    rw [zpow_neg, zpow_natCast, eq_mul_inv_iff_mul_eq₀ hpow] at h
    exact ⟨j, Or.inr ⟨by omega, rfl, by exact_mod_cast h.symm⟩⟩
  · obtain ⟨j, rfl⟩ := Int.eq_ofNat_of_zero_le he
    rw [zpow_natCast] at h
    exact ⟨j, Or.inl ⟨rfl, by exact_mod_cast h⟩⟩

theorem width_le_iff (hn : n ≠ 0) (hk : 0 < k) : width n ≤ k ↔ n < 10 ^ k := by
  rw [width, if_neg hn]
  exact Nat.length_toDigits_le_iff (by decide) hk

/-- Decimal notation for a whole number of few bits is read as that number. -/
theorem exact_eq (h : (k : ℚ) = n * (10 : ℚ) ^ e) (hprecise : Magnitude.Precise k) (hlt : k < 2 ^ 64) :
    ∃ m, exact n e = some m ∧ m.scaled = k * Magnitude.scale := by
  obtain ⟨j, heq⟩ := eq_of_zpow h
  have hpos : 0 < 10 ^ j := Nat.pow_pos (by decide)
  by_cases hn : n = 0
  · subst hn
    have hk : k = 0 := by
      rcases heq with ⟨-, rfl⟩ | ⟨-, -, hzero⟩
      · exact Nat.zero_mul _
      · exact (Nat.mul_eq_zero.1 hzero.symm).resolve_right hpos.ne'
    subst hk
    exact ⟨.zero, rfl, by rw [Nat.zero_mul]; exact Nat.zero_mul _⟩
  have hmax : k < 10 ^ 20 := hlt.trans (by decide)
  rw [exact, if_neg hn]
  rcases heq with ⟨rfl, rfl⟩ | ⟨hj, rfl, rfl⟩
  · have hwidth : width n + j ≤ 20 := by
      have hlow : 10 ^ j < 10 ^ 20 := Nat.lt_of_le_of_lt (Nat.le_mul_of_pos_left _ (Nat.pos_of_ne_zero hn)) hmax
      have hj : j < 20 := (Nat.pow_lt_pow_iff_right (by decide)).1 hlow
      have hsplit : 10 ^ 20 = 10 ^ (20 - j) * 10 ^ j := by
        rw [← Nat.pow_add]
        congr 1
        omega
      rw [hsplit] at hmax
      have := (width_le_iff hn (by omega)).2 (Nat.lt_of_mul_lt_mul_right hmax)
      omega
    have hk : n * 10 ^ j ≠ 0 := Nat.mul_ne_zero hn hpos.ne'
    have hread := Magnitude.ofRatio_eq hprecise hk hlt Nat.one_pos
    rw [Nat.mul_one] at hread
    rw [if_neg (by omega), if_neg (by omega), if_neg (by omega)]
    exact hread
  · have hk : k ≠ 0 := by
      rintro rfl
      exact hn (Nat.zero_mul _)
    have hlow : ¬width (k * 10 ^ j) ≤ j := by
      rw [width_le_iff hn hj]
      exact Nat.not_lt_of_le (Nat.le_mul_of_pos_left _ (Nat.pos_of_ne_zero hk))
    have hhigh : width (k * 10 ^ j) ≤ 20 + j := by
      rw [width_le_iff hn (by omega), Nat.pow_add]
      exact Nat.mul_lt_mul_of_pos_right hmax hpos
    rw [if_neg (by omega), if_neg (by omega), if_pos (by omega), Int.natAbs_neg, Int.natAbs_natCast]
    exact Magnitude.ofRatio_eq hprecise hk hlt hpos

end Decimal

/-! ## Texts -/

namespace Setting

open Notation

/-- A text that denotes a whole number of few bits counts as it. -/
theorem nearest_eq {s : String} {x : Real} (hdenotes : Real.Denotes s k) (hreads : Real.Reads s x) (hprecise : Magnitude.Precise k)
    (hlt : k < 2 ^ 64) : nearest x = k := by
  obtain ⟨sign, cs, negative, n, e, heq, hsign, hdecimal, hvalue⟩ := hdenotes
  have hreads' : Real.Reads s (.ofDecimal negative n e) := ⟨sign, cs, negative, heq, hsign, .decimal hdecimal⟩
  obtain rfl : x = .ofDecimal negative n e := by
    rw [← Option.some_inj, ← Real.parse?_eq_some_iff.2 hreads, Real.parse?_eq_some_iff.2 hreads']
  cases negative with
  | false =>
    rw [signed, if_neg Bool.false_ne_true, Int.cast_natCast] at hvalue
    obtain ⟨m, hexact, hscaled⟩ := Decimal.exact_eq hvalue hprecise hlt
    have hsize : UInt64.size - 1 = 2 ^ 64 - 1 := rfl
    simp only [Real.ofDecimal, hexact, nearest, Bool.false_eq_true, if_false, Magnitude.roundHalfUp_eq hscaled, hsize]
    omega
  | true =>
    -- Only zero is whole with a minus in front.
    rw [signed, if_pos rfl, Int.cast_neg, Int.cast_natCast, neg_mul] at hvalue
    have hpow : (0 : ℚ) < 10 ^ e := zpow_pos (by norm_num) e
    have hzero : (n : ℚ) * 10 ^ e = 0 := by
      have hnonneg : (0 : ℚ) ≤ n * 10 ^ e := mul_nonneg n.cast_nonneg hpow.le
      have hk : (0 : ℚ) ≤ k := k.cast_nonneg
      linarith
    rw [hzero, neg_zero] at hvalue
    have hn : n = 0 := by exact_mod_cast (mul_eq_zero.1 hzero).resolve_right hpow.ne'
    have hk : k = 0 := by exact_mod_cast hvalue
    subst hn hk
    rfl

end Setting

end QueueBroker

import QueueBroker.Number.Binary64

/-!
# Decimal notation to binary numbers

Two readings of `digits * 10^exponent`. `exact` is the nearest number. `scaled` rounds the digits first and then multiplies or
divides by a power of ten that is itself rounded, so it may be off in the last place; it is what documents are read with.
-/

namespace QueueBroker.Decimal

/-- Number of decimal digits of `n`; zero has none. -/
def width (n : Nat) : Nat :=
  if n = 0 then 0 else (Nat.toDigits 10 n).length

/-- The magnitude nearest `digits * 10^exponent`; none when it overflows. Exponents far outside the range are decided by the
position of the leading digit. -/
def exact (digits : Nat) (exponent : Int) : Option Magnitude :=
  if digits = 0 then some .zero
  else
    let top := width digits + exponent
    if top < -400 then some .zero
    else if 400 < top then none
    else if exponent < 0 then Magnitude.ofRatio digits (Nat.pow 10 exponent.natAbs)
    else Magnitude.ofRatio (digits * Nat.pow 10 exponent.natAbs) 1

/-- The largest power of ten that is a binary number of its own. -/
def maxPower : Nat := 308

/-- The magnitude nearest `10^n`, for `n` up to `maxPower`. -/
def powerOfTen (n : Nat) : Magnitude :=
  (Magnitude.ofNat (Nat.pow 10 n)).getD .zero

/-- Divide by `10^n` in `steps + 1` steps of at most `maxPower`, rounding each; zero stays zero. -/
def shrink : (steps : Nat) → Magnitude → (n : Nat) → Option Magnitude
  | 0, m, n => m.div (powerOfTen n)
  | steps + 1, m, n =>
    if n ≤ maxPower then m.div (powerOfTen n)
    else if m.isZero then some m
    else
      match m.div (powerOfTen maxPower) with
      | none => none
      | some m => shrink steps m (n - maxPower)

/-- Read `digits * 10^exponent` by rounding the digits, then scaling; none when it overflows. -/
def scaled (digits : Nat) (exponent : Int) : Option Magnitude := do
  let m ← Magnitude.ofNat digits
  if exponent < 0 then shrink (exponent.natAbs / maxPower) m exponent.natAbs
  else if exponent.natAbs ≤ maxPower then m.mul (powerOfTen exponent.natAbs)
  else if m.isZero then some m
  else none

end QueueBroker.Decimal

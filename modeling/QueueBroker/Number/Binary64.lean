/-!
# Binary64 numbers

Finite binary floating-point numbers of 53 significant bits, computed in natural numbers. A magnitude is
`significand * 2^unit / 2^1074`: the unit counts from the smallest positive number, so no exponent is negative.
-/

namespace QueueBroker

/-- A non-negative finite number, `significand * 2^unit / 2^1074`. It is in normal form when the significand is below `2^53` and
either has its top bit set or the unit is zero. -/
structure Magnitude where
  significand : Nat
  unit : Nat
deriving DecidableEq, Repr, Inhabited

/-- A finite number with its sign; zero has two signs. -/
structure Binary64 where
  negative : Bool
  magnitude : Magnitude
deriving DecidableEq, Repr, Inhabited

namespace Magnitude

/-- What a unit of zero stands for: `1 / 2^1074`. -/
def scale : Nat := Nat.pow 2 1074

/-- The largest unit; anything from `2^53 * 2^2045 / 2^1074` on overflows. -/
def maxUnit : Nat := 2045

/-- Zero. -/
def zero : Magnitude := ⟨0, 0⟩

/-- Whether the magnitude is zero. -/
def isZero (m : Magnitude) : Bool :=
  m.significand == 0

/-- The numerator of the magnitude over `scale`. -/
def scaled (m : Magnitude) : Nat :=
  m.significand * Nat.pow 2 m.unit

/-- `num / den` to the nearest natural number, a half to the even neighbour. -/
def roundHalfEven (num den : Nat) : Nat :=
  let q := num / den
  let r := num % den
  if 2 * r < den then q
  else if den < 2 * r then q + 1
  else q + q % 2

/-- The magnitude nearest `num / den`, a half to the even significand; none when it overflows. -/
def ofRatio (num den : Nat) : Option Magnitude :=
  let n := num * scale
  let unit := Nat.log2 (n / den) - 52
  let s := roundHalfEven n (den * Nat.pow 2 unit)
  let m : Magnitude := if s = Nat.pow 2 53 then ⟨Nat.pow 2 52, unit + 1⟩ else ⟨s, unit⟩
  if m.unit ≤ maxUnit then some m else none

/-- The magnitude nearest a natural number. -/
def ofNat (n : Nat) : Option Magnitude :=
  ofRatio n 1

/-- The product, rounded. -/
def mul (a b : Magnitude) : Option Magnitude :=
  ofRatio (a.scaled * b.scaled) (scale * scale)

/-- The quotient by a magnitude other than zero, rounded. -/
def div (a b : Magnitude) : Option Magnitude :=
  ofRatio a.scaled b.scaled

/-- The whole part. -/
def floor (m : Magnitude) : Nat :=
  m.scaled / scale

/-- The nearest whole number, a half upwards. -/
def roundHalfUp (m : Magnitude) : Nat :=
  (2 * m.scaled + scale) / (2 * scale)

end Magnitude

namespace Binary64

/-- The number nearest an integer; none when it overflows. -/
def ofInt (n : Int) : Option Binary64 :=
  (Magnitude.ofNat n.natAbs).map fun m => ⟨n < 0, m⟩

/-- Numerical equality: the two zeros are equal. -/
def same (a b : Binary64) : Bool :=
  a == b || (a.magnitude.isZero && b.magnitude.isZero)

end Binary64

end QueueBroker

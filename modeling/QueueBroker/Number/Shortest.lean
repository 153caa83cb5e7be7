import QueueBroker.Number.Binary64

/-!
# Shortest decimal digits

The fewest significant digits that read back as a given number, and among those the nearest to it. For one, two, … digits the
two points of that decimal grid around the number are tried, in exact arithmetic; seventeen digits always suffice.
-/

namespace QueueBroker.Shortest

/-- A decimal number `digits * 10^exponent`. -/
structure Decimal where
  digits : Nat
  exponent : Int
deriving DecidableEq, Repr

/-- The reals that read back as a number: everything between `low` and `high`, over the denominator `4 * Magnitude.scale`, ends
included when the significand is even. -/
structure Basin where
  low : Nat
  value : Nat
  high : Nat
  closed : Bool

/-- The basin of a magnitude. Below a power of two the next number is half as far away. -/
def basin (m : Magnitude) : Basin :=
  let gap := Nat.pow 2 m.unit
  let value := 4 * m.scaled
  { low := value - if m.significand = Nat.pow 2 52 ∧ 0 < m.unit then gap else 2 * gap
    value
    high := value + 2 * gap
    closed := m.significand % 2 = 0 }

/-- The basin and its denominator, in units of `10^exponent`. -/
def rescale (b : Basin) (exponent : Int) : Basin × Nat :=
  let up := if exponent < 0 then Nat.pow 10 exponent.natAbs else 1
  let down := if exponent < 0 then 1 else Nat.pow 10 exponent.natAbs
  ({ b with low := b.low * up, value := b.value * up, high := b.high * up }, 4 * Magnitude.scale * down)

/-- Whether the point `n` of a grid reads back. -/
def holds (b : Basin) (den n : Nat) : Bool :=
  if b.closed then b.low ≤ n * den && n * den ≤ b.high
  else b.low < n * den && n * den < b.high

/-- The point of the grid `10^exponent` nearest the number among its two neighbours there that read back, the even one of two
equally near. -/
def onGrid? (b : Basin) (exponent : Int) : Option Nat :=
  let (b, den) := rescale b exponent
  let n := b.value / den
  let below := b.value - n * den
  let above := (n + 1) * den - b.value
  match holds b den n && 0 < n, holds b den (n + 1) with
  | true, true => if below < above || (below == above && n % 2 == 0) then some n else some (n + 1)
  | true, false => some n
  | false, true => some (n + 1)
  | false, false => none

/-- The exponent of the leading decimal digit of `value / den`, for a `value` other than zero. -/
def leadingExponent (b : Basin) : Int :=
  let den := 4 * Magnitude.scale
  let guess : Int := ((Nat.log2 b.value : Int) - Nat.log2 den) * 30103 / 100000
  let atLeast (e : Int) : Bool :=
    if e < 0 then den ≤ b.value * Nat.pow 10 e.natAbs else den * Nat.pow 10 e.natAbs ≤ b.value
  if !atLeast guess then guess - 1
  else if atLeast (guess + 1) then guess + 1
  else guess

/-- Try grids from `exponent` down, at most `tries` of them. -/
def search (b : Basin) : (tries : Nat) → (exponent : Int) → Decimal
  | 0, exponent => ⟨(rescale b exponent).1.value / (rescale b exponent).2, exponent⟩
  | tries + 1, exponent =>
    match onGrid? b exponent with
    | some n => ⟨n, exponent⟩
    | none => search b tries (exponent - 1)

/-- Move trailing zeros of the digits into the exponent. -/
def strip : (fuel : Nat) → Decimal → Decimal
  | 0, d => d
  | fuel + 1, d => if d.digits % 10 = 0 ∧ d.digits ≠ 0 then strip fuel ⟨d.digits / 10, d.exponent + 1⟩ else d

/-- The shortest decimal of a magnitude other than zero. -/
def ofMagnitude (m : Magnitude) : Decimal :=
  let b := basin m
  strip 17 (search b 17 (leadingExponent b))

/-- The decimal digits of `d`, first to last. -/
def Decimal.text (d : Decimal) : List Char :=
  Nat.toDigits 10 d.digits

/-- Digits with the point placed after `position` of them, filled up with zeros on either side. -/
def positional (digits : List Char) (position : Int) : List Char :=
  if position ≤ 0 then '0' :: '.' :: List.replicate position.natAbs '0' ++ digits
  else if digits.length ≤ position.natAbs then digits ++ List.replicate (position.natAbs - digits.length) '0'
  else digits.take position.natAbs ++ '.' :: digits.drop position.natAbs

end QueueBroker.Shortest

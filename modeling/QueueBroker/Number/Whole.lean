import QueueBroker.Number.Real

/-!
# Whole numbers as people write them

Decimal digits with a sign in front, as the values of options and variables spell numbers of 64 bits, and digits in other bases.
-/

namespace QueueBroker.Whole

/-- The number of some decimal digits. -/
def digits? (cs : List Char) : Option Nat :=
  if cs.isEmpty || !cs.all Char.isDigit then none else some (Real.digitsValue cs)

/-- The number below `2^64` that a text spells; it may begin with a plus. -/
def unsigned? (s : String) : Option Nat := do
  let n ← digits? (match s.toList with
    | '+' :: cs => cs
    | cs => cs)
  if n < UInt64.size then some n else none

/-- The value of a hexadecimal digit. -/
def hexDigit? (c : Char) : Option Nat :=
  if c.isDigit then some (c.toNat - '0'.toNat)
  else if 'a' ≤ c ∧ c ≤ 'f' then some (c.toNat - 'a'.toNat + 10)
  else if 'A' ≤ c ∧ c ≤ 'F' then some (c.toNat - 'A'.toNat + 10)
  else none

/-- The number of some digits in a base up to sixteen. -/
def inBase? (base : Nat) (cs : List Char) : Option Nat := do
  let ds ← cs.mapM fun c => (hexDigit? c).filter (· < base)
  if ds.isEmpty then none else some (ds.foldl (fun n d => n * base + d) 0)

/-- The integer of 64 bits that some digits in a base spell; they may begin with a sign. -/
def signedInBase? (base : Nat) (cs : List Char) : Option Int := do
  let (negative, cs) := match cs with
    | '-' :: cs => (true, cs)
    | '+' :: cs => (false, cs)
    | cs => (false, cs)
  let n ← inBase? base cs
  if negative then if n ≤ UInt64.size / 2 then some (-n) else none
  else if n < UInt64.size / 2 then some n else none

/-- The integer of 64 bits that a text spells; it may begin with a sign. -/
def signed? (s : String) : Option Int :=
  signedInBase? 10 s.toList

end QueueBroker.Whole

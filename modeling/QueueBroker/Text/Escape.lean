import QueueBroker.Number.Whole

/-!
# Characters by number

Escapes name a character by its number, written in a fixed count of hexadecimal digits.
-/

namespace QueueBroker.Escape

/-- The character with a number; surrogates and numbers past U+10FFFF have none. -/
def codePoint? (n : Nat) : Option Char :=
  if n < 0xD800 ∨ (0xDFFF < n ∧ n < 0x110000) then some (Char.ofNat n) else none

/-- The number that begins a text, in `count` hexadecimal digits. -/
def number? (count : Nat) (cs : List Char) : Option (Nat × List Char) := do
  let ds := cs.take count
  if ds.length < count then none
  else
    let n ← Whole.inBase? 16 ds
    some (n, cs.drop count)

/-- The character whose number begins a text, in `count` hexadecimal digits. -/
def character? (count : Nat) (cs : List Char) : Option (Char × List Char) := do
  let (n, cs) ← number? count cs
  let c ← codePoint? n
  some (c, cs)

end QueueBroker.Escape

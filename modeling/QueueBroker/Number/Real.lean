import QueueBroker.Number.Decimal
import QueueBroker.Number.Shortest

/-!
# Real numbers as people write them

Binary numbers together with the infinities and the undefined value, read from and written to plain text.
-/

namespace QueueBroker

/-- A binary number, an infinity, or the result of an undefined operation. -/
inductive Real where
  | finite (x : Binary64)
  | infinite (negative : Bool)
  | undefined
deriving DecidableEq, Repr, Inhabited

namespace Real

/-- The value of a run of decimal digits. -/
def digitsValue (ds : List Char) : Nat :=
  ds.foldl (fun n d => n * 10 + (d.toNat - '0'.toNat)) 0

/-- The number with a sign and decimal notation, to the nearest. -/
def ofDecimal (negative : Bool) (digits : Nat) (exponent : Int) : Real :=
  match Decimal.exact digits exponent with
  | some m => finite ⟨negative, m⟩
  | none => infinite negative

/-- Split a text after its leading digits. -/
def spanDigits (cs : List Char) : List Char × List Char :=
  (cs.takeWhile Char.isDigit, cs.dropWhile Char.isDigit)

/-- The exponent that ends a number: a mark, a sign if any, digits; or nothing. -/
def exponent? : List Char → Option Int
  | [] => some 0
  | mark :: rest =>
    if mark = 'e' ∨ mark = 'E' then
      let (negative, digits) := match rest with
        | '-' :: digits => (true, digits)
        | '+' :: digits => (false, digits)
        | digits => (false, digits)
      if digits.isEmpty || !digits.all Char.isDigit then none
      else
        let n : Int := digitsValue digits
        some (if negative then -n else n)
    else none

/-- A number without sign: digits with a point somewhere, an exponent if any; or a word for what is no number. -/
def unsigned? (negative : Bool) (cs : List Char) : Option Real :=
  let word := String.ofList (cs.map Char.toLower)
  if word = "inf" ∨ word = "infinity" then some (infinite negative)
  else if word = "nan" then some undefined
  else
    let (whole, rest) := spanDigits cs
    let (fraction, rest) := match rest with
      | '.' :: rest => spanDigits rest
      | rest => ([], rest)
    if whole.isEmpty && fraction.isEmpty then none
    else (exponent? rest).map fun e => ofDecimal negative (digitsValue (whole ++ fraction)) (e - fraction.length)

/-- Read a number in decimal notation. -/
def parse? (s : String) : Option Real :=
  match s.toList with
  | '-' :: cs => unsigned? true cs
  | '+' :: cs => unsigned? false cs
  | cs => unsigned? false cs

/-- A number by its shortest digits, always positional and without a point if it is whole. -/
def render : Real → String
  | undefined => "NaN"
  | infinite negative => if negative then "-inf" else "inf"
  | finite x =>
    let digits :=
      if x.magnitude.isZero then ['0']
      else
        let d := Shortest.ofMagnitude x.magnitude
        Shortest.positional d.text (d.text.length + d.exponent)
    String.ofList (if x.negative then '-' :: digits else digits)

end Real

end QueueBroker

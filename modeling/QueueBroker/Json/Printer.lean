import QueueBroker.Json.Basic
import QueueBroker.Number.Shortest
import QueueBroker.Text.Utf8

/-!
# Writing JSON

The compact form of a document: no blanks, members in the order of the tree, a string escaped only where it must be.
-/

namespace QueueBroker.Json

/-- The two lower-case hexadecimal digits of a control character. -/
def hexPair (n : Nat) : List Char :=
  [Nat.digitChar (n / 16), Nat.digitChar (n % 16)]

/-- One character inside a string. -/
def escape (c : Char) : List Char :=
  if c = '"' then ['\\', '"']
  else if c = '\\' then ['\\', '\\']
  else if c = '\x08' then ['\\', 'b']
  else if c = '\x0c' then ['\\', 'f']
  else if c = '\n' then ['\\', 'n']
  else if c = '\r' then ['\\', 'r']
  else if c = '\t' then ['\\', 't']
  else if c.toNat < 0x20 then '\\' :: 'u' :: '0' :: '0' :: hexPair c.toNat
  else [c]

/-- A string in quotes. -/
def quote (s : String) : List Char :=
  '"' :: s.toList.flatMap escape ++ ['"']

/-- An integer in decimal. -/
def integerText (n : Int) : List Char :=
  if n < 0 then '-' :: Nat.toDigits 10 n.natAbs else Nat.toDigits 10 n.natAbs

/-- A magnitude by its shortest digits: positional, with a `.0` if it is whole, from `1e-5` up to below `1e16`; by exponent
outside, the sign of the exponent always written. -/
def magnitudeText (m : Magnitude) : List Char :=
  if m.isZero then ['0', '.', '0']
  else
    let d := Shortest.ofMagnitude m
    let digits := d.text
    let position : Int := digits.length + d.exponent
    if 0 ≤ d.exponent ∧ position ≤ 16 then Shortest.positional digits position ++ ['.', '0']
    else if -5 < position ∧ position ≤ 16 then Shortest.positional digits position
    else
      let power := position - 1
      let sign := if power < 0 then '-' else '+'
      let lead := match digits with
        | first :: second :: more => first :: '.' :: second :: more
        | short => short
      lead ++ 'e' :: sign :: Nat.toDigits 10 power.natAbs

/-- A real number. -/
def realText (x : Binary64) : List Char :=
  if x.negative then '-' :: magnitudeText x.magnitude else magnitudeText x.magnitude

/-- A number. -/
def numberText : Number → List Char
  | .integer n => integerText n
  | .real x => realText x

mutual

/-- The compact form of a document. -/
def chars : Json → List Char
  | null => ['n', 'u', 'l', 'l']
  | boolean true => ['t', 'r', 'u', 'e']
  | boolean false => ['f', 'a', 'l', 's', 'e']
  | number n => numberText n
  | text s => quote s
  | list items => '[' :: itemChars items
  | object members => '\x7b' :: memberChars members

/-- The items of a list and its end. -/
def itemChars : List Json → List Char
  | [] => [']']
  | [item] => item.chars ++ [']']
  | item :: items => item.chars ++ ',' :: itemChars items

/-- The members of an object and its end. -/
def memberChars : List (String × Json) → List Char
  | [] => ['\x7d']
  | [(name, value)] => quote name ++ ':' :: value.chars ++ ['\x7d']
  | (name, value) :: members => quote name ++ ':' :: value.chars ++ ',' :: memberChars members

end

/-- The compact form of a document as a text. -/
def render (v : Json) : String :=
  String.ofList v.chars

/-- The bytes of the compact form. -/
def bytes (v : Json) : Bytes :=
  v.chars.flatMap Utf8.encodeChar

end QueueBroker.Json

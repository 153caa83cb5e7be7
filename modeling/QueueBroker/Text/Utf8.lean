/-!
# UTF-8

The bytes of a text and the text of some bytes. `decode` takes well-formed sequences only: no overlong form, no surrogate,
nothing past U+10FFFF.
-/

namespace QueueBroker

/-- A sequence of bytes, as files and frames hold them. -/
abbrev Bytes := List UInt8

namespace Utf8

/-- The bytes of one character, one to four of them. -/
def encodeChar (c : Char) : Bytes :=
  let n := c.toNat
  if n < 0x80 then [n.toUInt8]
  else if n < 0x800 then [(0xC0 + n / 0x40).toUInt8, (0x80 + n % 0x40).toUInt8]
  else if n < 0x10000 then
    [(0xE0 + n / 0x1000).toUInt8, (0x80 + n / 0x40 % 0x40).toUInt8, (0x80 + n % 0x40).toUInt8]
  else
    [(0xF0 + n / 0x40000).toUInt8, (0x80 + n / 0x1000 % 0x40).toUInt8, (0x80 + n / 0x40 % 0x40).toUInt8,
      (0x80 + n % 0x40).toUInt8]

/-- The bytes of a text. -/
def encode (s : String) : Bytes :=
  s.toList.flatMap encodeChar

/-- How many bytes a text takes. -/
def length (s : String) : Nat :=
  s.utf8ByteSize

/-- The low six bits of a continuation byte. -/
def continuation? (b : UInt8) : Option Nat :=
  if 0x80 ≤ b ∧ b < 0xC0 then some (b.toNat - 0x80) else none

/-- The character of a two-byte sequence. -/
def pair? (a b : UInt8) : Option Char := do
  let y ← continuation? b
  if 0xC2 ≤ a ∧ a < 0xE0 then some (Char.ofNat ((a.toNat - 0xC0) * 0x40 + y)) else none

/-- The character of a three-byte sequence: not overlong and no surrogate. -/
def triple? (a b c : UInt8) : Option Char := do
  let y ← continuation? b
  let z ← continuation? c
  let n := (a.toNat - 0xE0) * 0x1000 + y * 0x40 + z
  if 0xE0 ≤ a ∧ a < 0xF0 ∧ 0x800 ≤ n ∧ ¬(0xD800 ≤ n ∧ n < 0xE000) then some (Char.ofNat n) else none

/-- The character of a four-byte sequence: not overlong and at most U+10FFFF. -/
def quadruple? (a b c d : UInt8) : Option Char := do
  let x ← continuation? b
  let y ← continuation? c
  let z ← continuation? d
  let n := (a.toNat - 0xF0) * 0x40000 + x * 0x1000 + y * 0x40 + z
  if 0xF0 ≤ a ∧ a < 0xF5 ∧ 0x10000 ≤ n ∧ n < 0x110000 then some (Char.ofNat n) else none

/-- Decode bytes up to the first that begin no character; `read` holds the characters before, last first. Returned are the
characters and the bytes that were not decoded. -/
def decodeFrom (read : List Char) : Bytes → List Char × Bytes
  | [] => (read.reverse, [])
  | a :: rest =>
    if a < 0x80 then decodeFrom (Char.ofNat a.toNat :: read) rest
    else match rest with
      | [] => (read.reverse, [a])
      | b :: rest =>
        match pair? a b with
        | some c => decodeFrom (c :: read) rest
        | none => match rest with
          | [] => (read.reverse, [a, b])
          | c :: rest =>
            match triple? a b c with
            | some d => decodeFrom (d :: read) rest
            | none => match rest with
              | [] => (read.reverse, [a, b, c])
              | d :: rest =>
                match quadruple? a b c d with
                | some e => decodeFrom (e :: read) rest
                | none => (read.reverse, a :: b :: c :: d :: rest)

/-- The text of some bytes, or how many of them are well-formed UTF-8 when not all are. -/
def decode (bytes : Bytes) : Except Nat String :=
  match decodeFrom [] bytes with
  | (chars, []) => .ok (String.ofList chars)
  | (_, left) => .error (bytes.length - left.length)

end Utf8

end QueueBroker

import QueueBroker.Json.Failure
import QueueBroker.Number.Decimal

/-!
# Reading JSON text

The readers of the pieces that documents are made of: blanks, names, strings, numbers, and the marks around the items of a list
and the members of an object. A reader moves a cursor over the bytes and leaves it where it stopped, also when it fails.
-/

namespace QueueBroker.Json

/-- The bytes still to be read and the place they begin at. -/
structure Cursor where
  rest : Bytes
  position : Position

/-- A cursor at the start of some bytes. -/
def Cursor.start (bytes : Bytes) : Cursor :=
  ⟨bytes, ⟨1, 0⟩⟩

/-- Something that reads an `α` at a cursor. -/
abbrev Reader := EStateM Failure Cursor

namespace Reader

variable {α : Type}

/-- Fail at the place reached. -/
def fail (reason : Reason) : Reader α := fun c =>
  .error ⟨reason, some c.position⟩ c

/-- Fail at the place after the next byte, if there is one. -/
def failAtNext (reason : Reason) : Reader α := fun c =>
  match c.rest with
  | [] => .error ⟨reason, some c.position⟩ c
  | b :: _ => .error ⟨reason, some (c.position.advance b)⟩ c

/-- Fail with the place left open. -/
def refuse (reason : Reason) : Reader α := fun c =>
  .error ⟨reason, none⟩ c

/-- Give a failure whose place was left open the place reached. -/
def located (read : Reader α) : Reader α := fun c =>
  match read c with
  | .ok a c => .ok a c
  | .error f c => .error { f with position := some (f.position.getD c.position) } c

/-- The next byte, not taken. -/
def peek : Reader (Option UInt8) := fun c =>
  .ok c.rest.head? c

/-- Take the next byte. -/
def take : Reader (Option UInt8) := fun c =>
  match c.rest with
  | [] => .ok none c
  | b :: rest => .ok (some b) ⟨rest, c.position.advance b⟩

/-- Pass over the next byte. -/
def skip : Reader Unit := fun c =>
  match c.rest with
  | [] => .ok () c
  | b :: rest => .ok () ⟨rest, c.position.advance b⟩

/-- How many bytes are left. -/
def remaining : Reader Nat := fun c =>
  .ok c.rest.length c

/-- The byte of an ASCII character. -/
def code (c : Char) : UInt8 :=
  c.toNat.toUInt8

/-- Blanks between the pieces of a document. -/
def isBlank (b : UInt8) : Bool :=
  b == 0x20 || b == 0x0A || b == 0x09 || b == 0x0D

/-- A cursor past the blanks at the head of some bytes. -/
def pastBlanks : Bytes → Position → Cursor
  | [], p => ⟨[], p⟩
  | b :: rest, p => if isBlank b then pastBlanks rest (p.advance b) else ⟨b :: rest, p⟩

/-- Pass over blanks and look at the next byte. -/
def peekPastBlanks : Reader (Option UInt8) := fun c =>
  let c := pastBlanks c.rest c.position
  .ok c.rest.head? c

/-- Read the letters of a literal, one by one. -/
def literal : List Char → Reader Unit
  | [] => pure ()
  | expected :: more => do
    match ← take with
    | none => fail .unfinishedValue
    | some b => if b = code expected then literal more else fail .literalExpected

/-! ## Strings -/

/-- The value of a hexadecimal digit. -/
def hexValue? (b : UInt8) : Option Nat :=
  let n := b.toNat
  if 0x30 ≤ n ∧ n ≤ 0x39 then some (n - 0x30)
  else if 0x41 ≤ n ∧ n ≤ 0x46 then some (n - 0x37)
  else if 0x61 ≤ n ∧ n ≤ 0x66 then some (n - 0x57)
  else none

/-- The four hexadecimal digits of an escape. With fewer than four bytes left, all are passed over. -/
def hexEscape : Reader Nat := fun c =>
  match c.rest with
  | a :: b :: d :: e :: rest =>
    let c := ⟨rest, (((c.position.advance a).advance b).advance d).advance e⟩
    match hexValue? a, hexValue? b, hexValue? d, hexValue? e with
    | some a, some b, some d, some e => .ok (a * 4096 + b * 256 + d * 16 + e) c
    | _, _, _, _ => fail .badEscape c
  | short => fail .unfinishedString ⟨[], short.foldl Position.advance c.position⟩

/-- The byte `mark` of a second escape after a leading surrogate. -/
def secondEscape (mark : Char) : Reader Unit := do
  match ← peek with
  | none => fail .unfinishedString
  | some b =>
    skip
    if b = code mark then pure () else fail .unfinishedHexEscape

/-- The character of an escape by code, after its `u`: surrogates come in pairs. -/
def unicodeEscape : Reader Char := do
  let n ← hexEscape
  if 0xDC00 ≤ n ∧ n ≤ 0xDFFF then fail .loneSurrogate
  else if 0xD800 ≤ n ∧ n ≤ 0xDBFF then do
    secondEscape '\\'
    secondEscape 'u'
    let low ← hexEscape
    if 0xDC00 ≤ low ∧ low ≤ 0xDFFF then pure (Char.ofNat ((n - 0xD800) * 0x400 + (low - 0xDC00) + 0x10000))
    else fail .loneSurrogate
  else pure (Char.ofNat n)

/-- The character that a letter after a backslash stands for. -/
def simpleEscape? (b : UInt8) : Option Char :=
  if b = code '"' then some '"'
  else if b = code '\\' then some '\\'
  else if b = code '/' then some '/'
  else if b = code 'b' then some '\x08'
  else if b = code 'f' then some '\x0c'
  else if b = code 'n' then some '\n'
  else if b = code 'r' then some '\r'
  else if b = code 't' then some '\t'
  else none

/-- The character of an escape, after its backslash. -/
def escapeSequence : Reader Char := do
  match ← take with
  | none => fail .unfinishedString
  | some b =>
    match simpleEscape? b with
    | some c => pure c
    | none => if b = code 'u' then unicodeEscape else fail .badEscape

/-- The bytes of a string up to its closing quote; `read` holds those before, last first. The fuel is the number of bytes
left, of which each turn takes one. -/
def stringBytes : (fuel : Nat) → (read : Bytes) → Reader Bytes
  | 0, _ => fail .unfinishedString
  | fuel + 1, read => do
    match ← take with
    | none => fail .unfinishedString
    | some b =>
      if b = code '"' then pure read.reverse
      else if b = code '\\' then do
        let c ← escapeSequence
        stringBytes fuel ((Utf8.encodeChar c).reverse ++ read)
      else if b < 0x20 then fail .controlCharacter
      else stringBytes fuel (b :: read)

/-- A string, after its opening quote. Bytes that are no text are found when the string is complete, and reported as far before
the place reached as there are bytes of its content from the first bad one on. Without escapes that is the place of the bad
one. -/
def string : Reader String := fun c =>
  match stringBytes (c.rest.length + 1) [] c with
  | .error f c => .error f c
  | .ok bytes d =>
    match Utf8.decode bytes with
    | .ok s => .ok s d
    | .error valid => .error ⟨.badCodePoint, some ⟨d.position.line, d.position.column - (bytes.length - valid)⟩⟩ d

/-! ## Numbers -/

/-- The value of a decimal digit. -/
def digit? (b : UInt8) : Option Nat :=
  if 0x30 ≤ b ∧ b ≤ 0x39 then some (b.toNat - 0x30) else none

/-- Whether the next byte is a digit. -/
def digitAhead : Reader Bool := do
  match ← peek with
  | none => pure false
  | some b => pure (digit? b).isSome

/-- Split off the digits at the head of some bytes. -/
def splitDigits : Bytes → Position → List Nat → List Nat × Cursor
  | [], p, read => (read.reverse, ⟨[], p⟩)
  | b :: rest, p, read =>
    match digit? b with
    | some d => splitDigits rest (p.advance b) (d :: read)
    | none => (read.reverse, ⟨b :: rest, p⟩)

/-- All the digits that come next. -/
def digits : Reader (List Nat) := fun c =>
  let (ds, c) := splitDigits c.rest c.position []
  .ok ds c

/-- The largest significand that is kept exactly. -/
def maxSignificand : Nat := UInt64.size - 1

/-- Add a digit to a significand, unless it gets too large. -/
def appendDigit? (significand d : Nat) : Option Nat :=
  let n := significand * 10 + d
  if n ≤ maxSignificand then some n else none

/-- The significand of the digits before the point, and how many of them came after it was full. -/
def wholeDigits : (significand dropped : Nat) → List Nat → Nat × Nat
  | significand, dropped, [] => (significand, dropped)
  | significand, 0, d :: ds =>
    match appendDigit? significand d with
    | some n => wholeDigits n 0 ds
    | none => wholeDigits significand 1 ds
  | significand, dropped + 1, _ :: ds => wholeDigits significand (dropped + 2) ds

/-- The significand with the digits after the point, as many as it takes, and how many it took. -/
def fractionDigits : (significand taken : Nat) → List Nat → Nat × Nat
  | significand, taken, [] => (significand, taken)
  | significand, taken, d :: ds =>
    match appendDigit? significand d with
    | some n => fractionDigits n (taken + 1) ds
    | none => (significand, taken)

/-- The real number of a significand and an exponent. -/
def real (negative : Bool) (significand : Nat) (exponent : Int) : Reader Number :=
  (Decimal.scaled significand exponent).elim (fail .numberOutOfRange) fun m => pure (.real ⟨negative, m⟩)

/-- The largest exponent that is counted. -/
def maxExponent : Nat := UInt32.size / 2 - 1

/-- The digits of an exponent after its first; none, right after the digit that makes it too large. -/
def exponentDigits : (fuel : Nat) → (value : Nat) → Reader (Option Nat)
  | 0, value => pure (some value)
  | fuel + 1, value => do
    match ← peek with
    | none => pure (some value)
    | some b =>
      match digit? b with
      | none => pure (some value)
      | some d =>
        skip
        if maxExponent < value * 10 + d then pure none else exponentDigits fuel (value * 10 + d)

/-- The rest of a number after the sign of its exponent, which is taken down or up. An exponent too large to count gives zero,
unless it makes a number other than zero larger. -/
def exponentValue (negative : Bool) (significand : Nat) (exponent : Int) (down : Bool) : Reader Number := do
  match ← take with
  | none => fail .unfinishedValue
  | some b =>
    match digit? b with
    | none => fail .badNumber
    | some d =>
      let fuel ← remaining
      match ← exponentDigits fuel d with
      | some power => real negative significand (if down then exponent - power else exponent + power)
      | none =>
        if significand ≠ 0 ∧ !down then fail .numberOutOfRange
        else do
          let _ ← digits
          pure (.real ⟨negative, .zero⟩)

/-- The rest of a number from its exponent mark on. -/
def exponentPart (negative : Bool) (significand : Nat) (exponent : Int) : Reader Number := do
  skip
  let sign ← peek
  let down := sign == some (code '-')
  if down || sign == some (code '+') then skip
  exponentValue negative significand exponent down

/-- The rest of a number from its point on. -/
def fractionPart (negative : Bool) (significand dropped : Nat) : Reader Number := do
  skip
  let ds ← digits
  if ds.isEmpty then
    match ← peek with
    | some _ => failAtNext .badNumber
    | none => failAtNext .unfinishedValue
  else
    let (significand, taken) := fractionDigits significand 0 ds
    let exponent : Int := dropped - taken
    match ← peek with
    | some 0x65 | some 0x45 => exponentPart negative significand exponent
    | _ => real negative significand exponent

/-- An integer in the range of its sign; a negative zero and integers below the range are real numbers. -/
def wholeNumber (negative : Bool) (n : Nat) : Reader Number :=
  if !negative then pure (.integer n)
  else if n = 0 ∨ UInt64.size / 2 < n then real true n 0
  else pure (.integer (-n))

/-- The rest of a number after its whole digits. -/
def afterWhole (negative : Bool) (significand dropped : Nat) : Reader Number := do
  match ← peek with
  | some 0x2E => fractionPart negative significand dropped
  | some 0x65 | some 0x45 => exponentPart negative significand dropped
  | _ => if dropped = 0 then wholeNumber negative significand else real negative significand dropped

/-- A number, after its sign. -/
def numeral (negative : Bool) : Reader Number := do
  match ← take with
  | none => fail .unfinishedValue
  | some b =>
    match digit? b with
    | none => fail .badNumber
    | some 0 => if ← digitAhead then failAtNext .badNumber else afterWhole negative 0 0
    | some d => do
      let ds ← digits
      let (significand, dropped) := wholeDigits d 0 ds
      afterWhole negative significand dropped

/-! ## Lists and objects -/

/-- Whether another item follows; `first` says that none was read yet. The end mark is left in place. -/
def nextItem (first : Bool) : Reader Bool := do
  match ← peekPastBlanks with
  | none => failAtNext .unfinishedList
  | some b =>
    if b = code ']' then pure false
    else if first then pure true
    else if b = code ',' then do
      skip
      match ← peekPastBlanks with
      | none => failAtNext .unfinishedValue
      | some b => if b = code ']' then failAtNext .trailingComma else pure true
    else failAtNext .listEndExpected

/-- Whether another member follows, its name being at the cursor; the end mark is left in place. -/
def nextMember (first : Bool) : Reader Bool := do
  match ← peekPastBlanks with
  | none => failAtNext .unfinishedObject
  | some b =>
    if b = code '\x7d' then pure false
    else if first then
      if b = code '"' then pure true else failAtNext .keyNotString
    else if b = code ',' then do
      skip
      match ← peekPastBlanks with
      | none => failAtNext .unfinishedValue
      | some b =>
        if b = code '"' then pure true
        else if b = code '\x7d' then failAtNext .trailingComma
        else failAtNext .keyNotString
    else failAtNext .objectEndExpected

/-- The name of the next member, if there is one. -/
def nextName (first : Bool) : Reader (Option String) := do
  if ← nextMember first then
    skip
    some <$> string
  else pure none

/-- The colon between a name and its value. -/
def colon : Reader Unit := do
  match ← peekPastBlanks with
  | none => failAtNext .unfinishedObject
  | some b => if b = code ':' then skip else failAtNext .colonExpected

/-- The end of a list. -/
def endList : Reader Unit := do
  match ← peekPastBlanks with
  | none => failAtNext .unfinishedList
  | some b =>
    if b = code ']' then skip
    else if b = code ',' then do
      skip
      match ← peekPastBlanks with
      | some b => if b = code ']' then failAtNext .trailingComma else failAtNext .trailingCharacters
      | none => failAtNext .trailingCharacters
    else failAtNext .trailingCharacters

/-- The end of an object. -/
def endObject : Reader Unit := do
  match ← peekPastBlanks with
  | none => failAtNext .unfinishedObject
  | some b =>
    if b = code '\x7d' then skip
    else if b = code ',' then failAtNext .trailingComma
    else failAtNext .trailingCharacters

/-- Read what stands inside marks and then the closing mark. The closing mark is looked for also when the inside fails, and then
the failure of the inside is the one reported. -/
def enclosed (inside : Reader α) (close : Reader Unit) : Reader α := fun c =>
  match inside c with
  | .ok a c => (close *> pure a) c
  | .error f c =>
    match close c with
    | .ok _ c => .error f c
    | .error _ c => .error f c

/-- The items of a list, after its opening mark. The fuel is the number of bytes left, of which each turn takes one. -/
def items (item : Reader α) : (fuel : Nat) → (read : List α) → Reader (List α)
  | 0, _ => fail .unfinishedList
  | fuel + 1, read => do
    if ← nextItem read.isEmpty then
      let a ← item
      items item fuel (a :: read)
    else pure read.reverse

/-- The members of an object, after its opening mark. -/
def members (value : Reader α) : (fuel : Nat) → (read : List (String × α)) → Reader (List (String × α))
  | 0, _ => fail .unfinishedObject
  | fuel + 1, read => do
    match ← nextName read.isEmpty with
    | none => pure read.reverse
    | some name =>
      colon
      let a ← value
      members value fuel ((name, a) :: read)

/-- A list whose items are read by `item`, its opening mark being next. -/
def listOf (item : Reader Json) : Reader Json := do
  skip
  let fuel ← remaining
  .list <$> enclosed (items item (fuel + 1) []) endList

/-- An object whose values are read by `value`, its opening mark being next. -/
def objectOf (value : Reader Json) : Reader Json := do
  skip
  let fuel ← remaining
  .object <$> enclosed (members value (fuel + 1) []) endObject

/-- Any document, its lists and objects read by the two readers given. -/
def document (list object : Reader Json) : Reader Json := do
  match ← peekPastBlanks with
  | none => failAtNext .unfinishedValue
  | some b =>
    if b = code 'n' then do skip; literal ['u', 'l', 'l']; pure .null
    else if b = code 't' then do skip; literal ['r', 'u', 'e']; pure (.boolean true)
    else if b = code 'f' then do skip; literal ['a', 'l', 's', 'e']; pure (.boolean false)
    else if b = code '-' then do skip; .number <$> numeral true
    else if (digit? b).isSome then .number <$> numeral false
    else if b = code '"' then do skip; .text <$> string
    else if b = code '[' then list
    else if b = code '\x7b' then object
    else failAtNext .valueExpected

/-- Any document, with at most `depth` lists and objects inside one another. -/
def tree : (depth : Nat) → Reader Json
  | 0 => document (failAtNext .tooDeep) (failAtNext .tooDeep)
  | depth + 1 => document (listOf (tree depth)) (objectOf (tree depth))

/-- The deepest nesting of lists and objects in one document. -/
def maxDepth : Nat := 127

/-- Read a whole text: nothing but blanks may follow. -/
def whole (read : Reader α) (bytes : Bytes) : Except Failure α :=
  let finish : Reader α := do
    let a ← read
    match ← peekPastBlanks with
    | none => pure a
    | some _ => failAtNext .trailingCharacters
  match finish (Cursor.start bytes) with
  | .ok a _ => .ok a
  | .error f _ => .error f

end Reader

/-- The document that some bytes spell, in canonical form. -/
def parse (bytes : Bytes) : Except Failure Json :=
  (Reader.whole (Reader.tree Reader.maxDepth) bytes).map canonical

end QueueBroker.Json

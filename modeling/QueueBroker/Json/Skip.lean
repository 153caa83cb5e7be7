import QueueBroker.Json.Reader

/-!
# Passing over a document

The value of a field that nobody asks for is passed over by its grammar alone: no limit on nesting, no range for numbers, no
check of the characters that escapes stand for.
-/

namespace QueueBroker.Json.Reader

/-- Pass over the digits that come next. -/
def skipDigits : Reader Unit := do
  let _ ← digits

/-- Pass over an exponent, its mark being next. -/
def skipExponent : Reader Unit := do
  skip
  let sign ← peek
  if sign == some (code '-') || sign == some (code '+') then skip
  match ← take with
  | none => fail .badNumber
  | some b => if (digit? b).isSome then skipDigits else fail .badNumber

/-- Pass over a fraction, its point being next. -/
def skipFraction : Reader Unit := do
  skip
  if ← digitAhead then
    skipDigits
    match ← peek with
    | some 0x65 | some 0x45 => skipExponent
    | _ => pure ()
  else failAtNext .badNumber

/-- Pass over a number, after its sign. -/
def skipNumber : Reader Unit := do
  match ← take with
  | none => fail .badNumber
  | some b =>
    match digit? b with
    | none => fail .badNumber
    | some d =>
      if d = 0 then
        if ← digitAhead then failAtNext .badNumber
      else skipDigits
      match ← peek with
      | some 0x2E => skipFraction
      | some 0x65 | some 0x45 => skipExponent
      | _ => pure ()

/-- Pass over a string, after its opening quote. -/
def skipString : (fuel : Nat) → Reader Unit
  | 0 => fail .unfinishedString
  | fuel + 1 => do
    match ← peek with
    | none => fail .unfinishedString
    | some b =>
      if b = code '"' then skip
      else if b = code '\\' then do
        skip
        match ← take with
        | none => fail .unfinishedString
        | some e =>
          if (simpleEscape? e).isSome then skipString fuel
          else if e = code 'u' then do
            let _ ← hexEscape
            skipString fuel
          else fail .badEscape
      else if b < 0x20 then fail .controlCharacter
      else do
        skip
        skipString fuel

/-- A list or an object that is open. -/
inductive Frame where
  | list
  | object
deriving DecidableEq

/-- Where a pass stands: a value comes next, or something inside the innermost open frame, where a comma may come (`comma`) or
not yet. -/
inductive Pass where
  | value
  | inside (comma : Bool)

/-- The name of a member and its colon. -/
def skipName : Reader Unit := do
  match ← peekPastBlanks with
  | none => failAtNext .unfinishedObject
  | some b =>
    if b = code '"' then do
      skip
      let fuel ← remaining
      skipString (fuel + 1)
      colon
    else failAtNext .keyNotString

/-- Pass over a value that is no list and no object. -/
def skipScalar (b : UInt8) : Reader Unit := do
  if b = code 'n' then do skip; literal ['u', 'l', 'l']
  else if b = code 't' then do skip; literal ['r', 'u', 'e']
  else if b = code 'f' then do skip; literal ['a', 'l', 's', 'e']
  else if b = code '-' then do skip; skipNumber
  else if (digit? b).isSome then skipNumber
  else if b = code '"' then do
    skip
    let fuel ← remaining
    skipString (fuel + 1)
  else failAtNext .valueExpected

/-- The mark that opens a frame. -/
def frameOf? (b : UInt8) : Option Frame :=
  if b = code '[' then some .list
  else if b = code '\x7b' then some .object
  else none

/-- The mark that closes a frame. -/
def Frame.closing : Frame → UInt8
  | list => code ']'
  | object => code '\x7d'

/-- Pass over what is left of a value inside open frames, the innermost first. Each turn takes a byte, or is followed by one
that does. -/
def skipFrom : (fuel : Nat) → Pass → List Frame → Reader Unit
  | 0, _, _ => fail .unfinishedValue
  | fuel + 1, .value, frames => do
    match ← peekPastBlanks with
    | none => failAtNext .unfinishedValue
    | some b =>
      match frameOf? b with
      | some frame => do
        skip
        skipFrom fuel (.inside false) (frame :: frames)
      | none => do
        skipScalar b
        skipFrom fuel (.inside true) frames
  | _ + 1, .inside _, [] => pure ()
  | fuel + 1, .inside comma, frame :: frames => do
    match ← peekPastBlanks with
    | none => failAtNext (if frame = .list then .unfinishedList else .unfinishedObject)
    | some b =>
      if comma && b = code ',' then do
        skip
        if frame = .object then skipName
        skipFrom fuel .value (frame :: frames)
      else if b = frame.closing then do
        skip
        skipFrom fuel (.inside true) frames
      else if comma then failAtNext (if frame = .list then .listEndExpected else .objectEndExpected)
      else do
        if frame = .object then skipName
        skipFrom fuel .value (frame :: frames)

/-- Pass over a value. -/
def skipValue : Reader Unit := do
  let fuel ← remaining
  skipFrom (2 * fuel + 2) .value []

end QueueBroker.Json.Reader

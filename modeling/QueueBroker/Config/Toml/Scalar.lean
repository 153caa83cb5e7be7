import QueueBroker.Config.Toml.Value
import QueueBroker.Text.Escape

/-!
# TOML scalars

Reading the strings, numbers, dates and keys of a TOML document. A reader takes characters from the front and returns those that
are left, or nothing if they do not begin with what it reads.
-/

namespace QueueBroker.Toml

/-- Something that reads an `α` from the front of a text. -/
abbrev Scan (α : Type) := List Char → Option (α × List Char)

/-- Blanks inside a line. -/
def isSpace (c : Char) : Bool :=
  c == ' ' || c == '\t'

/-- Pass over blanks inside a line. -/
def dropSpace (cs : List Char) : List Char :=
  cs.dropWhile isSpace

/-- Characters that may stand in comments and, but for marks, in strings: no controls but the tab. -/
def isPlain (c : Char) : Bool :=
  c == '\t' || (0x20 ≤ c.toNat && c.toNat != 0x7F)

/-- The end of a line. -/
def newline? : List Char → Option (List Char)
  | '\n' :: rest => some rest
  | '\r' :: '\n' :: rest => some rest
  | _ => none

/-- Pass over a comment, if one comes next. -/
def dropComment : List Char → List Char
  | '#' :: rest => rest.dropWhile isPlain
  | cs => cs

/-- Pass over what may end a line: blanks, a comment, and the end of the line or of the text. -/
def lineEnd? (cs : List Char) : Option (List Char) :=
  match dropComment (dropSpace cs) with
  | [] => some []
  | cs => newline? cs

/-- Pass over blanks, comments and ends of lines. The fuel is the length of the text. -/
def dropLines : (fuel : Nat) → List Char → List Char
  | 0, cs => cs
  | fuel + 1, cs =>
    let cs := dropSpace cs
    match newline? (dropComment cs) with
    | some rest => dropLines fuel rest
    | none => cs

/-- Take a fixed text. -/
def literal? : List Char → List Char → Option (List Char)
  | [], cs => some cs
  | expected :: more, c :: cs => if c = expected then literal? more cs else none
  | _, [] => none

/-! ## Strings -/

/-- The character of an escape, after its backslash. -/
def escape? : Scan Char
  | 'b' :: cs => some ('\x08', cs)
  | 't' :: cs => some ('\t', cs)
  | 'n' :: cs => some ('\n', cs)
  | 'f' :: cs => some ('\x0c', cs)
  | 'r' :: cs => some ('\r', cs)
  | '"' :: cs => some ('"', cs)
  | '\\' :: cs => some ('\\', cs)
  | 'u' :: cs => Escape.character? 4 cs
  | 'U' :: cs => Escape.character? 8 cs
  | _ => none

/-- The rest of a string with escapes on one line; `read` holds the characters before, last first. -/
def basicRest : (fuel : Nat) → (read : List Char) → Scan String
  | 0, _, _ => none
  | _ + 1, _, [] => none
  | fuel + 1, read, c :: cs =>
    if c = '"' then some (String.ofList read.reverse, cs)
    else if c = '\\' then (escape? cs).bind fun (e, cs) => basicRest fuel (e :: read) cs
    else if isPlain c then basicRest fuel (c :: read) cs
    else none

/-- The rest of a string without escapes on one line. -/
def literalRest (cs : List Char) : Option (String × List Char) :=
  let body := cs.takeWhile fun c => isPlain c && c != '\''
  match cs.drop body.length with
  | '\'' :: rest => some (String.ofList body, rest)
  | _ => none

/-- Pass over the end of a line after a backslash, and the blanks and ends of lines that follow it. -/
def lineBreak? (cs : List Char) : Option (List Char) :=
  match newline? (dropSpace cs) with
  | none => none
  | some rest => some (pass rest.length rest)
where
  pass : Nat → List Char → List Char
    | 0, cs => cs
    | fuel + 1, cs =>
      match newline? (dropSpace cs) with
      | some rest => pass fuel rest
      | none => dropSpace cs

/-- The rest of a string over several lines, between three `quote`s: one or two of them may stand anywhere in it, also before
the three that end it. Escapes are read if `escapes` says so. -/
def multilineRest (quote : Char) (escapes : Bool) : (fuel : Nat) → (read : List Char) → Scan String
  | 0, _, _ => none
  | _ + 1, _, [] => none
  | fuel + 1, read, c :: cs =>
    if c = quote then
      let run := ((c :: cs).takeWhile (· == quote)).length
      let rest := (c :: cs).drop run
      if run < 3 then multilineRest quote escapes fuel (List.replicate run quote ++ read) rest
      else if run ≤ 5 then some (String.ofList ((List.replicate (run - 3) quote ++ read).reverse), rest)
      else none
    else if c = '\\' && escapes then
      match lineBreak? cs with
      | some rest => multilineRest quote escapes fuel read rest
      | none => (escape? cs).bind fun (e, cs) => multilineRest quote escapes fuel (e :: read) cs
    else
      match newline? (c :: cs) with
      | some rest => multilineRest quote escapes fuel ('\n' :: read) rest
      | none => if isPlain c then multilineRest quote escapes fuel (c :: read) cs else none

/-- The body of a string over several lines: an end of line right after the opening quotes does not count. -/
def multiline (quote : Char) (escapes : Bool) (cs : List Char) : Option (String × List Char) :=
  let cs := (newline? cs).getD cs
  multilineRest quote escapes (cs.length + 1) [] cs

/-- A string of any kind. -/
def string? : Scan String
  | '"' :: '"' :: '"' :: cs => multiline '"' true cs
  | '"' :: cs => basicRest (cs.length + 1) [] cs
  | '\'' :: '\'' :: '\'' :: cs => multiline '\'' false cs
  | '\'' :: cs => literalRest cs
  | _ => none

/-! ## Keys -/

/-- Characters of keys without quotes. -/
def isBare (c : Char) : Bool :=
  c.isAlphanum || c == '-' || c == '_'

/-- One part of a key. -/
def keyPart? : Scan String
  | '"' :: cs => basicRest (cs.length + 1) [] cs
  | '\'' :: cs => literalRest cs
  | cs =>
    let bare := cs.takeWhile isBare
    if bare.isEmpty then none else some (String.ofList bare, cs.drop bare.length)

/-- The most parts of a key, and the deepest nesting of values. -/
def maxNesting : Nat := 80

/-- A key: parts with points between them, blanks around each. -/
def keyFrom? : (fuel : Nat) → Scan (List String)
  | 0, _ => none
  | fuel + 1, cs => do
    let (part, cs) ← keyPart? (dropSpace cs)
    match dropSpace cs with
    | '.' :: cs =>
      let (parts, cs) ← keyFrom? fuel cs
      some (part :: parts, cs)
    | cs => some ([part], cs)

/-- A key that is not too deep. -/
def key? (cs : List Char) : Option (List String × List Char) := do
  let (parts, cs) ← keyFrom? (cs.length + 1) cs
  if parts.length < maxNesting then some (parts, cs) else none

/-! ## Numbers -/

/-- Digits that may be parted by single underscores, the first digit being taken by the caller. -/
def groupedRest (isDigit : Char → Bool) : (fuel : Nat) → Scan (List Char)
  | 0, cs => some ([], cs)
  | fuel + 1, '_' :: c :: cs =>
    if isDigit c then (groupedRest isDigit fuel cs).map fun (ds, cs) => (c :: ds, cs) else none
  | _, ['_'] => none
  | fuel + 1, c :: cs =>
    if isDigit c then (groupedRest isDigit fuel cs).map fun (ds, cs) => (c :: ds, cs) else some ([], c :: cs)
  | _ + 1, [] => some ([], [])

/-- Digits that may be parted by single underscores. -/
def grouped? (isDigit : Char → Bool) : Scan (List Char)
  | c :: cs => if isDigit c then (groupedRest isDigit cs.length cs).map fun (ds, cs) => (c :: ds, cs) else none
  | [] => none

/-- A sign, if there is one. -/
def sign (cs : List Char) : Bool × List Char :=
  match cs with
  | '-' :: cs => (true, cs)
  | '+' :: cs => (false, cs)
  | cs => (false, cs)

/-- Decimal digits without a leading zero, or a single zero. -/
def decimal? : Scan (List Char)
  | '0' :: cs => some (['0'], cs)
  | cs => grouped? Char.isDigit cs

/-- The largest integer. -/
def maxInteger : Nat := UInt64.size / 2 - 1

/-- An integer in base `base`, after its mark. -/
def based? (base : Nat) (cs : List Char) : Option (Toml × List Char) := do
  let isDigit (c : Char) : Bool := (Whole.hexDigit? c).any (· < base)
  let (ds, cs) ← grouped? isDigit cs
  let n ← Whole.inBase? base ds
  if n ≤ maxInteger then some (.integer n, cs) else none

/-- An integer. -/
def integer? : Scan Toml
  | '0' :: 'x' :: cs => based? 16 cs
  | '0' :: 'o' :: cs => based? 8 cs
  | '0' :: 'b' :: cs => based? 2 cs
  | cs => do
    let (negative, cs) := sign cs
    let (ds, cs) ← decimal? cs
    let n := Real.digitsValue ds
    if negative then if n ≤ maxInteger + 1 then some (.integer (-n), cs) else none
    else if n ≤ maxInteger then some (.integer n, cs) else none

/-- A number with a fraction or an exponent, or a word for what is no number. Too large a number is refused. -/
def real? (cs : List Char) : Option (Toml × List Char) := do
  let (negative, cs) := sign cs
  match cs with
  | 'i' :: 'n' :: 'f' :: cs => some (.real (.infinite negative), cs)
  | 'n' :: 'a' :: 'n' :: cs => some (.real .undefined, cs)
  | cs =>
    let (whole, cs) ← decimal? cs
    let (fraction, cs) ← match cs with
      | '.' :: cs => grouped? Char.isDigit cs
      | cs => some ([], cs)
    let (exponent, cs) ← match cs with
      | mark :: rest =>
        if mark = 'e' ∨ mark = 'E' then do
          let (down, rest) := sign rest
          let (ds, rest) ← grouped? Char.isDigit rest
          let n : Int := Real.digitsValue ds
          some (some (if down then -n else n), rest)
        else some (none, cs)
      | [] => some (none, cs)
    if fraction.isEmpty && exponent.isNone then none
    else
      match Real.ofDecimal negative (Real.digitsValue (whole ++ fraction)) (exponent.getD 0 - fraction.length) with
      | .finite x => some (.real (.finite x), cs)
      | .infinite true => some (.real (.infinite true), cs)
      | _ => none

/-! ## Dates and times -/

/-- A number of exactly `count` digits. -/
def fixed? (count : Nat) (cs : List Char) : Option (Nat × List Char) :=
  let ds := cs.take count
  if ds.length = count ∧ ds.all Char.isDigit then some (Real.digitsValue ds, cs.drop count) else none

/-- A number of exactly `count` digits between two bounds. -/
def bounded? (count low high : Nat) (cs : List Char) : Option (Nat × List Char) := do
  let (n, cs) ← fixed? count cs
  if low ≤ n ∧ n ≤ high then some (n, cs) else none

/-- The number of days of a month. -/
def daysIn (year month : Nat) : Nat :=
  if month = 2 then
    if year % 4 = 0 ∧ (year % 100 ≠ 0 ∨ year % 400 = 0) then 29 else 28
  else if month = 4 ∨ month = 6 ∨ month = 9 ∨ month = 11 then 30
  else 31

/-- A date. -/
def date? : Scan (List Char) := fun cs => do
  let (year, rest) ← fixed? 4 cs
  let rest ← literal? ['-'] rest
  let (month, rest) ← bounded? 2 1 12 rest
  let rest ← literal? ['-'] rest
  let (_, rest) ← bounded? 2 1 (daysIn year month) rest
  some (cs.take 10, rest)

/-- The fraction of a second in its shortest form: nine digits at most, no zeros at the end, and nothing for zero. -/
def fractionText (digits : List Char) : List Char :=
  match ((digits.take 9).reverse.dropWhile (· == '0')).reverse with
  | [] => []
  | digits => '.' :: digits

/-- A time of day. -/
def time? : Scan (List Char) := fun cs => do
  let (_, rest) ← bounded? 2 0 23 cs
  let rest ← literal? [':'] rest
  let (_, rest) ← bounded? 2 0 59 rest
  let rest ← literal? [':'] rest
  let (_, rest) ← bounded? 2 0 60 rest
  match rest with
  | '.' :: d :: rest =>
    if d.isDigit then some (cs.take 8 ++ fractionText (d :: rest.takeWhile Char.isDigit), rest.dropWhile Char.isDigit)
    else none
  | rest => some (cs.take 8, rest)

/-- The distance from universal time; if it is not given, nothing. -/
def offset? : Scan (List Char)
  | 'Z' :: cs => some (['Z'], cs)
  | 'z' :: cs => some (['Z'], cs)
  | mark :: cs =>
    if mark = '+' ∨ mark = '-' then do
      let (hours, rest) ← bounded? 2 0 23 cs
      let rest ← literal? [':'] rest
      let (minutes, rest) ← bounded? 2 0 59 rest
      let mark := if hours = 0 ∧ minutes = 0 then '+' else mark
      some (mark :: cs.take 5, rest)
    else some ([], mark :: cs)
  | [] => some ([], [])

/-- A time after a date. -/
def timeAfterDate? : Scan (List Char)
  | mark :: cs =>
    if mark = 'T' ∨ mark = 't' ∨ mark = ' ' then do
      let (time, cs) ← time? cs
      let (offset, cs) ← offset? cs
      some ('T' :: time ++ offset, cs)
    else none
  | [] => none

/-- A date, a time of day, or both. -/
def moment? (cs : List Char) : Option (Toml × List Char) :=
  let read : Option (List Char × List Char) :=
    match date? cs with
    | some (date, rest) =>
      match timeAfterDate? rest with
      | some (time, rest) => some (date ++ time, rest)
      | none => some (date, rest)
    | none => time? cs
  read.map fun (chars, rest) => (.moment (String.ofList chars), rest)

/-- A scalar of any kind. -/
def scalar? (cs : List Char) : Option (Toml × List Char) :=
  match cs with
  | [] => none
  | c :: rest =>
    if c = '"' ∨ c = '\'' then (string? cs).map fun (s, cs) => (.text s, cs)
    else if c = 't' then (literal? ['r', 'u', 'e'] rest).map fun cs => (.boolean true, cs)
    else if c = 'f' then (literal? ['a', 'l', 's', 'e'] rest).map fun cs => (.boolean false, cs)
    else moment? cs <|> real? cs <|> integer? cs

end QueueBroker.Toml

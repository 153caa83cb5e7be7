import QueueBroker.Config.Setting
import QueueBroker.Text.Blank
import QueueBroker.Text.Escape
import QueueBroker.Text.Letter

/-!
# JSON5 files

JSON with the liberties of a script: comments, names without quotes, either quote around texts, commas at the end, and numbers
with a plus, a bare point or in hexadecimal.
-/

namespace QueueBroker.Json5

/-! ## Between the pieces -/

/-- Whether a character ends a line. -/
def endsLine (c : Char) : Bool :=
  c == '\n' || c == '\r' || c == '\u2028' || c == '\u2029'

/-- Whether a character may stand between the pieces of a document. A mark of byte order may, a next line may not. -/
def isSpace (c : Char) : Bool :=
  c == '\uFEFF' || (Blank.isBlank c && c != '\u0085')

/-- What follows the end of a comment between marks. -/
def afterComment? : List Char → Option (List Char)
  | [] => none
  | '*' :: '/' :: cs => some cs
  | _ :: cs => afterComment? cs

/-- Pass over blanks and comments. The fuel is the length of the text. -/
def dropSpace : (fuel : Nat) → List Char → List Char
  | 0, cs => cs
  | fuel + 1, cs =>
    match cs.dropWhile isSpace with
    | '/' :: '/' :: cs => dropSpace fuel (cs.dropWhile (!endsLine ·))
    | '/' :: '*' :: rest =>
      match afterComment? rest with
      | some cs => dropSpace fuel cs
      | none => '/' :: '*' :: rest
    | cs => cs

/-- What comes next after blanks and comments. -/
def next (cs : List Char) : List Char :=
  dropSpace (cs.length + 1) cs

/-! ## Texts and names -/

/-- What a letter stands for after a backslash. -/
def escaped : Char → Char
  | 'b' => '\x08'
  | 'f' => '\x0c'
  | 'n' => '\n'
  | 'r' => '\r'
  | 't' => '\t'
  | 'v' => '\x0b'
  | '0' => '\x00'
  | c => c

/-- The character of an escape by four digits, after its mark. One past U+FFFF takes two such escapes. -/
def numbered? (cs : List Char) : Option (Char × List Char) := do
  let (n, cs) ← Escape.number? 4 cs
  if 0xD800 ≤ n ∧ n < 0xDC00 then
    match cs with
    | '\\' :: 'u' :: cs =>
      let (low, cs) ← Escape.number? 4 cs
      if 0xDC00 ≤ low ∧ low < 0xE000 then some (Char.ofNat ((n - 0xD800) * 0x400 + (low - 0xDC00) + 0x10000), cs) else none
    | _ => none
  else
    let c ← Escape.codePoint? n
    some (c, cs)

/-- What an escape stands for, after its backslash: nothing, at the end of a line. -/
def escape? : List Char → Option (List Char × List Char)
  | [] => none
  | 'x' :: cs => (Escape.character? 2 cs).map fun (c, cs) => ([c], cs)
  | 'u' :: cs => (numbered? cs).map fun (c, cs) => ([c], cs)
  | '\r' :: '\n' :: cs => some ([], cs)
  | c :: cs =>
    if endsLine c then some ([], cs)
    else if c.isDigit && c != '0' then none
    else some ([escaped c], cs)

/-- The rest of a text up to its quote; `read` holds the characters before, last first. The fuel is the length of the rest. -/
def textRest? (quote : Char) : (fuel : Nat) → (read : List Char) → List Char → Option (String × List Char)
  | 0, _, _ => none
  | _ + 1, _, [] => none
  | fuel + 1, read, c :: cs =>
    if c = quote then some (String.ofList read.reverse, cs)
    else if c = '\\' then do
      let (found, cs) ← escape? cs
      textRest? quote fuel (found ++ read) cs
    else if c = '\n' ∨ c = '\r' then none
    else textRest? quote fuel (c :: read) cs

/-- A text, its opening quote being next. -/
def text? : List Char → Option (String × List Char)
  | '"' :: cs => textRest? '"' (cs.length + 1) [] cs
  | '\'' :: cs => textRest? '\'' (cs.length + 1) [] cs
  | _ => none

/-- Whether a name may begin with a character. -/
def beginsName (c : Char) : Bool :=
  Letter.isLetter c || c == '$' || c == '_'

/-- The rest of a name. The fuel is the length of the text. -/
def nameRest? : (fuel : Nat) → (read : List Char) → List Char → Option (String × List Char)
  | 0, _, _ => none
  | fuel + 1, read, '\\' :: 'u' :: cs => do
    let (c, cs) ← numbered? cs
    nameRest? fuel (c :: read) cs
  | fuel + 1, read, c :: cs =>
    if beginsName c || Letter.isMark c then nameRest? fuel (c :: read) cs else some (String.ofList read.reverse, c :: cs)
  | _ + 1, read, [] => some (String.ofList read.reverse, [])

/-- The key of a member: a text or a name. -/
def key? (cs : List Char) : Option (String × List Char) :=
  match cs with
  | '"' :: _ => text? cs
  | '\'' :: _ => text? cs
  | '\\' :: _ => nameRest? (cs.length + 1) [] cs
  | c :: _ => if beginsName c then nameRest? (cs.length + 1) [] cs else none
  | [] => none

/-! ## Numbers -/

/-- Split a fixed text off the front. -/
def literal? : List Char → List Char → Option (List Char)
  | [], cs => some cs
  | expected :: more, c :: cs => if c = expected then literal? more cs else none
  | _, [] => none

/-- The spelling of an exponent, or nothing. -/
def exponent (cs : List Char) : List Char :=
  match cs with
  | mark :: rest =>
    if mark = 'e' ∨ mark = 'E' then
      let sign := (rest.take 1).filter fun c => c = '+' || c = '-'
      let ds := (rest.drop sign.length).takeWhile Char.isDigit
      if ds.isEmpty then [] else mark :: (sign ++ ds)
    else []
  | [] => []

/-- The spelling of a decimal number without a sign. -/
def decimal? (cs : List Char) : Option (List Char) :=
  let whole := match cs with
    | '0' :: _ => ['0']
    | cs => cs.takeWhile Char.isDigit
  match cs.drop whole.length with
  | '.' :: rest =>
    let ds := rest.takeWhile Char.isDigit
    if whole.isEmpty && ds.isEmpty then none
    else some (whole ++ '.' :: (ds ++ exponent (rest.drop ds.length)))
  | rest => if whole.isEmpty then none else some (whole ++ exponent rest)

/-- The spelling of a number without a sign. -/
def unsigned? (cs : List Char) : Option (List Char) :=
  let word (w : String) : Option (List Char) := (literal? w.toList cs).map fun _ => w.toList
  let hexadecimal : Option (List Char) := match cs with
    | '0' :: x :: rest =>
      let ds := rest.takeWhile fun c => (Whole.hexDigit? c).isSome
      if (x = 'x' ∨ x = 'X') ∧ !ds.isEmpty then some ('0' :: x :: ds) else none
    | _ => none
  hexadecimal <|> decimal? cs <|> word "Infinity" <|> word "NaN"

/-- The spelling of a number, and what follows it. -/
def numeral? (cs : List Char) : Option (List Char × List Char) := do
  let sign := (cs.take 1).filter fun c => c = '+' || c = '-'
  let spelled ← unsigned? (cs.drop sign.length)
  some (sign ++ spelled, cs.drop (sign.length + spelled.length))

/-- The setting of a number in hexadecimal digits. -/
def hexadecimal? (ds : List Char) : Option Setting := do
  let n ← Whole.inBase? 16 ds
  if n < UInt32.size then some (.integer n) else none

/-- The setting that a spelling stands for. Without a point or an exponent it is an integer: hexadecimal ones have no sign and
32 bits, others 64. What is no number or infinite has no plus. -/
def ofNumeral? (cs : List Char) : Option Setting :=
  match cs with
  | ['N', 'a', 'N'] => some (.real .undefined)
  | ['-', 'N', 'a', 'N'] => some (.real .undefined)
  | 'I' :: _ => some (.real (.infinite false))
  | '-' :: 'I' :: _ => some (.real (.infinite true))
  | '0' :: 'x' :: ds => hexadecimal? ds
  | '0' :: 'X' :: ds => hexadecimal? ds
  | cs =>
    if cs.any fun c => c = '.' || c = 'e' || c = 'E' then
      match Real.parse? (String.ofList cs) with
      | some (.finite x) => some (.real (.finite x))
      | _ => none
    else (Whole.signed? (String.ofList cs)).map .integer

/-! ## Values -/

/-- Something that reads an `α` from the front of a text. -/
abbrev Scan (α : Type) := List Char → Option (α × List Char)

/-- A member of an object. -/
def member? (value : Scan Setting) (cs : List Char) : Option ((String × Setting) × List Char) := do
  let (key, cs) ← key? cs
  match next cs with
  | ':' :: cs =>
    let (value, cs) ← value (next cs)
    some ((key, value), cs)
  | _ => none

/-- The things between commas up to a mark, after the opening mark; the last may have a comma too. The fuel is the length of the
text. -/
def separated? {α : Type} (element : Scan α) (close : Char) : (fuel : Nat) → Scan (List α)
  | 0, _ => none
  | fuel + 1, cs =>
    match next cs with
    | [] => none
    | c :: rest =>
      if c = close then some ([], rest)
      else do
        let (a, cs) ← element (c :: rest)
        match next cs with
        | ',' :: cs =>
          let (more, cs) ← separated? element close fuel cs
          some (a :: more, cs)
        | c :: cs => if c = close then some ([a], cs) else none
        | [] => none

/-- A value whose parts are read by `part`. -/
def composite? (part : Scan Setting) : Scan Setting
  | '[' :: cs => (separated? part ']' (cs.length + 1) cs).map fun (items, cs) => (.list items, cs)
  | '\x7b' :: cs =>
    (separated? (member? part) '\x7d' (cs.length + 1) cs).map fun (members, cs) => (.table (Setting.distinct members), cs)
  | '"' :: cs => (text? ('"' :: cs)).map fun (s, cs) => (.text s, cs)
  | '\'' :: cs => (text? ('\'' :: cs)).map fun (s, cs) => (.text s, cs)
  | 'n' :: 'u' :: 'l' :: 'l' :: cs => some (.nothing, cs)
  | 't' :: 'r' :: 'u' :: 'e' :: cs => some (.boolean true, cs)
  | 'f' :: 'a' :: 'l' :: 's' :: 'e' :: cs => some (.boolean false, cs)
  | cs => do
    let (spelled, cs) ← numeral? cs
    let v ← ofNumeral? spelled
    some (v, cs)

/-- A value, with at most `depth` lists and objects inside one another. -/
def value? : (depth : Nat) → Scan Setting
  | 0, cs => composite? (fun _ => none) cs
  | depth + 1, cs => composite? (value? depth) cs

/-- The entries of a file, which holds one object. -/
def parse? (s : String) : Option (List (String × Setting)) := do
  let cs := next s.toList
  let (v, cs) ← value? cs.length cs
  match v, next cs with
  | .table entries, [] => some entries
  | _, _ => none

end QueueBroker.Json5

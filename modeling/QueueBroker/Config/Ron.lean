import QueueBroker.Config.Setting
import QueueBroker.Text.Escape

/-!
# RON files

Structs, tuples and enumerations as programs write them: `Name(field: value)` with or without the name, lists in square brackets,
maps in braces, and optional values. A struct and a map both give a table.
-/

namespace QueueBroker.Ron

/-! ## Between the pieces -/

/-- Whether a character may stand between the pieces of a document. -/
def isSpace (c : Char) : Bool :=
  c == ' ' || c == '\t' || c == '\n' || c == '\r'

/-- What follows the end of a comment between marks, `depth + 1` of which are open. -/
def afterComment? : (depth : Nat) → List Char → Option (List Char)
  | _, [] => none
  | depth, '/' :: '*' :: cs => afterComment? (depth + 1) cs
  | 0, '*' :: '/' :: cs => some cs
  | depth + 1, '*' :: '/' :: cs => afterComment? depth cs
  | depth, _ :: cs => afterComment? depth cs

/-- Pass over blanks and comments. The fuel is the length of the text. -/
def dropSpace? : (fuel : Nat) → List Char → Option (List Char)
  | 0, _ => none
  | fuel + 1, cs =>
    match cs.dropWhile isSpace with
    | '/' :: '/' :: cs => dropSpace? fuel (cs.dropWhile (· != '\n'))
    | '/' :: '*' :: cs => (afterComment? 0 cs).bind (dropSpace? fuel)
    | '/' :: _ => none
    | cs => some cs

/-- What comes next after blanks and comments. -/
def next? (cs : List Char) : Option (List Char) :=
  dropSpace? (cs.length + 1) cs

/-- Split a fixed text off the front. -/
def literal? : List Char → List Char → Option (List Char)
  | [], cs => some cs
  | expected :: more, c :: cs => if c = expected then literal? more cs else none
  | _, [] => none

/-- Pass over a comma, if one comes next, and say whether one did. -/
def comma? (cs : List Char) : Option (Bool × List Char) := do
  match ← next? cs with
  | ',' :: cs => some (true, ← next? cs)
  | cs => some (false, cs)

/-! ## Names -/

/-- Whether a name may begin with a character. -/
def beginsName (c : Char) : Bool :=
  c.isAlpha || c == '_'

/-- Whether a character may stand in a name. -/
def isNameChar (c : Char) : Bool :=
  c.isAlphanum || c == '_'

/-- Whether a character may stand in a name that is marked as one. -/
def isRawChar (c : Char) : Bool :=
  isNameChar c || c == '.' || c == '+' || c == '-'

/-- A name: marked by `r#`, or a word that is not the beginning of something else. -/
def name? (cs : List Char) : Option (String × List Char) :=
  let plain : Option (String × List Char) :=
    let name := cs.takeWhile isNameChar
    let rest := cs.drop name.length
    if rest.head?.any isRawChar then none else some (String.ofList name, rest)
  match cs with
  | 'r' :: '"' :: _ => none
  | 'r' :: '#' :: cs =>
    let name := cs.takeWhile isRawChar
    if name.isEmpty then none else some (String.ofList name, cs.drop name.length)
  | c :: _ => if beginsName c then plain else none
  | [] => none

/-- What follows a word, if it comes next and ends there. -/
def word? (word : String) (cs : List Char) : Option (List Char) :=
  match literal? word.toList cs with
  | some rest => if rest.head?.any isNameChar then none else some rest
  | none => none

/-! ## Texts -/

/-- The number of up to `count` hexadecimal digits, and the rest from a closing brace on. -/
def bracedNumber? : (count : Nat) → (n : Nat) → List Char → Option (Nat × List Char)
  | _, n, '\x7d' :: cs => some (n, cs)
  | count + 1, n, c :: cs => (Whole.hexDigit? c).bind fun d => bracedNumber? count (n * 16 + d) cs
  | _, _, _ => none

/-- The character of an escape, after its backslash. -/
def escape? : List Char → Option (Char × List Char)
  | '\'' :: cs => some ('\'', cs)
  | '"' :: cs => some ('"', cs)
  | '\\' :: cs => some ('\\', cs)
  | 'n' :: cs => some ('\n', cs)
  | 'r' :: cs => some ('\r', cs)
  | 't' :: cs => some ('\t', cs)
  | '0' :: cs => some ('\x00', cs)
  | 'x' :: cs => Escape.character? 2 cs
  | 'u' :: '\x7b' :: '\x7d' :: _ => none
  | 'u' :: '\x7b' :: cs => do
    let (n, cs) ← bracedNumber? 6 0 cs
    let c ← Escape.codePoint? n
    some (c, cs)
  | _ => none

/-- The rest of a text up to its quote; `read` holds the characters before, last first. The fuel is the length of the rest. -/
def textRest? : (fuel : Nat) → (read : List Char) → List Char → Option (String × List Char)
  | 0, _, _ => none
  | _ + 1, _, [] => none
  | _ + 1, read, '"' :: cs => some (String.ofList read.reverse, cs)
  | fuel + 1, read, '\\' :: cs => do
    let (c, cs) ← escape? cs
    textRest? fuel (c :: read) cs
  | fuel + 1, read, c :: cs => textRest? fuel (c :: read) cs

/-- The text up to `ending`, and what follows that. -/
def textUntil? (ending : List Char) : List Char → Option (List Char × List Char)
  | [] => none
  | c :: cs =>
    match literal? ending (c :: cs) with
    | some rest => some ([], rest)
    | none => (textUntil? ending cs).map fun (text, rest) => (c :: text, rest)

/-- A text without escapes, after its `r`: it ends with a quote and as many hashes as it begins with. -/
def rawText? (cs : List Char) : Option (String × List Char) :=
  let hashes := cs.takeWhile (· == '#')
  match cs.drop hashes.length with
  | '"' :: cs => (textUntil? ('"' :: hashes) cs).map fun (text, rest) => (String.ofList text, rest)
  | _ => none

/-- A single character, after its opening quote. -/
def character? : List Char → Option (String × List Char)
  | '\\' :: cs => do
    match ← escape? cs with
    | (c, '\'' :: cs) => some (c.toString, cs)
    | _ => none
  | c :: '\'' :: cs => if c = '\'' then none else some (c.toString, cs)
  | _ => none

/-! ## Numbers -/

/-- A real number. Its digits are not parted by underscores. -/
def real? (cs : List Char) : Option (Setting × List Char) :=
  let special := ["inf", "+inf", "-inf", "NaN", "+NaN", "-NaN"].findSome? fun w => (word? w cs).map fun rest => (w, rest)
  match special with
  | some (w, rest) => (Real.parse? w).map fun x => (.real x, rest)
  | none =>
    let ds := cs.takeWhile fun c => c.isDigit || c == 'e' || c == 'E' || c == '.' || c == '+' || c == '-' || c == '_'
    (Real.parse? (String.ofList ds)).map fun x => (.real x, cs.drop ds.length)

/-- The digits of an integer without a sign, in its base, and what follows. -/
def digits? (cs : List Char) : Option (Nat × List Char) :=
  let (base, cs) := match cs with
    | '0' :: 'x' :: cs => (16, cs)
    | '0' :: 'b' :: cs => (2, cs)
    | '0' :: 'o' :: cs => (8, cs)
    | cs => (10, cs)
  let ds := cs.takeWhile fun c => (Whole.hexDigit? c).isSome || c == '_'
  if ds.head? = some '_' then none
  else (Whole.inBase? base (ds.filter (· != '_'))).map fun n => (n, cs.drop ds.length)

/-- An integer: without a sign it has 64 bits and is a real number from `2^63` on, with one it has 64 bits and that sign. -/
def integer? (cs : List Char) : Option (Setting × List Char) :=
  let signed (negative : Bool) (cs : List Char) : Option (Setting × List Char) := do
    let (n, rest) ← digits? cs
    if negative then if n ≤ UInt64.size / 2 then some (.integer (-n), rest) else none
    else if n < UInt64.size / 2 then some (.integer n, rest) else none
  match cs with
  | '-' :: cs => signed true cs
  | '+' :: cs => signed false cs
  | cs => do
    let (n, rest) ← digits? cs
    if n < UInt64.size then some (Setting.ofNumber (.integer n), rest) else none

/-- A number. It is real if it has characters that only real numbers have, or if it is no integer. -/
def number? (cs : List Char) : Option (Setting × List Char) :=
  let unsigned := cs.drop ((cs.take 1).filter fun c => c = '+' || c = '-').length
  let realLength := (unsigned.takeWhile fun c =>
    c.isDigit || c == 'e' || c == 'E' || c == '.' || c == '+' || c == '-' || c == '_').length
  let wholeLength := (unsigned.takeWhile fun c => (Whole.hexDigit? c).isSome || c == '_').length
  if wholeLength < realLength then real? cs else integer? cs <|> real? cs

/-! ## Values -/

/-- Something that reads an `α` from the front of a text. -/
abbrev Scan (α : Type) := List Char → Option (α × List Char)

/-- The things between commas up to a mark, which is left; the last may have a comma too. The fuel is the length of the text. -/
def separated? {α : Type} (element : Scan α) (close : Char) : (fuel : Nat) → Scan (List α)
  | 0, _ => none
  | fuel + 1, cs => do
    match ← next? cs with
    | [] => none
    | c :: rest =>
      if c = close then some ([], c :: rest)
      else
        let (a, cs) ← element (c :: rest)
        let (more, cs) ← comma? cs
        if more then
          let (items, cs) ← separated? element close fuel cs
          some (a :: items, cs)
        else if cs.head? = some close then some ([a], cs)
        else none

/-- The things between commas and the mark that ends them. -/
def enclosed? {α : Type} (element : Scan α) (close : Char) (cs : List Char) : Option (List α × List Char) :=
  (separated? element close (cs.length + 1) cs).map fun (items, cs) => (items, cs.drop 1)

/-- A key and its value. -/
def member? (key : Scan String) (value : Scan Setting) (cs : List Char) : Option ((String × Setting) × List Char) := do
  let (key, cs) ← key cs
  match ← next? cs with
  | ':' :: cs =>
    let (value, cs) ← value (← next? cs)
    some ((key, value), cs)
  | _ => none

/-- A setting as the key of a map, which is a text. -/
def keyOf? : Setting → Option String
  | .text s => some s
  | _ => none

/-- Whether a struct begins with a field, rather than with a value. -/
def isField (cs : List Char) : Option Bool :=
  match name? cs with
  | none => some false
  | some (_, cs) => do
    match ← next? cs with
    | [] => none
    | c :: _ => some (c = ':')

/-- What may follow the name of a struct, or stand without one: fields, values, or nothing at all. -/
def body? (part : Scan Setting) (cs : List Char) : Option (Setting × List Char) :=
  match cs with
  | '(' :: cs => do
    if ← isField (← next? cs) then
      let (members, cs) ← enclosed? (member? name? part) ')' cs
      some (.table (Setting.distinct members), cs)
    else
      let (items, cs) ← enclosed? part ')' cs
      some (.list items, cs)
  | cs => some (.nothing, cs)

/-- A value that is there, after `Some`. -/
def present? (part : Scan Setting) (cs : List Char) : Option (Setting × List Char) := do
  match ← next? cs with
  | '(' :: cs =>
    let (v, cs) ← part (← next? cs)
    let (_, cs) ← comma? cs
    match cs with
    | ')' :: cs => some (v, cs)
    | _ => none
  | _ => none

/-- A value that begins with a mark and whose parts are read by `part`. -/
def marked? (part : Scan Setting) : Scan Setting
  | '(' :: cs => body? part ('(' :: cs)
  | '[' :: cs => (enclosed? part ']' cs).map fun (items, cs) => (.list items, cs)
  | '\x7b' :: cs => do
    let key : Scan String := fun cs => do
      let (key, cs) ← part cs
      some (← keyOf? key, cs)
    let (members, cs) ← enclosed? (member? key part) '\x7d' cs
    some (.table (Setting.distinct members), cs)
  | '"' :: cs => (textRest? (cs.length + 1) [] cs).map fun (s, cs) => (.text s, cs)
  | 'r' :: cs => (rawText? cs).map fun (s, cs) => (.text s, cs)
  | '\'' :: cs => (character? cs).map fun (s, cs) => (.text s, cs)
  | c :: cs => if c.isDigit || c == '+' || c == '-' || c == '.' then number? (c :: cs) else none
  | [] => none

/-- A value whose parts are read by `part`. -/
def composite? (part : Scan Setting) (cs : List Char) : Option (Setting × List Char) :=
  let constants : List (String × Setting) := [("true", .boolean true), ("false", .boolean false), ("None", .nothing),
    ("inf", .real (.infinite false)), ("-inf", .real (.infinite true)), ("NaN", .real .undefined)]
  match constants.findSome? fun (w, v) => (word? w cs).map fun rest => (v, rest) with
  | some found => some found
  | none =>
    match word? "Some" cs, literal? ['(', ')'] cs, name? cs with
    | some rest, _, _ => present? part rest
    | none, some rest, _ => some (.nothing, rest)
    | none, none, some (_, rest) => (next? rest).bind (body? part)
    | none, none, none => marked? part cs

/-- A value, with at most `depth` others around its innermost part. -/
def value? : (depth : Nat) → Scan Setting
  | 0, cs => composite? (fun _ => none) cs
  | depth + 1, cs => composite? (value? depth) cs

/-- How deep values may be nested. -/
def maxDepth : Nat := 128

/-! ## Files -/

/-- The extensions that a file may ask for. They change nothing for settings. -/
def extensions : List String :=
  ["unwrap_newtypes", "implicit_some", "unwrap_variant_newtypes"]

/-- Marks with blanks between them. -/
def marks? : List String → List Char → Option (List Char)
  | [], cs => some cs
  | mark :: more, cs => do
    let cs ← literal? mark.toList (← next? cs)
    marks? more cs

/-- Pass over the lines at the beginning of a file that ask for extensions. The fuel is the length of the text. -/
def dropHeader? : (fuel : Nat) → List Char → Option (List Char)
  | 0, _ => none
  | fuel + 1, cs => do
    match ← next? cs with
    | '#' :: cs =>
      let cs ← marks? ["!", "[", "enable", "("] cs
      let name : Scan String := fun cs => do
        let (name, cs) ← name? cs
        if extensions.contains name then some (name, cs) else none
      let (names, cs) ← enclosed? name ')' cs
      if names.isEmpty then none else dropHeader? fuel (← marks? ["]"] cs)
    | cs => some cs

/-- The entries of a file, which holds one struct or map. -/
def parse? (s : String) : Option (List (String × Setting)) := do
  let cs ← dropHeader? (s.length + 1) s.toList
  let (v, cs) ← value? maxDepth cs
  match v, ← next? cs with
  | .table entries, [] => some entries
  | _, _ => none

end QueueBroker.Ron

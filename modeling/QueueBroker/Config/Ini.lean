import QueueBroker.Config.Setting
import QueueBroker.Text.Blank
import QueueBroker.Text.Escape

/-!
# INI files

Entries `key = value`, one a line, below headings `[name]` that gather them in tables. Every value is a text.
-/

namespace QueueBroker.Ini

/-- What a line of a file says. -/
inductive Line where
  | heading (name : String)
  | entry (key value : String)
deriving DecidableEq, Repr

/-- What a character stands for after a backslash: most stand for themselves. -/
def escaped : Char → List Char
  | '0' => ['\x00']
  | 'a' => ['\x07']
  | 'b' => ['\x08']
  | 't' => ['\t']
  | 'r' => ['\r']
  | 'n' => ['\n']
  | '\n' => []
  | c => [c]

/-- The character whose number four characters spell: hexadecimal digits, the first of which may be a plus. -/
def numbered? (cs : List Char) : Option Char :=
  let ds := match cs with
    | '+' :: ds => ds
    | ds => ds
  (Whole.inBase? 16 ds).bind Escape.codePoint?

/-- The text up to a character that stops it, which is left, or to the end if that may be. -/
def textUntil? (stop : Char → Bool) (mayEnd : Bool) : List Char → Option (List Char × List Char)
  | [] => if mayEnd then some ([], []) else none
  | ['\\'] => none
  | '\\' :: 'x' :: a :: b :: c :: d :: cs => do
    let found ← numbered? [a, b, c, d]
    let (text, rest) ← textUntil? stop mayEnd cs
    some (found :: text, rest)
  | '\\' :: 'x' :: _ => none
  | '\\' :: c :: cs => do
    let (text, rest) ← textUntil? stop mayEnd cs
    some (escaped c ++ text, rest)
  | c :: cs =>
    if stop c then some ([], c :: cs)
    else do
      let (text, rest) ← textUntil? stop mayEnd cs
      some (c :: text, rest)

/-- Whether a character ends a line. -/
def endsLine (c : Char) : Bool :=
  c = '\n' || c = '\r'

/-- A text without the blanks around it. -/
def trimmed (cs : List Char) : String :=
  String.ofList (Blank.trim cs)

/-- The value of an entry, after its mark. Quotes may stand around its beginning. -/
def value? (cs : List Char) : Option (List Char × List Char) :=
  let cs := cs.dropWhile fun c => Blank.isBlank c && !endsLine c
  let quoted (quote : Char) (cs : List Char) : Option (List Char × List Char) := do
    let (head, rest) ← textUntil? (· == quote) false cs
    let (tail, rest) ← textUntil? endsLine true (rest.drop 1)
    some (head ++ tail, rest)
  match cs with
  | '"' :: cs => quoted '"' cs
  | '\'' :: cs => quoted '\'' cs
  | cs => textUntil? endsLine true cs

/-- The lines of a file. The fuel is the length of the text; `column` is false only at the beginning of a line. -/
def lines? : (fuel : Nat) → (column : Bool) → List Char → Option (List Line)
  | _, _, [] => some []
  | 0, _, _ => none
  | fuel + 1, column, c :: cs =>
    if c = '\n' then lines? fuel false cs
    else if Blank.isBlank c then lines? fuel true cs
    else if c = ';' ∨ c = '#' then
      if column then none else lines? fuel true (cs.dropWhile (· != '\n'))
    else if c = '[' then do
      let (name, rest) ← textUntil? (· == ']') false cs
      let more ← lines? fuel true (rest.drop 1)
      some (.heading (trimmed name) :: more)
    else do
      let (key, rest) ← textUntil? (fun c => c = '=' || c = ':') false (c :: cs)
      let (value, rest) ← value? (rest.drop 1)
      let more ← lines? fuel true rest
      if (trimmed key).isEmpty then none else some (.entry (trimmed key) (trimmed value) :: more)

/-- Give a key a value, in place of one that it had. -/
def put {α : Type} (key : String) (value : α) (entries : List (String × α)) : List (String × α) :=
  entries.filter (·.1 != key) ++ [(key, value)]

/-- The entries below a heading, and the lines from the next heading on. -/
def gather : List (String × Setting) → List Line → List (String × Setting) × List Line
  | entries, .entry key value :: lines => gather (put key (.text value) entries) lines
  | entries, lines => (entries, lines)

/-- The tables of some lines. A heading that is repeated begins its table anew. The fuel is the number of lines. -/
def tables : (fuel : Nat) → List (String × Setting) → List Line → List (String × Setting)
  | fuel + 1, entries, .heading name :: lines =>
    let (inner, lines) := gather [] lines
    tables fuel (put name (.table inner) entries) lines
  | _, entries, _ => entries

/-- The entries of a file. -/
def parse? (s : String) : Option (List (String × Setting)) := do
  let lines ← lines? (s.length + 1) false s.toList
  let (entries, lines) := gather [] lines
  some (tables lines.length entries lines)

end QueueBroker.Ini

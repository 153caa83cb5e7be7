/-!
# A place in a YAML text

In YAML the column counts. A cursor is what is left of a text together with the place it begins at. Past the end of the text stands
a zero character, which also ends a text that contains one.
-/

namespace QueueBroker.Yaml

/-! ## Characters -/

/-- The character that stands past the end. -/
def endMark : Char := '\x00'

/-- Whether a character ends a line. -/
def isBreak (c : Char) : Bool :=
  c == '\n' || c == '\r'

/-- Whether a character is a blank inside a line. -/
def isBlank (c : Char) : Bool :=
  c == ' ' || c == '\t'

/-- Whether a line ends before a character. -/
def isOver (c : Char) : Bool :=
  isBreak c || c == endMark

/-- Whether a word ends before a character. -/
def isGap (c : Char) : Bool :=
  isBlank c || isOver c

/-- Whether a character has a meaning of its own in brackets. -/
def isBracketMark (c : Char) : Bool :=
  c == ',' || c == '[' || c == ']' || c == '\x7b' || c == '\x7d'

/-- Whether a character may stand in the names of directives and tags. -/
def isWordChar (c : Char) : Bool :=
  c.isAlphanum || c == '_' || c == '-'

/-! ## Cursors -/

/-- What is left of a text, and where it begins. -/
structure Cursor where
  rest : List Char
  /-- How many characters were passed. -/
  index : Nat := 0
  line : Nat := 0
  column : Nat := 0
  /-- Whether nothing but blanks was passed on the line. -/
  leading : Bool := true
deriving Repr

namespace Cursor

/-- The character at a distance. -/
def peekAt (c : Cursor) (n : Nat) : Char :=
  c.rest.getD n endMark

/-- The next character. -/
def peek (c : Cursor) : Char :=
  c.peekAt 0

/-- Pass over blanks. -/
def passBlanks (n : Nat) (c : Cursor) : Cursor :=
  { c with rest := c.rest.drop n, index := c.index + n, column := c.column + n }

/-- Pass over characters that are more than blanks. -/
def pass (n : Nat) (c : Cursor) : Cursor :=
  { c.passBlanks n with leading := n = 0 && c.leading }

/-- Pass over the end of a line, if it is next. -/
def passBreak (c : Cursor) : Cursor :=
  let newLine (n : Nat) (rest : List Char) : Cursor := ⟨rest, c.index + n, c.line + 1, 0, true⟩
  match c.rest with
  | '\r' :: '\n' :: rest => newLine 2 rest
  | '\r' :: rest => newLine 1 rest
  | '\n' :: rest => newLine 1 rest
  | _ => c

/-- The characters up to the first that `stop` or the end holds off. -/
def upTo (stop : Char → Bool) (c : Cursor) : List Char :=
  c.rest.takeWhile fun ch => !stop ch && ch != endMark

/-- Pass over the rest of a line. -/
def passLine (c : Cursor) : Cursor :=
  c.pass (c.upTo isOver).length

/-- Whether three characters and then a gap are next. -/
def isTriple (mark : Char) (c : Cursor) : Bool :=
  c.peek == mark && c.peekAt 1 == mark && c.peekAt 2 == mark && isGap (c.peekAt 3)

/-- Whether a line that begins or ends a document is next. -/
def isDocumentMark (c : Cursor) : Bool :=
  c.column == 0 && (c.isTriple '-' || c.isTriple '.')

/-- What blanks stood before the next thing on a line. -/
structure Gap where
  tab : Bool
  space : Bool

/-- Pass over blanks, tabs among them if `tabs`, and over a comment, which must have a blank before it. -/
def gap? (tabs : Bool) (c : Cursor) : Option (Gap × Cursor) :=
  let blanks := c.rest.takeWhile fun ch => ch == ' ' || (tabs && ch == '\t')
  let found : Gap := ⟨blanks.contains '\t', blanks.contains ' '⟩
  let c := c.passBlanks blanks.length
  if c.peek != '#' then some (found, c)
  else if blanks.isEmpty then none
  else some (found, c.passLine)

/-- Pass over blanks and a comment up to the end of a line. -/
def toLineEnd? (c : Cursor) : Option Cursor := do
  let (_, c) ← c.gap? true
  if isOver c.peek then some c else none

end Cursor

end QueueBroker.Yaml

import QueueBroker.Config.Yaml.Cursor
import QueueBroker.Text.Escape

/-!
# YAML scalars

Reading texts: quoted ones, plain ones, and those written as a block of lines. Where a text goes on on another line, the end of a
line becomes a space, and an empty line becomes the end of a line; in a block it may keep its lines.
-/

namespace QueueBroker.Yaml

/-- The characters of some ends of lines. -/
def breaks (n : Nat) : List Char :=
  List.replicate n '\n'

/-- What ends of lines inside a text stand for: a space for one, and one less for several. -/
def folded (n : Nat) : List Char :=
  if n = 1 then [' '] else breaks (n - 1)

/-! ## Quoted texts -/

/-- What a character stands for after a backslash. -/
def escaped? : Char → Option Char
  | '0' => some '\x00'
  | 'a' => some '\x07'
  | 'b' => some '\x08'
  | 't' => some '\t'
  | '\t' => some '\t'
  | 'n' => some '\n'
  | 'v' => some '\x0b'
  | 'f' => some '\x0c'
  | 'r' => some '\r'
  | 'e' => some '\x1b'
  | ' ' => some ' '
  | '"' => some '"'
  | '/' => some '/'
  | '\\' => some '\\'
  | 'N' => some '\u0085'
  | '_' => some '\u00a0'
  | 'L' => some '\u2028'
  | 'P' => some '\u2029'
  | _ => none

/-- How many digits the number of a character has after its mark. -/
def numberLength? : Char → Option Nat
  | 'x' => some 2
  | 'u' => some 4
  | 'U' => some 8
  | _ => none

/-- The character of an escape, its backslash being next. -/
def escape? (c : Cursor) : Option (Char × Cursor) :=
  match numberLength? (c.peekAt 1) with
  | none => (escaped? (c.peekAt 1)).map fun ch => (ch, c.pass 2)
  | some n => (Escape.character? n (c.rest.drop 2)).map fun (ch, _) => (ch, c.pass (n + 2))

/-- A run of characters without gaps in a text between quotes. It ends at a gap, at the quote, or after an end of line that is
taken back, which is told. The fuel is more than the length of the text. -/
def quotedRun? (quote : Char) : (fuel : Nat) → (read : List Char) → Cursor → Option (List Char × Bool × Cursor)
  | 0, _, _ => none
  | fuel + 1, read, c =>
    let ch := c.peek
    if isGap ch then some (read, false, c)
    else if quote = '\'' then
      if ch = '\'' then
        if c.peekAt 1 = '\'' then quotedRun? quote fuel ('\'' :: read) (c.pass 2) else some (read, false, c)
      else quotedRun? quote fuel (ch :: read) (c.pass 1)
    else if ch = '"' then some (read, false, c)
    else if ch = '\\' then
      if isBreak (c.peekAt 1) then some (read, true, (c.pass 1).passBreak)
      else do
        let (found, c) ← escape? c
        quotedRun? quote fuel (found :: read) c
    else quotedRun? quote fuel (ch :: read) (c.pass 1)

/-- The gap after a run: its blanks, last first, and its ends of lines, if there are any. `taken` says that an end of line was
taken back before. Blanks at the beginning of a line do not count; a tab must not stand where a line is indented. -/
def quotedGap? (indent : Int) (taken : Bool) : (fuel : Nat) → (blanks : List Char) → (lines : Nat) → Cursor →
    Option (List Char × Nat × Cursor)
  | 0, _, _, _ => none
  | fuel + 1, blanks, lines, c =>
    let ch := c.peek
    if isBreak ch then quotedGap? indent taken fuel [] (lines + 1) c.passBreak
    else if isBlank ch then
      if taken || lines ≠ 0 then
        if ch = '\t' ∧ (c.column : Int) < indent then none
        else quotedGap? indent taken fuel blanks lines (c.passBlanks 1)
      else quotedGap? indent taken fuel (ch :: blanks) lines (c.passBlanks 1)
    else some (blanks, lines, c)

/-- The rest of a text between quotes; `read` holds the characters before, last first. The fuel is more than the length of the
text. -/
def quotedRest? (quote : Char) (indent : Int) : (fuel : Nat) → (read : List Char) → Cursor → Option (List Char × Cursor)
  | 0, _, _ => none
  | fuel + 1, read, c =>
    if c.isDocumentMark || c.peek == endMark || (c.column : Int) < indent then none
    else do
      let (read, taken, c) ← quotedRun? quote (c.rest.length + 1) read c
      if c.peek = quote then some (read.reverse, c.pass 1)
      else
        let (blanks, lines, c) ← quotedGap? indent taken (c.rest.length + 1) [] 0 c
        let gap :=
          if taken then breaks lines
          else if lines ≠ 0 then folded lines
          else blanks
        quotedRest? quote indent fuel (gap ++ read) c

/-- A text between quotes, the first of which is next. What follows on its line must be able to follow a text: the end of the
line, a colon after a text on one line, or a mark of the brackets around it. -/
def quoted? (indent : Int) (inBrackets : Bool) (c : Cursor) : Option (String × Cursor) := do
  let line := c.line
  let (text, c) ← quotedRest? c.peek indent (c.rest.length + 1) [] (c.pass 1)
  let (_, c) ← c.gap? true
  let ch := c.peek
  let mayFollow :=
    isOver ch || (inBrackets && (ch == ',' || ch == '\x7d' || ch == ']')) || (ch == ':' && (inBrackets || line == c.line))
  if mayFollow then some (String.ofList text, c) else none

/-! ## Plain texts -/

/-- The characters that a run of a plain text takes: up to a gap, a colon before one, or a mark that counts in brackets. -/
def plainRun (inBrackets : Bool) : List Char → List Char
  | [] => []
  | ch :: rest =>
    let next := rest.headD endMark
    if isGap ch || (ch == ':' && (isGap next || (inBrackets && isBracketMark next))) || (inBrackets && isBracketMark ch) then []
    else ch :: plainRun inBrackets rest

/-- The gap after a run: its blanks, last first, and its ends of lines. Blanks at the beginning of a line do not count; tabs must
not indent a line that says something. -/
def plainGap? (indent : Int) : (fuel : Nat) → (blanks : List Char) → (lines : Nat) → Cursor → Option (List Char × Nat × Cursor)
  | 0, _, _, _ => none
  | fuel + 1, blanks, lines, c =>
    let ch := c.peek
    if isBreak ch then plainGap? indent fuel [] (lines + 1) c.passBreak
    else if isBlank ch then
      if lines = 0 then plainGap? indent fuel (ch :: blanks) lines (c.passBlanks 1)
      else if ch = '\t' ∧ (c.column : Int) < indent then do
        let c ← c.toLineEnd?
        plainGap? indent fuel blanks lines c
      else plainGap? indent fuel blanks lines (c.passBlanks 1)
    else some (blanks, lines, c)

/-- The rest of a plain text; `read` holds what stands before, last character first, with the gap before the next run as `gap`.
Outside brackets the text ends where a line is not indented as far as `indent`. The fuel is more than the length of the text. -/
def plainRest? (inBrackets : Bool) (indent : Int) : (fuel : Nat) → (read gap : List Char) → Cursor → Option (List Char × Cursor)
  | 0, _, _, _ => none
  | fuel + 1, read, gap, c =>
    if c.isDocumentMark || c.peek == '#' then some (read.reverse, c)
    else if inBrackets && c.peek == '-' && isBracketMark (c.peekAt 1) then none
    else
      let run := plainRun inBrackets c.rest
      if run.isEmpty then some (read.reverse, c)
      else
        let read := run.reverse ++ (gap ++ read)
        let c := c.pass run.length
        if isBlank c.peek || isBreak c.peek then do
          let (blanks, lines, c) ← plainGap? indent (c.rest.length + 1) [] 0 c
          if !inBrackets && (c.column : Int) < indent then some (read.reverse, c)
          else plainRest? inBrackets indent fuel read (if lines = 0 then blanks else folded lines) c
        else some (read.reverse, c)

/-- A plain text. In brackets it must be indented as well. -/
def plain? (inBrackets : Bool) (indent : Int) (c : Cursor) : Option (String × Cursor) :=
  if inBrackets ∧ (c.column : Int) < indent then none
  else (plainRest? inBrackets indent (c.rest.length + 1) [] [] c).map fun (text, c) => (String.ofList text, c)

/-! ## Blocks of lines -/

/-- What becomes of the ends of lines at the end of a block. -/
inductive Chomping where
  | strip
  | clip
  | keep
deriving DecidableEq, Repr

/-- What the head of a block says: what becomes of its end, and how far it is indented, if it says so. -/
structure BlockHead where
  chomping : Chomping := .clip
  increment : Nat := 0

/-- The chomping that a mark asks for. -/
def chomping? : Char → Option Chomping
  | '+' => some .keep
  | '-' => some .strip
  | _ => none

/-- The head of a block after its mark. -/
def blockHead? (c : Cursor) : Option (BlockHead × Cursor) :=
  let digit? (c : Cursor) : Option (Nat × Cursor) :=
    if !c.peek.isDigit then some (0, c)
    else if c.peek = '0' then none
    else some (c.peek.toNat - '0'.toNat, c.pass 1)
  match chomping? c.peek with
  | some chomping => (digit? (c.pass 1)).map fun (increment, c) => (⟨chomping, increment⟩, c)
  | none => do
    let (increment, c) ← digit? c
    match chomping? c.peek with
    | some chomping => some (⟨chomping, increment⟩, c.pass 1)
    | none => some (⟨.clip, increment⟩, c)

/-- Pass over the indentation of a block, and over empty lines, which are counted. The fuel is more than the length of the text. -/
def blockIndent (indent : Nat) : (fuel : Nat) → (lines : Nat) → Cursor → Nat × Cursor
  | 0, lines, c => (lines, c)
  | fuel + 1, lines, c =>
    let blanks := (c.rest.take (indent - c.column)).takeWhile (· == ' ')
    let c := c.passBlanks blanks.length
    if isBreak c.peek then blockIndent indent fuel (lines + 1) c.passBreak else (lines, c)

/-- Find the indentation of a block: that of its first line that is not empty, or of a longer empty line before. Empty lines are
counted. The fuel is more than the length of the text. -/
def blockFirst : (fuel : Nat) → (widest lines : Nat) → Cursor → Nat × Nat × Cursor
  | 0, widest, lines, c => (widest, lines, c)
  | fuel + 1, widest, lines, c =>
    let c := c.passBlanks (c.rest.takeWhile (· == ' ')).length
    let widest := max widest c.column
    if isBreak c.peek then blockFirst fuel widest (lines + 1) c.passBreak else (widest, lines, c)

/-- A block as far as it was read. -/
structure Block where
  /-- The characters, last first. -/
  read : List Char := []
  /-- Whether a line was read that ended. -/
  ended : Bool := false
  /-- The empty lines after that. -/
  empty : Nat
  /-- Whether the last line began with a blank. -/
  indented : Bool := false

/-- The lines of a block from the first on. The fuel is more than the length of the text. -/
def blockLines (literal : Bool) (indent : Nat) : (fuel : Nat) → Block → Cursor → Block × Cursor
  | 0, b, c => (b, c)
  | fuel + 1, b, c =>
    if c.column ≠ indent ∨ c.peek = endMark ∨ c.isDocumentMark then (b, c)
    else
      let blank := isBlank c.peek
      let gap :=
        if !literal && b.ended && !b.indented && !blank then folded (b.empty + 1)
        else breaks (b.empty + b.ended.toNat)
      let line := c.upTo isOver
      let read := line.reverse ++ (gap ++ b.read)
      let c := c.passBlanks line.length
      if c.peek = endMark then (⟨read, false, 0, blank⟩, c)
      else
        let (empty, c) := blockIndent indent (c.rest.length + 1) 0 c.passBreak
        blockLines literal indent fuel ⟨read, true, empty, blank⟩ c

/-- The text of a block without any lines, before the end of a file. -/
def emptyBlock (chomping : Chomping) (broken sameLine : Bool) (empty : Nat) : List Char :=
  match chomping with
  | .strip => []
  | .clip => if sameLine then [] else breaks broken.toNat
  | .keep => if sameLine then [] else if empty = 0 then breaks broken.toNat else breaks empty

/-- A text written as a block of lines, its mark being next, inside a collection that is indented as far as `outer`. -/
def block? (literal : Bool) (outer : Int) (c : Cursor) : Option (String × Cursor) := do
  let line := c.line
  let (head, c) ← blockHead? (c.pass 1)
  let c ← c.toLineEnd?
  let broken := isBreak c.peek
  let c := c.passBreak
  if c.peek = '\t' then none
  else
    let fuel := c.rest.length + 1
    let (indent, empty, c) :=
      if head.increment = 0 then
        let (widest, empty, c) := blockFirst fuel 0 0 c
        let indent := max widest (outer + 1).toNat
        (if 0 < outer then max indent 1 else indent, empty, c)
      else
        let indent := if 0 ≤ outer then outer.toNat + head.increment else head.increment
        let (empty, c) := blockIndent indent fuel 0 c
        (indent, empty, c)
    if c.peek = endMark then some (String.ofList (emptyBlock head.chomping broken (line == c.line) empty), c)
    else if c.column < indent ∧ outer < c.column then none
    else
      let (b, c) := blockLines literal indent fuel { empty } c
      let last :=
        if head.chomping = .strip then []
        else breaks (b.ended.toNat + (c.peek == endMark && max indent 1 ≤ c.column).toNat)
      let tail := if head.chomping = .keep then breaks b.empty else []
      some (String.ofList (b.read.reverse ++ last ++ tail), c)

end QueueBroker.Yaml

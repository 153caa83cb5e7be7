import QueueBroker.Config.Yaml.Scalar
import QueueBroker.Config.Yaml.Token

/-!
# The tokens of a YAML text

Two things make YAML more than a list of marks. Indentation opens and closes collections, so the lexer keeps the columns of those
that are open. And a key shows only by the colon after it, so each thing that may turn out to be a key is remembered as a
candidate, with the number of its token: when the colon comes, the tokens that announce the key are put in before it.
-/

namespace QueueBroker.Yaml

/-- Something that may be a key. -/
structure Candidate where
  possible : Bool := false
  /-- Whether nothing else than a key may stand at its place. -/
  required : Bool := false
  /-- The number of its first token. -/
  place : Nat := 0
  index : Nat := 0
  line : Nat := 0
  column : Nat := 0

/-- A level of indentation inside another. -/
structure Level where
  /-- The column of the level outside. -/
  outside : Int
  /-- Whether a collection is open at this level. A level without one asks what comes next to be indented further. -/
  isCollection : Bool

/-- How far a text was read. -/
structure Lexer where
  cursor : Cursor
  tokens : Array Token := #[]
  /-- The column of an anchor or tag that is the last token. -/
  property : Option Nat := none
  /-- Whether a key may come next. -/
  keyAllowed : Bool := true
  /-- The candidates inside each bracket that is open and outside all of them, innermost first. -/
  candidates : List Candidate := [{}]
  /-- The column of the innermost level; none is open at `-1`. -/
  indent : Int := -1
  levels : List Level := []
  /-- How many brackets are open. -/
  depth : Nat := 0
  /-- Where a colon needs no blank after it, since it follows a quoted text or a bracket. -/
  adjacent : Option Nat := none
  /-- Whether a colon in brackets belongs to a mapping that was begun. -/
  mappingBegun : Bool := false
  /-- For each open square bracket whether a mapping without brackets is open in it, innermost first. -/
  bareMappings : List Bool := []

/-- Something that reads a part of a text. -/
abbrev Lexing := StateT Lexer Option

namespace Lexing

variable {α : Type}

/-- Refuse the text. -/
def refuse : Lexing α := fun _ => none

/-- Refuse the text unless something holds. -/
def demand (holds : Bool) : Lexing Unit :=
  if holds then pure () else refuse

/-- Move the cursor. -/
def move (step : Cursor → Cursor) : Lexing Unit :=
  modify fun l => { l with cursor := step l.cursor }

/-- Read at the cursor. -/
def scan (read : Cursor → Option (α × Cursor)) : Lexing α := fun l => do
  let (a, c) ← read l.cursor
  some (a, { l with cursor := c })

/-- Pass over the blanks and the comment after a mark. -/
def passGap : Lexing Cursor.Gap :=
  scan (Cursor.gap? true)

/-- Add a token. -/
def push (t : Token) : Lexing Unit :=
  modify fun l => { l with tokens := l.tokens.push t, property := none }

/-- Put in a token before one that is there. -/
def insert (place : Nat) (t : Token) : Lexing Unit :=
  modify fun l => { l with tokens := l.tokens.insertIdxIfInBounds place t, property := none }

/-- Say whether a key may come next. -/
def allowKey (allowed : Bool) : Lexing Unit :=
  modify fun l => { l with keyAllowed := allowed }

/-! ## Levels -/

/-- Leave the levels further in than a column: how many collections end, the column reached, and the levels left. -/
def leave (column : Int) : (indent : Int) → List Level → Nat × Int × List Level
  | indent, [] => (0, indent, [])
  | indent, level :: levels =>
    if column < indent then
      let (ended, indent, levels) := leave column level.outside levels
      (ended + level.isCollection.toNat, indent, levels)
    else (0, indent, level :: levels)

/-- End the collections that are indented further than a column. In brackets indentation does not count. -/
def dedent (column : Int) : Lexing Unit := do
  let l ← get
  if l.depth = 0 then
    let (ended, indent, levels) := leave column l.indent l.levels
    set { l with indent, levels }
    (List.replicate ended Token.dedent).forM push

/-- Begin a collection at a column, unless one is open there; its token comes last or before the token with number `place`. -/
def openCollection (column : Nat) (place : Option Nat) (t : Token) : Lexing Unit := do
  let l ← get
  if l.depth = 0 then
    let (indent, levels) := match l.levels with
      | level :: levels =>
        if l.indent ≤ column ∧ !level.isCollection then (level.outside, levels) else (l.indent, level :: levels)
      | [] => (l.indent, [])
    if indent < column then
      set { l with indent := (column : Int), levels := ⟨indent, true⟩ :: levels }
      match place with
      | some n => insert n t
      | none => push t
    else set { l with indent, levels }

/-- Ask what comes next to be indented further than the collection it is in. -/
def indentFurther : Lexing Unit :=
  modify fun l =>
    if l.depth = 0 ∧ l.levels.head?.any (·.isCollection) then
      { l with indent := l.indent + 1, levels := ⟨l.indent, false⟩ :: l.levels }
    else l

/-- Leave the levels without collections: the column reached, and the levels left. -/
def leaveBare : (indent : Int) → List Level → Int × List Level
  | indent, [] => (indent, [])
  | indent, level :: levels => if level.isCollection then (indent, level :: levels) else leaveBare level.outside levels

/-- No longer ask what comes next to be indented further. -/
def forgetIndent : Lexing Unit :=
  modify fun l =>
    let (indent, levels) := leaveBare l.indent l.levels
    { l with indent, levels }

/-! ## Candidates -/

/-- Remember that what comes next may be a key. -/
def saveCandidate : Lexing Unit :=
  modify fun l =>
    let c := l.cursor
    let required := l.depth = 0 && l.indent == c.column && l.levels.head?.any (·.isCollection)
    if l.keyAllowed then
      { l with candidates := ⟨true, required, l.tokens.size, c.index, c.line, c.column⟩ :: l.candidates.tail }
    else l

/-- Forget the innermost candidate, which must not have been required. -/
def dropCandidate : Lexing Unit := do
  let l ← get
  match l.candidates with
  | k :: candidates =>
    demand !(k.possible && k.required)
    set { l with candidates := { k with possible := false } :: candidates }
  | [] => pure ()

/-- How far a key may be from its colon. -/
def maxKeyLength : Nat := 1024

/-- Forget the candidates that are too far behind: outside brackets a key is on one line, and not too long. -/
def dropStale : Lexing Unit := do
  let l ← get
  let isStale (k : Candidate) : Bool :=
    k.possible && l.depth == 0 && (k.line < l.cursor.line || k.index + maxKeyLength < l.cursor.index)
  demand !(l.candidates.any fun k => isStale k && k.required)
  set { l with candidates := l.candidates.map fun k => if isStale k then { k with possible := false } else k }

/-! ## Between tokens -/

/-- Pass over blanks, comments and ends of lines. A tab must not stand where a line that says something is indented. The fuel is
more than the length of the text. -/
def passGaps : (fuel : Nat) → Lexing Unit
  | 0 => refuse
  | fuel + 1 => do
    let l ← get
    let c := l.cursor
    let ch := c.peek
    if ch = '\t' ∧ c.leading ∧ !l.levels.isEmpty ∧ (c.column : Int) < l.indent then
      scan fun c => c.toLineEnd?.map (((), ·))
      passGaps fuel
    else if isBlank ch then
      move (·.passBlanks 1)
      passGaps fuel
    else if isBreak ch then
      set { l with cursor := c.passBreak, keyAllowed := l.keyAllowed || l.depth == 0 }
      passGaps fuel
    else if ch = '#' then
      move (·.passLine)
      passGaps fuel
    else pure ()

/-- Pass over the gap before the next token. -/
def passToToken : Lexing Unit := do
  passGaps ((← get).cursor.rest.length + 1)

/-! ## Directives and documents -/

/-- Leave all collections, as what begins or ends a document does. -/
def leaveAll : Lexing Unit := do
  dedent (-1)
  dropCandidate
  allowKey false

/-- A line of three marks that begins or ends a document. -/
def documentMark (t : Token) : Lexing Unit := do
  leaveAll
  move (·.pass 3)
  push t

/-- Up to nine digits of a version. -/
def versionNumber : Lexing Unit := do
  let ds := (← get).cursor.upTo fun ch => !ch.isDigit
  demand (!ds.isEmpty && ds.length ≤ 9)
  move (·.pass ds.length)

/-- Pass over blanks inside a line. -/
def passBlanks : Lexing Unit :=
  move fun c => c.passBlanks (c.upTo (!isBlank ·)).length

/-- Take a character, if it is one that is expected. -/
def take (expected : Char) : Lexing Unit := do
  demand ((← get).cursor.peek == expected)
  move (·.pass 1)

/-- Take the characters up to the first of another kind. -/
def takeWhile (isKind : Char → Bool) : Lexing String := do
  let taken := (← get).cursor.upTo (!isKind ·)
  move (·.pass taken.length)
  pure (String.ofList taken)

/-! ## Tags -/

/-- Whether a character may stand in an address. -/
def isAddressChar (c : Char) : Bool :=
  c.isAlphanum || c == '-' || "#;/?:@&=+$,_.!~*'()[]%".toList.contains c

/-- Whether a character may stand in a tag. -/
def isTagChar (c : Char) : Bool :=
  isAddressChar c && !isBracketMark c && c != '!'

/-- The byte that a percent sign and two digits spell. -/
def escapedByte : Lexing Nat := do
  take '%'
  let ds := (← get).cursor.rest.take 2
  match if ds.length = 2 then Whole.inBase? 16 ds else none with
  | some n =>
    move (·.pass 2)
    pure n
  | none => refuse

/-- More bytes of a character, put behind those before as they are. -/
def moreBytes : (count : Nat) → (code : Nat) → Lexing Nat
  | 0, code => pure code
  | count + 1, code => do
    let byte ← escapedByte
    demand (0x80 ≤ byte && byte < 0xC0)
    moreBytes count (code * 0x100 + byte)

/-- The character that escaped bytes spell. -/
def escapedChar : Lexing Char := do
  let byte ← escapedByte
  let count ←
    if byte < 0x80 then pure 0
    else if 0xC0 ≤ byte ∧ byte < 0xE0 then pure 1
    else if 0xE0 ≤ byte ∧ byte < 0xF0 then pure 2
    else if 0xF0 ≤ byte ∧ byte < 0xF8 then pure 3
    else refuse
  match Escape.codePoint? (← moreBytes count byte) with
  | some ch => pure ch
  | none => refuse

/-- The characters of an address as far as they are of a kind; `read` holds those before, last first. The fuel is more than the
length of the text. -/
def address (isKind : Char → Bool) : (fuel : Nat) → (read : List Char) → Lexing String
  | 0, _ => refuse
  | fuel + 1, read => do
    let ch := (← get).cursor.peek
    if !isKind ch then pure (String.ofList read.reverse)
    else if ch = '%' then
      let ch ← escapedChar
      address isKind fuel (ch :: read)
    else
      move (·.pass 1)
      address isKind fuel (ch :: read)

/-- The characters of an address as far as they are of a kind. -/
def addressOf (isKind : Char → Bool) : Lexing String := do
  address isKind ((← get).cursor.rest.length + 1) []

/-- The handle of a tag: a mark, or a word between two. In a directive it has no other form. -/
def tagHandle (isDirective : Bool) : Lexing String := do
  take '!'
  let word ← takeWhile isWordChar
  if (← get).cursor.peek = '!' then
    move (·.pass 1)
    pure ("!" ++ word ++ "!")
  else
    demand (!isDirective || word.isEmpty)
    pure ("!" ++ word)

/-- What tags with a handle begin with. -/
def tagStart : Lexing String := do
  let ch := (← get).cursor.peek
  demand (ch == '!' || isTagChar ch)
  if ch = '!' then
    move (·.pass 1)
    let rest ← addressOf isAddressChar
    pure ("!" ++ rest)
  else addressOf isAddressChar

/-- A tag. One that is written in full has no handle, and one that is only a mark neither. -/
def tag : Lexing Unit := do
  saveCandidate
  allowKey false
  let l ← get
  let t ←
    if l.cursor.peekAt 1 = '<' then do
      move (·.pass 2)
      let rest ← addressOf isAddressChar
      take '>'
      pure (Token.tag "" rest)
    else do
      let handle ← tagHandle false
      let rest ← addressOf isTagChar
      if 2 ≤ handle.length ∧ handle.endsWith "!" then
        demand !rest.isEmpty
        pure (.tag handle rest)
      else
        let rest := String.ofList (handle.toList.drop 1) ++ rest
        pure (if rest.isEmpty then .tag "" "!" else .tag "!" rest)
  let ch := (← get).cursor.peek
  demand (isGap ch || (l.depth != 0 && isBracketMark ch))
  push t
  modify fun now => { now with property := some l.cursor.column }

/-- A directive. -/
def directive : Lexing Unit := do
  leaveAll
  move (·.pass 1)
  let name ← takeWhile isWordChar
  demand (!name.isEmpty && isGap (← get).cursor.peek)
  let t ←
    if name = "YAML" then do
      passBlanks
      versionNumber
      take '.'
      versionNumber
      pure Token.version
    else if name = "TAG" then do
      passBlanks
      let handle ← tagHandle true
      passBlanks
      let start ← tagStart
      demand (isGap (← get).cursor.peek)
      pure (.handle handle start)
    else do
      move (·.passLine)
      pure (.handle "" "")
  scan fun c => c.toLineEnd?.map (((), ·))
  move (·.passBreak)
  push t

/-! ## Names and scalars -/

/-- Whether a character may stand in the name of an anchor. -/
def isAnchorChar (c : Char) : Bool :=
  !isGap c && c != '\uFEFF' && !isBracketMark c

/-- A name after its mark: of an anchor, or an alias for what has that anchor. -/
def name (isAlias : Bool) : Lexing Unit := do
  saveCandidate
  allowKey false
  let column := (← get).cursor.column
  move (·.pass 1)
  let word ← takeWhile isAnchorChar
  demand !word.isEmpty
  if isAlias then push (.alias word)
  else
    push (.anchor word)
    modify fun l => { l with property := some column }

/-- A text between quotes. -/
def quoted : Lexing Unit := do
  saveCandidate
  allowKey false
  let l ← get
  let text ← scan (quoted? l.indent (l.depth != 0))
  passToToken
  modify fun l => { l with adjacent := some l.cursor.index }
  push (.scalar false text)

/-- A text as a block of lines. -/
def block (literal : Bool) : Lexing Unit := do
  saveCandidate
  allowKey true
  forgetIndent
  let text ← scan (block? literal (← get).indent)
  push (.scalar false text)

/-- A plain text. When it ends on a line of its own, a key may come next. -/
def plain : Lexing Unit := do
  saveCandidate
  allowKey false
  forgetIndent
  let l ← get
  let text ← scan (plain? (l.depth != 0) (l.indent + 1))
  modify fun l => { l with keyAllowed := l.keyAllowed || l.cursor.leading }
  push (.scalar true text)

/-! ## Marks in brackets -/

/-- How many brackets may be open. -/
def maxBrackets : Nat := 255

/-- An opening bracket. -/
def openBracket (t : Token) : Lexing Unit := do
  saveCandidate
  indentFurther
  let l ← get
  demand (l.depth < maxBrackets)
  set { l with
    candidates := {} :: l.candidates
    depth := l.depth + 1
    keyAllowed := true
    cursor := l.cursor.pass 1
    mappingBegun := l.mappingBegun || t == Token.openMapping
    bareMappings := if t = Token.openSequence then false :: l.bareMappings else l.bareMappings }
  let _ ← passGap
  push t

/-- End the mapping without brackets in the innermost square bracket, if one is open. -/
def endBareMapping : Lexing Unit := do
  let l ← get
  match l.bareMappings with
  | true :: outer =>
    set { l with mappingBegun := false, bareMappings := false :: outer }
    push .closeMapping
  | _ => pure ()

/-- A closing bracket. -/
def closeBracket (t : Token) : Lexing Unit := do
  dropCandidate
  modify fun l => if l.depth = 0 then l else { l with depth := l.depth - 1, candidates := l.candidates.tail }
  allowKey false
  if t = Token.closeSequence then
    endBareMapping
    modify fun l => { l with bareMappings := l.bareMappings.tail }
  move (·.pass 1)
  let _ ← passGap
  modify fun l => if l.depth = 0 then l else { l with adjacent := some l.cursor.index }
  push t

/-- A comma. -/
def comma : Lexing Unit := do
  dropCandidate
  allowKey true
  endBareMapping
  move (·.pass 1)
  let _ ← passGap
  push .comma

/-! ## Marks of items, keys and values -/

/-- The dash of an item. -/
def dash : Lexing Unit := do
  let l ← get
  let misplaced := l.cursor.column = 0 && l.property == some 0 && -1 < l.indent
  demand (l.depth = 0 && l.keyAllowed && !misplaced)
  move (·.pass 1)
  openCollection l.cursor.column none .sequence
  let gap ← passGap
  let c := (← get).cursor
  demand !(gap.tab && c.peek == '-' && isGap (c.peekAt 1))
  if isBreak c.peek || isBracketMark c.peek then indentFurther
  dropCandidate
  allowKey true
  push .dash

/-- Pass over the gap after the mark of a key, which must not be empty or end in a tab. The fuel is more than the length of the
text. -/
def passKeyGap : (fuel : Nat) → (found : Bool) → Lexing Unit
  | 0, _ => refuse
  | fuel + 1, found => do
    let l ← get
    let ch := l.cursor.peek
    if ch = ' ' then
      move (·.passBlanks 1)
      passKeyGap fuel true
    else if isBreak ch then
      set { l with cursor := l.cursor.passBreak, keyAllowed := l.keyAllowed || l.depth == 0 }
      passKeyGap fuel true
    else if ch = '#' then
      move (·.passLine)
      passKeyGap fuel found
    else demand (found && ch != '\t')

/-- The mark of a key. -/
def keyMark : Lexing Unit := do
  let l ← get
  if l.depth = 0 then
    demand l.keyAllowed
    openCollection l.cursor.column none .mapping
  else set { l with mappingBegun := true }
  dropCandidate
  allowKey (l.depth == 0)
  move (·.pass 1)
  passKeyGap ((← get).cursor.rest.length + 1) false
  push .key

/-- The colon before a value. The candidate there is turns out to be a key; without one, the key had a mark of its own or is
empty. -/
def colon : Lexing Unit := do
  let l ← get
  let bare := !l.bareMappings.isEmpty && !l.mappingBegun
  if bare then modify fun l => { l with bareMappings := true :: l.bareMappings.tail }
  move (·.pass 1)
  if (← get).cursor.peek = '\t' then
    let gap ← passGap
    let ch := (← get).cursor.peek
    demand (gap.space || !isWordChar ch)
  match l.candidates with
  | k :: candidates =>
    if k.possible then
      insert k.place .key
      if bare then
        demand (l.cursor.line ≤ k.line)
        insert k.place .openMapping
      openCollection k.column (some k.place) .mapping
      indentFurther
      modify fun l => { l with candidates := { k with possible := false } :: candidates }
      allowKey false
    else
      if bare then push .openMapping
      if l.depth = 0 then
        demand l.keyAllowed
        openCollection l.cursor.column none .mapping
      indentFurther
      allowKey (l.depth == 0)
  | [] => refuse
  push .value

/-! ## The whole text -/

/-- What a text ends with. -/
def finish : Lexing Unit := do
  let l ← get
  demand !(l.candidates.any fun k => k.required && k.possible)
  dedent (-1)

/-- Read the token that begins at the cursor. -/
def tokenAt (c : Cursor) (inBrackets adjacent : Bool) : Lexing Unit :=
  let ch := c.peek
  let next := c.peekAt 1
  if ch = '[' then openBracket .openSequence
  else if ch = '\x7b' then openBracket .openMapping
  else if ch = ']' then closeBracket .closeSequence
  else if ch = '\x7d' then closeBracket .closeMapping
  else if ch = ',' then comma
  else if ch = '-' ∧ isGap next then dash
  else if ch = '?' ∧ isGap next then keyMark
  else if ch = ':' ∧ (isGap next ∨ (inBrackets ∧ (isBracketMark next ∨ adjacent))) then colon
  else if ch = '*' then name true
  else if ch = '&' then name false
  else if ch = '!' then tag
  else if ch = '|' ∧ !inBrackets then block true
  else if ch = '>' ∧ !inBrackets then block false
  else if ch = '\'' ∨ ch = '"' then quoted
  else if ch = '%' ∨ ch = '@' ∨ ch = '\x60' then refuse
  else plain

/-- Read the next token, if there is one. -/
def step : Lexing Bool := do
  passToToken
  dropStale
  let c := (← get).cursor
  dedent c.column
  if c.peek = endMark then
    finish
    pure false
  else
    if c.column = 0 ∧ c.peek = '%' then directive
    else if c.column = 0 ∧ c.isTriple '-' then documentMark .documentStart
    else if c.column = 0 ∧ c.isTriple '.' then do
      documentMark .documentEnd
      scan fun c => c.toLineEnd?.map (((), ·))
    else do
      let l ← get
      demand (l.indent ≤ c.column)
      tokenAt c (l.depth != 0) (l.adjacent == some c.index)
    pure true

/-- Read tokens to the end. The fuel is more than the length of the text, of which each token takes some. -/
def run : (fuel : Nat) → Lexing Unit
  | 0 => refuse
  | fuel + 1 => do
    if ← step then run fuel

end Lexing

/-- The tokens of a text. -/
def tokens? (s : String) : Option (List Token) :=
  match (Lexing.run (s.length + 2)) { cursor := { rest := s.toList } } with
  | some (_, l) => some l.tokens.toList
  | none => none

end QueueBroker.Yaml

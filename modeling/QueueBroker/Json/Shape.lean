import QueueBroker.Json.Skip

/-!
# Shapes of documents

A shape says what a document is expected to look like. `Shape.read` reads text of a shape, so that a fault is reported with its
place; `Shape.conform` checks a document that was read before. Both give the document that the shape stands for: fields in the
order of the shape, defaults filled in, unknown fields left out.
-/

namespace QueueBroker.Json

/-- What a document is expected to look like. -/
inductive Shape where
  /-- Any document, taken in canonical form. -/
  | any
  /-- A string, called `expected` where something else stands. -/
  | text (expected : String)
  /-- A string of one character. -/
  | character
  /-- A truth value. -/
  | boolean
  /-- Nothing: `null`. -/
  | nothing (expected : String)
  /-- An integer from `low` to `high`, called `expected`. -/
  | integer (low high : Int) (expected : String)
  /-- A real number; integers are rounded to it. -/
  | real (expected : String)
  /-- One of some names, alone or as the name of an object with one `null` member. -/
  | choice (names : List String)
  /-- A list of documents of one shape. -/
  | list (item : Shape)
  /-- A list of as many documents as there are shapes. -/
  | tuple (items : List Shape)
  /-- An object whose values are of one shape, taken with the names sorted. -/
  | dictionary (value : Shape)
  /-- A document of a shape, or `null`. -/
  | optional (shape : Shape)
  /-- The named fields of a `struct` called `title`, as an object or as a list in the order of the fields. A field with a default
  may be missing. -/
  | record (title : String) (fields : List (String × Option Json × Shape))
  /-- One of several cases, named in the field `tag`, with its content in the field `body`. A case whose content is nothing needs
  no `body`. -/
  | tagged (title tag body : String) (cases : List (String × Shape))

namespace Shape

/-- What is expected where a struct is read. -/
def structName (title : String) : String :=
  "struct " ++ title

/-- `1 element`, `2 elements`. -/
def elements (n : Nat) : String :=
  if n = 1 then "1 element" else toString n ++ " elements"

/-- What is expected where the fields of a struct are listed. -/
def structLength (title : String) (n : Nat) : String :=
  structName title ++ " with " ++ elements n

/-- What is expected where a case is read. -/
def taggedName (title : String) : String :=
  "adjacently tagged enum " ++ title

/-- What is expected where a tuple is read. -/
def tupleName (n : Nat) : String :=
  "a tuple of size " ++ toString n

/-- Whether a case needs no content. -/
def isNothing : Shape → Bool
  | nothing _ => true
  | _ => false

/-- The integer of a number, if it is one in range. -/
def integerOf (low high : Int) (expected : String) : Number → Except Reason Json
  | .integer n =>
    if low ≤ n ∧ n ≤ high then .ok (.number (.integer n))
    else .error (.wrongValue (.number (.integer n)) expected)
  | .real x => .error (.wrongType (.number (.real x)) expected)

/-- The real number of a number. -/
def realOf (expected : String) : Number → Except Reason Json
  | .integer n =>
    match Binary64.ofInt n with
    | some x => .ok (.number (.real x))
    | none => .error (.wrongValue (.number (.integer n)) expected)
  | .real x => .ok (.number (.real x))

/-- The name of a choice. -/
def choiceOf (names : List String) (name : String) : Except Reason Json :=
  if names.contains name then .ok (.text name) else .error (.unknownVariant name names)

/-- The fields of a struct so far, in the order of the shape. -/
abbrev Slots := List (String × Option Json)

/-- Whether a field was read. -/
def isSet (slots : Slots) (name : String) : Bool :=
  slots.any fun slot => slot.1 == name && slot.2.isSome

/-- Note the value of a field. -/
def set (slots : Slots) (name : String) (value : Json) : Slots :=
  slots.map fun slot => if slot.1 == name then (slot.1, some value) else slot

/-- The finished struct: a field that was not read takes its default. -/
def finish : (defaults : List (String × Option Json)) → Slots → Except Reason (List (String × Json))
  | (_, default) :: defaults, (name, value) :: slots =>
    match value <|> default with
    | some value => (finish defaults slots).map ((name, value) :: ·)
    | none => .error (.missingField name)
  | _, _ => .ok []

/-! ## Checking documents -/

/-- Where a document that is checked came from, which shows in what is said of a list that is too long. -/
inductive Source where
  /-- The content of a case, read before the case was known. -/
  | buffered
  /-- A value of its own. -/
  | value
  /-- A value in a file of settings. -/
  | settings

/-- The refusal of a list of `length` items where `n` are expected; settings may have more. -/
def Source.surplus (source : Source) (n length : Nat) : Option Reason :=
  match source with
  | buffered => some (.wrongLength length (elements n ++ " in sequence"))
  | value => some (.wrongLength length "fewer elements in array")
  | settings => none

/-- Whether a document stands for nothing at all; content that was read ahead may also be an object without members. -/
def Source.isUnit : Source → Json → Bool
  | _, .null => true
  | buffered, .object [] => true
  | _, _ => false

/-- The reader of one field: its name and how its value is checked. -/
abbrev Check := Json → Except Reason Json

/-- Check items one by one against as many checks; `missing` is reported when there are too few, and `surplus` may refuse too
many. -/
def checkItems (missing : Nat → Reason) (surplus : Nat → Option Reason) (read : Nat) :
    List (Option Json × Check) → List Json → Except Reason (List Json)
  | [], [] => .ok []
  | [], items =>
    match surplus (read + items.length) with
    | some reason => .error reason
    | none => .ok []
  | (default, _) :: checks, [] =>
    match default with
    | some value => (checkItems missing surplus read checks []).map (value :: ·)
    | none => .error (missing read)
  | (_, check) :: checks, item :: items => do
    let value ← check item
    (checkItems missing surplus (read + 1) checks items).map (value :: ·)

/-- Check members one by one; a member that no field is named like is left out. -/
def checkMembers (checks : List (String × Check)) (slots : Slots) : List (String × Json) → Except Reason Slots
  | [] => .ok slots
  | (name, value) :: members =>
    match checks.find? fun check => check.1 == name with
    | none => checkMembers checks slots members
    | some (_, check) =>
      if isSet slots name then .error (.duplicateField name)
      else do
        let value ← check value
        checkMembers checks (set slots name value) members

/-- Check a struct. -/
def checkRecord (source : Source) (title : String) (fields : List (String × Option Json × Check)) : Check
  | .list items => do
    let names := fields.map (·.1)
    let values ← checkItems (fun n => .wrongLength n (structLength title fields.length))
      (source.surplus fields.length) 0 (fields.map (·.2)) items
    .ok (.object (names.zip values))
  | .object members => do
    let slots ← checkMembers (fields.map fun field => (field.1, field.2.2)) (fields.map fun field => (field.1, none)) members
    let members ← finish (fields.map fun field => (field.1, field.2.1)) slots
    .ok (.object members)
  | other => .error (.wrongType other.found (structName title))

/-- Check a choice. -/
def checkChoice (source : Source) (names : List String) : Check
  | .text name => choiceOf names name
  | .object [(name, value)] => do
    let chosen ← choiceOf names name
    if source.isUnit value then .ok chosen else .error (.wrongType value.found "unit")
  | .object _ => .error (.wrongValue .object "map with a single key")
  | other => .error (.wrongType other.found "string or map")

mutual

/-- The document that a shape stands for, from one that was read before. -/
def conform (source : Source) : Shape → Check
  | any => fun v => .ok v.canonical
  | text expected => fun
    | .text s => .ok (.text s)
    | other => .error (.wrongType other.found expected)
  | character => fun
    | .text s => if s.length = 1 then .ok (.text s) else .error (.wrongValue (.text s) "a character")
    | other => .error (.wrongType other.found "a character")
  | boolean => fun
    | .boolean b => .ok (.boolean b)
    | other => .error (.wrongType other.found "a boolean")
  | nothing expected => fun
    | .null => .ok .null
    | other => .error (.wrongType other.found expected)
  | integer low high expected => fun
    | .number n => integerOf low high expected n
    | other => .error (.wrongType other.found expected)
  | real expected => fun
    | .number n => realOf expected n
    | other => .error (.wrongType other.found expected)
  | choice names => checkChoice source names
  | list item => fun
    | .list items => .list <$> items.mapM (conform source item)
    | other => .error (.wrongType other.found "a sequence")
  | tuple shapes => fun
    | .list items =>
      let checks := conformAll source shapes
      .list <$> checkItems (fun n => .wrongLength n (tupleName checks.length))
        (source.surplus checks.length) 0 (checks.map (none, ·)) items
    | other => .error (.wrongType other.found (tupleName shapes.length))
  | dictionary shape => fun
    | .object members => do
      let members ← members.mapM fun (name, value) => do
        let value ← conform source shape value
        .ok (name, value)
      .ok (.object (sortMembers members))
    | other => .error (.wrongType other.found "a map")
  | optional shape => fun
    | .null => .ok .null
    | other => conform source shape other
  | record title fields => checkRecord source title (conformFields source fields)
  | tagged title _ _ _ => fun other => .error (.wrongType other.found (taggedName title))

/-- The checks of several shapes. -/
def conformAll (source : Source) : List Shape → List Check
  | [] => []
  | shape :: shapes => conform source shape :: conformAll source shapes

/-- The checks of the fields of a struct. -/
def conformFields (source : Source) : List (String × Option Json × Shape) → List (String × Option Json × Check)
  | [] => []
  | (name, default, shape) :: fields => (name, default, conform source shape) :: conformFields source fields

end

/-! ## Reading text -/

open Reader

/-- Accept a checked value, or refuse with the place left open. -/
def accept {α : Type} (result : Except Reason α) : Reader α :=
  match result with
  | .ok a => pure a
  | .error reason => refuse reason

/-- Refuse what comes next for not being what was expected. What has no parts is read before it is refused. -/
def refuseNext {α : Type} (expected : String) : Reader α := located do
  let refuseAs (found : Found) : Reader α := refuse (.wrongType found expected)
  match ← peekPastBlanks with
  | none => failAtNext .unfinishedValue
  | some b =>
    if b = code 'n' then do skip; literal ['u', 'l', 'l']; refuseAs .null
    else if b = code 't' then do skip; literal ['r', 'u', 'e']; refuseAs (.boolean true)
    else if b = code 'f' then do skip; literal ['a', 'l', 's', 'e']; refuseAs (.boolean false)
    else if b = code '-' then do skip; refuseAs (.number (← numeral true))
    else if (digit? b).isSome then do refuseAs (.number (← numeral false))
    else if b = code '"' then do skip; refuseAs (.text (← string))
    else if b = code '[' then refuseAs .list
    else if b = code '\x7b' then refuseAs .object
    else failAtNext .valueExpected

/-- A string. -/
def readText (expected : String) : Reader Json := do
  match ← peekPastBlanks with
  | some 0x22 => do skip; .text <$> string
  | _ => refuseNext expected

/-- A truth value. -/
def readBoolean : Reader Json := do
  match ← peekPastBlanks with
  | some 0x74 => do skip; literal ['r', 'u', 'e']; pure (.boolean true)
  | some 0x66 => do skip; literal ['a', 'l', 's', 'e']; pure (.boolean false)
  | _ => refuseNext "a boolean"

/-- A number that `check` accepts. -/
def readNumber (check : Number → Except Reason Json) (expected : String) : Reader Json := located do
  match ← peekPastBlanks with
  | none => refuseNext expected
  | some b =>
    if b = code '-' then do skip; accept (check (← numeral true))
    else if (digit? b).isSome then do accept (check (← numeral false))
    else refuseNext expected

/-- Nothing, where `null` itself is expected. -/
def readNull (expected : String) : Reader Json := do
  match ← peekPastBlanks with
  | some 0x6E => do skip; literal ['u', 'l', 'l']; pure .null
  | _ => refuseNext expected

/-- Nothing, where anything may stand: a list or an object is entered before it is refused. -/
def readNothing (expected : String) (depth : Nat) : Reader Json := located do
  let refuseInside (found : Found) (close : Reader Unit) : Reader Json :=
    if depth = 0 then failAtNext .tooDeep
    else do
      skip
      enclosed (refuse (.wrongType found expected)) close
  match ← peekPastBlanks with
  | some 0x5B => refuseInside .list endList
  | some 0x7B => refuseInside .object endObject
  | _ => readNull expected

/-- One of some names. -/
def readName (names : List String) : Reader Json := located do
  match ← peekPastBlanks with
  | some 0x22 => do
    skip
    accept (choiceOf names (← string))
  | _ => refuseNext "variant identifier"

/-- One of some names, alone or as the name of an object with one `null` member. -/
def readChoice (names : List String) (depth : Nat) : Reader Json := do
  match ← peekPastBlanks with
  | none => failAtNext .unfinishedValue
  | some 0x22 => readName names
  | some 0x7B =>
    if depth = 0 then failAtNext .tooDeep
    else do
      skip
      let chosen ← readName names
      colon
      let _ ← readNull "unit"
      match ← peekPastBlanks with
      | none => fail .unfinishedObject
      | some b => if b = code '\x7d' then do skip; pure chosen else fail .valueExpected
  | some _ => failAtNext .valueExpected

/-- How the value of a field is read. -/
abbrev FieldReader := String × Option Json × Reader Json

/-- The fields of a struct that is written as a list, from the field with number `read` on. -/
def recordItems (title : String) (size : Nat) (read : Nat) : List FieldReader → Reader (List (String × Json))
  | [] => pure []
  | (name, default, field) :: fields => do
    if ← nextItem (read == 0) then
      let value ← field
      let values ← recordItems title size (read + 1) fields
      pure ((name, value) :: values)
    else
      match default with
      | none => refuse (.wrongLength read (structLength title size))
      | some value =>
        let values ← recordItems title size read fields
        pure ((name, value) :: values)

/-- The members of a struct that is written as an object. The fuel is the number of bytes left, of which each turn takes one. -/
def recordMembers (fields : List FieldReader) : (fuel : Nat) → (first : Bool) → Slots → Reader Slots
  | 0, _, slots => pure slots
  | fuel + 1, first, slots => do
    match ← nextName first with
    | none => pure slots
    | some name =>
      match fields.find? fun field => field.1 == name with
      | none =>
        colon
        skipValue
        recordMembers fields fuel false slots
      | some (_, _, field) =>
        if isSet slots name then refuse (.duplicateField name)
        else
          colon
          let value ← field
          recordMembers fields fuel false (set slots name value)

/-- A struct. -/
def readRecord (title : String) (fields : List FieldReader) (depth : Nat) : Reader Json := located do
  match ← peekPastBlanks with
  | some 0x5B =>
    if depth = 0 then failAtNext .tooDeep
    else do
      skip
      .object <$> enclosed (recordItems title fields.length 0 fields) endList
  | some 0x7B =>
    if depth = 0 then failAtNext .tooDeep
    else do
      skip
      let fuel ← remaining
      let inside : Reader Json := do
        let slots ← recordMembers fields (fuel + 1) true (fields.map fun field => (field.1, none))
        .object <$> accept (finish (fields.map fun field => (field.1, field.2.1)) slots)
      enclosed inside endObject
  | _ => refuseNext (structName title)

/-- One case: its name, whether it needs no content, and how content is read and checked. -/
structure Case where
  name : String
  bare : Bool
  read : Reader Json
  check : Check

/-- Pass over the members up to the next that is named `tag` or `body`. The fuel is the number of bytes left. -/
def relevantName (tag body : String) : (fuel : Nat) → (first : Bool) → Reader (Option String)
  | 0, _ => pure none
  | fuel + 1, first => do
    match ← nextName first with
    | none => pure none
    | some name =>
      if name = tag ∨ name = body then pure (some name)
      else do
        colon
        skipValue
        relevantName tag body fuel false

/-- The document of a case. -/
def caseDocument (tag body : String) (chosen : Case) (content : Json) : Json :=
  if chosen.bare then .object [(tag, .text chosen.name)] else .object [(tag, .text chosen.name), (body, content)]

/-- The case with the name that was read. -/
def caseOf (cases : List Case) (name : Json) : Reader Case :=
  match name with
  | .text s =>
    match cases.find? fun c => c.name == s with
    | some chosen => pure chosen
    | none => refuse (.unknownVariant s (cases.map (·.name)))
  | other => refuse (.wrongType other.found "variant identifier")

/-- The members of a case that is written as an object. Content that stands before the name of its case is kept until the case
is known. -/
def taggedMembers (tag body : String) (cases : List Case) (depth : Nat) : Reader Json := do
  let fuel ← remaining
  let names := cases.map (·.name)
  let noMore (result : Json) : Reader Json := do
    match ← relevantName tag body (fuel + 1) false with
    | none => pure result
    | some name => refuse (.duplicateField name)
  match ← relevantName tag body (fuel + 1) true with
  | none => refuse (.missingField tag)
  | some name =>
    colon
    if name = tag then
      let chosen ← caseOf cases (← readChoice names depth)
      match ← relevantName tag body (fuel + 1) false with
      | none => if chosen.bare then pure (caseDocument tag body chosen .null) else refuse (.missingField body)
      | some name =>
        if name = tag then refuse (.duplicateField tag)
        else
          colon
          let content ← chosen.read
          noMore (caseDocument tag body chosen content)
    else
      let content ← tree depth
      match ← relevantName tag body (fuel + 1) false with
      | none => refuse (.missingField tag)
      | some name =>
        if name = body then refuse (.duplicateField body)
        else
          colon
          let chosen ← caseOf cases (← readChoice names depth)
          let content ← accept (chosen.check content)
          noMore (caseDocument tag body chosen content)

/-- The items of a case that is written as a list: its name, then its content. -/
def taggedItems (title tag body : String) (cases : List Case) : Reader Json := do
  if ← nextItem true then
    let chosen ← caseOf cases (← readName (cases.map (·.name)))
    if ← nextItem false then
      let content ← chosen.read
      pure (caseDocument tag body chosen content)
    else refuse (.wrongLength 1 (taggedName title))
  else refuse (.wrongLength 0 (taggedName title))

/-- One of several cases. -/
def readTagged (title tag body : String) (cases : List Case) (depth : Nat) : Reader Json := located do
  match ← peekPastBlanks with
  | some 0x5B =>
    if depth = 0 then failAtNext .tooDeep
    else do
      skip
      enclosed (taggedItems title tag body cases) endList
  | some 0x7B =>
    if depth = 0 then failAtNext .tooDeep
    else do
      skip
      enclosed (taggedMembers tag body cases (depth - 1)) endObject
  | _ => refuseNext (taggedName title)

/-- Read a document and check it when it is complete. -/
def readChecked (check : Check) (depth : Nat) : Reader Json := located do
  accept (check (← tree depth))

mutual

/-- Read text of a shape, with at most `depth` lists and objects inside one another. -/
def read : Shape → (depth : Nat) → Reader Json
  | any, depth => canonical <$> tree depth
  | text expected, _ => readText expected
  | boolean, _ => readBoolean
  | nothing expected, depth => readNothing expected depth
  | integer low high expected, _ => readNumber (integerOf low high expected) expected
  | choice names, depth => readChoice names depth
  | record title fields, depth => readRecord title (fieldReaders fields (depth - 1)) depth
  | tagged title tag body cases, depth => readTagged title tag body (caseReaders cases (depth - 1)) depth
  | character, depth => readChecked (conform .value character) depth
  | real expected, depth => readChecked (conform .value (real expected)) depth
  | list item, depth => readChecked (conform .value (list item)) depth
  | tuple items, depth => readChecked (conform .value (tuple items)) depth
  | dictionary value, depth => readChecked (conform .value (dictionary value)) depth
  | optional shape, depth => readChecked (conform .value (optional shape)) depth

/-- The readers of the fields of a struct. -/
def fieldReaders : List (String × Option Json × Shape) → (depth : Nat) → List FieldReader
  | [], _ => []
  | (name, default, shape) :: fields, depth => (name, default, read shape depth) :: fieldReaders fields depth

/-- The readers of the cases of a shape. -/
def caseReaders : List (String × Shape) → (depth : Nat) → List Case
  | [], _ => []
  | (name, shape) :: cases, depth =>
    ⟨name, shape.isNothing, read shape depth, conform .buffered shape⟩ :: caseReaders cases depth

end

/-- The document of a shape that some bytes spell. -/
def parse (shape : Shape) (bytes : Bytes) : Except Failure Json :=
  whole (shape.read maxDepth) bytes

/-- A document of a shape as what it stands for. -/
def interpret {α : Type} (of? : Json → Option α) (v : Json) : Except Failure α :=
  match of? v with
  | some a => .ok a
  | none => .error ⟨.wrongType v.found "a document of its shape", none⟩

/-- What some bytes of a shape stand for. -/
def decode {α : Type} (shape : Shape) (of? : Json → Option α) (bytes : Bytes) : Except Failure α :=
  shape.parse bytes >>= interpret of?

end Shape

end QueueBroker.Json

import QueueBroker.Config.Toml.Scalar

/-!
# TOML documents

Reading a whole document. Tables are opened by headers, by the points of keys, or both; none may be defined twice, and none that a
header defined may be extended by the points of a key.
-/

namespace QueueBroker.Toml

/-- How a table came about. -/
inductive Origin where
  /-- By its own header. -/
  | header
  /-- On the way to the table of a header. -/
  | path
  /-- By the points of a key. -/
  | dotted
deriving DecidableEq

/-- An entry of a table that is being read. -/
inductive Entry where
  | value (v : Toml)
  | table (origin : Origin) (entries : List (String × Entry))
  /-- The tables of a repeated header, last first. -/
  | tables (tables : List (List (String × Entry)))

/-- The entries of a table that is being read. -/
abbrev Entries := List (String × Entry)

/-- Replace an entry, or add one. -/
def setEntry (entries : Entries) (key : String) (entry : Entry) : Entries :=
  if entries.any (·.1 == key) then entries.map fun old => if old.1 == key then (key, entry) else old
  else entries ++ [(key, entry)]

/-- Change the table that a path leads to, making tables on the way. The points of a key (`dotted`) may not lead into the table
of a header. -/
def descend (dotted : Bool) (change : Origin → Entries → Option Entries) :
    (path : List String) → Origin → Entries → Option Entries
  | [], origin, entries => change origin entries
  | key :: path, _, entries =>
    match entries.lookup key with
    | none =>
      let origin := if dotted then .dotted else .path
      (descend dotted change path origin []).map fun inner => setEntry entries key (.table origin inner)
    | some (.value _) => none
    | some (.tables []) => none
    | some (.tables (last :: before)) =>
      (descend dotted change path .header last).map fun inner => setEntry entries key (.tables (inner :: before))
    | some (.table origin inner) =>
      if dotted && origin = .header then none
      else (descend dotted change path origin inner).map fun inner => setEntry entries key (.table origin inner)

/-- Give a key a value. The points of a key lead only through tables that points made. -/
def assign (entries : Entries) (key : List String) (v : Toml) : Option Entries :=
  match key.getLast? with
  | none => none
  | some name =>
    let path := key.dropLast
    let change (origin : Origin) (inner : Entries) : Option Entries :=
      if (origin = .dotted) = path.isEmpty then none
      else if inner.any (·.1 == name) then none
      else some (inner ++ [(name, .value v)])
    descend true change path .header entries

mutual

/-- The value of an entry. -/
def Entry.toToml : Entry → Toml
  | .value v => v
  | .table _ entries => .table (tableEntries entries)
  | .tables tables => .list (tableList tables).reverse

/-- The values of the entries of a table. -/
def tableEntries : List (String × Entry) → List (String × Toml)
  | [] => []
  | (key, entry) :: entries => (key, entry.toToml) :: tableEntries entries

/-- The values of several tables. -/
def tableList : List (List (String × Entry)) → List Toml
  | [] => []
  | entries :: tables => .table (tableEntries entries) :: tableList tables

end

/-! ## Values -/

/-- The items of a list, after its opening mark. Blanks, comments and ends of lines may stand around each, and a comma after the
last. -/
def listRest (value : Scan Toml) : (fuel : Nat) → (read : List Toml) → Scan Toml
  | 0, _, _ => none
  | fuel + 1, read, cs =>
    match dropLines cs.length cs with
    | ']' :: cs => some (.list read.reverse, cs)
    | cs => do
      let (v, cs) ← value cs
      match dropLines cs.length cs with
      | ',' :: cs => listRest value fuel (v :: read) cs
      | ']' :: cs => some (.list (v :: read).reverse, cs)
      | _ => none

/-- A key and its value. -/
def pair? (value : Scan Toml) (cs : List Char) : Option ((List String × Toml) × List Char) := do
  let (key, cs) ← key? cs
  match cs with
  | '=' :: cs =>
    let (v, cs) ← value (dropSpace cs)
    some ((key, v), cs)
  | _ => none

/-- The entries of a table inside a value, after its opening mark. -/
def inlineRest (value : Scan Toml) : (fuel : Nat) → Entries → Scan Toml
  | 0, _, _ => none
  | fuel + 1, entries, cs => do
    let ((key, v), cs) ← pair? value cs
    let entries ← assign entries key v
    match dropSpace cs with
    | ',' :: cs => inlineRest value fuel entries cs
    | '\x7d' :: cs => some (.table (tableEntries entries), cs)
    | _ => none

/-- A list, a table or a scalar; `nested` reads what stands inside. -/
def valueOf (nested : Scan Toml) : Scan Toml
  | '[' :: cs => listRest nested (cs.length + 1) [] cs
  | '\x7b' :: cs =>
    match dropSpace cs with
    | '\x7d' :: cs => some (.table [], cs)
    | cs => inlineRest nested (cs.length + 1) [] cs
  | cs => scalar? cs

/-- A value with at most `depth` lists and tables inside one another. -/
def value? : (depth : Nat) → Scan Toml
  | 0, '[' :: _ => none
  | 0, '\x7b' :: _ => none
  | 0, cs => scalar? cs
  | depth + 1, cs => valueOf (value? depth) cs

/-! ## Lines -/

/-- A document that is being read: the tables that are complete, and the one that the last header opened. -/
structure Draft where
  root : Entries
  current : Entries
  path : List String
  repeated : Bool

/-- Put the open table into its place. -/
def Draft.complete (d : Draft) : Option Entries :=
  match d.path.getLast? with
  | none => some d.current
  | some name =>
    let change (_ : Origin) (entries : Entries) : Option Entries :=
      if d.repeated then
        match entries.lookup name with
        | none => some (setEntry entries name (.tables [d.current]))
        | some (.tables tables) => some (setEntry entries name (.tables (d.current :: tables)))
        | some _ => none
      else if entries.any (·.1 == name) then none
      else some (setEntry entries name (.table .header d.current))
    descend false change d.path.dropLast .header d.root

/-- Open the table of a header. A table on the way to other headers is taken up again. -/
def Draft.openTable (d : Draft) (path : List String) : Option Draft := do
  let root ← d.complete
  let name ← path.getLast?
  let place (_ : Origin) (entries : Entries) : Option Entries :=
    match entries.lookup name with
    | none => some entries
    | some (.table .path _) => some (entries.filter (·.1 != name))
    | some _ => none
  let taken ← descend false place path.dropLast .header root
  let current := match lookupPath root path with
    | some (.table .path entries) => entries
    | _ => []
  some { root := taken, current, path, repeated := false }
where
  /-- The entry that a path leads to. -/
  lookupPath : Entries → List String → Option Entry
    | _, [] => none
    | entries, [key] => entries.lookup key
    | entries, key :: path =>
      match entries.lookup key with
      | some (.table _ inner) => lookupPath inner path
      | some (.tables (last :: _)) => lookupPath last path
      | _ => none

/-- Open one more table of a repeated header. -/
def Draft.openRepeated (d : Draft) (path : List String) : Option Draft := do
  let root ← d.complete
  let name ← path.getLast?
  let place (_ : Origin) (entries : Entries) : Option Entries :=
    match entries.lookup name with
    | none => some entries
    | some (.tables _) => some entries
    | some _ => none
  let root ← descend false place path.dropLast .header root
  some { root, current := [], path, repeated := true }

/-- Read a line. -/
def line? (d : Draft) (cs : List Char) : Option (Draft × List Char) := do
  match dropSpace cs with
  | '[' :: '[' :: cs =>
    let (path, cs) ← key? cs
    let cs ← literal? [']', ']'] cs
    let cs ← lineEnd? cs
    let d ← d.openRepeated path
    some (d, cs)
  | '[' :: cs =>
    let (path, cs) ← key? cs
    let cs ← literal? [']'] cs
    let cs ← lineEnd? cs
    let d ← d.openTable path
    some (d, cs)
  | cs =>
    match lineEnd? cs with
    | some cs => some (d, cs)
    | none =>
      let ((key, v), cs) ← pair? (value? (maxNesting - 1)) cs
      let cs ← lineEnd? cs
      let current ← assign d.current key v
      some ({ d with current }, cs)

/-- Read lines to the end. The fuel is the length of the text, of which each line takes some. -/
def lines? : (fuel : Nat) → Draft → List Char → Option Draft
  | _, d, [] => some d
  | 0, _, _ => none
  | fuel + 1, d, cs => (line? d cs).bind fun (d, cs) => lines? fuel d cs

/-- The table of a document; a mark of byte order at its head does not count. -/
def parse? (s : String) : Option (List (String × Toml)) := do
  let cs := match s.toList with
    | '\uFEFF' :: cs => cs
    | cs => cs
  let d ← lines? (cs.length + 1) { root := [], current := [], path := [], repeated := false } cs
  let root ← d.complete
  some (tableEntries root)

end QueueBroker.Toml

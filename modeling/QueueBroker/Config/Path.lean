import QueueBroker.Config.Setting

/-!
# Paths into settings

Where a layer puts a value: a name, with further names after points and places in lists in brackets. Putting a value makes the
tables and lists on the way; a table is merged into one that is there. Names are put in lower case.
-/

namespace QueueBroker

/-- A way into settings. -/
inductive SettingPath where
  | name (key : String)
  | child (parent : SettingPath) (key : String)
  /-- A place in a list, from its end if negative. -/
  | item (parent : SettingPath) (place : Int)
deriving DecidableEq, Repr

namespace SettingPath

/-- The characters of the names in paths. -/
def isNameChar (c : Char) : Bool :=
  c.isAlphanum || c == ' ' || c == '_' || c == '-'

/-- A name at the front of a text, in lower case. -/
def name? (cs : List Char) : Option (String × List Char) :=
  let name := cs.takeWhile isNameChar
  if name.isEmpty then none else some ((String.ofList name).toLower, cs.drop name.length)

/-- Pass over blanks. -/
def dropBlanks (cs : List Char) : List Char :=
  cs.dropWhile fun c => c == ' ' || c == '\t'

/-- A place in brackets, after the opening one. -/
def place? (cs : List Char) : Option (Int × List Char) := do
  let (negative, cs) := match dropBlanks cs with
    | '-' :: cs => (true, cs)
    | cs => (false, cs)
  let ds := cs.takeWhile Char.isDigit
  let n ← Whole.digits? ds
  match dropBlanks (cs.drop ds.length) with
  | ']' :: cs =>
    if negative then if n ≤ UInt64.size / 2 then some (-n, cs) else none
    else if n < UInt64.size / 2 then some (n, cs) else none
  | _ => none

/-- Continue a path to the end of a text. The fuel is the length of the text. -/
def extend? : (fuel : Nat) → SettingPath → List Char → Option SettingPath
  | _, path, [] => some path
  | fuel + 1, path, '.' :: cs => (name? cs).bind fun (key, cs) => extend? fuel (child path key) cs
  | fuel + 1, path, '[' :: cs => (place? cs).bind fun (place, cs) => extend? fuel (item path place) cs
  | _, _, _ => none

/-- The path that a text spells. -/
def parse? (s : String) : Option SettingPath :=
  (name? s.toList).bind fun (key, cs) => extend? cs.length (name key) cs

/-- The path that a text spells, or the text as a name. -/
def ofKey (s : String) : SettingPath :=
  (parse? s).getD (name s)

end SettingPath

namespace Setting

/-- The entries of a table; anything else has none. -/
def entries : Setting → List (String × Setting)
  | table entries => entries
  | _ => []

/-- The items of a list; anything else has none. -/
def items : Setting → List Setting
  | list items => items
  | _ => []

/-- Replace an entry, or add one. -/
def putEntry (key : String) (value : Setting) (entries : List (String × Setting)) : List (String × Setting) :=
  if entries.any (·.1 == key) then entries.map fun old => if old.1 == key then (key, value) else old
  else entries ++ [(key, value)]

mutual

/-- Put a value under a name, which makes a table of what is not one. A table is merged into the one that is there. -/
def putName (value : Setting) (key : String) (root : Setting) : Setting :=
  match value with
  | table incoming =>
    let target := (root.entries.lookup key.toLower).getD (table [])
    table (putEntry key.toLower (putAll incoming target) root.entries)
  | value => table (putEntry key.toLower value root.entries)

/-- Put every entry of a table. -/
def putAll : List (String × Setting) → Setting → Setting
  | [], root => root
  | (key, value) :: entries, root => putAll entries (putName value key root)

end

/-- The number of a place in a list of `length` items. -/
def placeIn (length : Nat) (place : Int) : Nat :=
  if 0 ≤ place then place.toNat else length - place.natAbs

/-- Change an item of a list, which is filled up with nothing so that it has one. -/
def changeItem (place : Int) (change : Setting → Setting) (items : List Setting) : List Setting :=
  let place := placeIn items.length place
  (items ++ List.replicate (place + 1 - items.length) nothing).modify place change

/-- Change an entry of a table, which is made empty if there is none. -/
def changeEntry (key : String) (change : Setting → Setting) (entries : List (String × Setting)) : List (String × Setting) :=
  putEntry key (change ((entries.lookup key).getD (table []))) entries

/-- Change what a path leads to. Tables and lists on the way are made, also in place of other values. -/
def change : SettingPath → (Setting → Setting) → Setting → Setting
  | .name key, f, root => table (changeEntry key f root.entries)
  | .child parent key, f, root => change parent (fun v => table (changeEntry key f v.entries)) root
  | .item parent place, f, root => change parent (fun v => list (changeItem place f v.items)) root

/-- Put a value where a path leads. -/
def put (path : SettingPath) (value : Setting) (root : Setting) : Setting :=
  match path with
  | .name key => putName value key root
  | .child parent key => change parent (putName value key) root
  | .item parent place => change parent (fun v => list (changeItem place (fun _ => value) v.items)) root

end Setting

end QueueBroker

import QueueBroker.Config.Toml.Value
import QueueBroker.Json.Basic
import QueueBroker.Number.Whole

/-!
# Loose settings

A value that a layer of settings gives, and what it counts as where a truth value, a number or a text is wanted: scalars stand in
for one another wherever that makes sense.
-/

namespace QueueBroker

/-- A value that a layer of settings gives. -/
inductive Setting where
  | nothing
  | boolean (b : Bool)
  | integer (n : Int)
  | real (x : Real)
  | text (s : String)
  | list (items : List Setting)
  | table (entries : List (String × Setting))
deriving Repr, Inhabited

namespace Setting

mutual

/-- The setting of a TOML value. -/
def ofToml : Toml → Setting
  | .text s => text s
  | .integer n => integer n
  | .real x => real x
  | .boolean b => boolean b
  | .moment s => text s
  | .list items => list (ofTomlItems items)
  | .table entries => table (ofTomlEntries entries)

/-- The settings of the items of a list. -/
def ofTomlItems : List Toml → List Setting
  | [] => []
  | item :: items => ofToml item :: ofTomlItems items

/-- The settings of the entries of a table. -/
def ofTomlEntries : List (String × Toml) → List (String × Setting)
  | [] => []
  | (key, value) :: entries => (key, ofToml value) :: ofTomlEntries entries

end

/-- Entries with each name once, with the last of its values. -/
def distinct (entries : List (String × Setting)) : List (String × Setting) :=
  (entries.reverse.eraseDupsBy fun a b => a.1 == b.1).reverse

/-- The setting of a number: integers are those of 64 bits with a sign. -/
def ofNumber : Number → Setting
  | .integer n =>
    if n < UInt64.size / 2 then integer n
    else
      match Binary64.ofInt n with
      | some x => real (.finite x)
      | none => real (.infinite (n < 0))
  | .real x => real (.finite x)

mutual

/-- The setting of a document. -/
def ofJson : Json → Setting
  | .null => nothing
  | .boolean b => boolean b
  | .number n => ofNumber n
  | .text s => text s
  | .list items => list (ofJsonItems items)
  | .object members => table (ofJsonMembers members)

/-- The settings of the items of a list. -/
def ofJsonItems : List Json → List Setting
  | [] => []
  | item :: items => ofJson item :: ofJsonItems items

/-- The settings of the members of an object. -/
def ofJsonMembers : List (String × Json) → List (String × Setting)
  | [] => []
  | (name, value) :: members => (name, ofJson value) :: ofJsonMembers members

end

/-! ## Plain words -/

/-- Words for yes. -/
def yesWords : List String := ["true", "on", "yes"]

/-- Words for no. -/
def noWords : List String := ["false", "off", "no"]

/-- The setting that a word outside any file gives: a truth value, an integer or a real number if it reads as one. -/
def ofWord (s : String) : Setting :=
  if s.toLower = "true" then boolean true
  else if s.toLower = "false" then boolean false
  else
    match Whole.signed? s with
    | some n => integer n
    | none =>
      match Real.parse? s with
      | some x => real x
      | none => text s

/-! ## What settings count as -/

/-- Whether a real number differs from zero. -/
def isNonzero : Real → Bool
  | .finite x => !x.magnitude.isZero
  | _ => true

/-- The whole number below `2^64` nearest a real number, a half upwards; what is no number counts as zero. -/
def nearest : Real → Nat
  | .finite x => if x.negative then 0 else min x.magnitude.roundHalfUp (UInt64.size - 1)
  | .infinite negative => if negative then 0 else UInt64.size - 1
  | .undefined => 0

/-- A setting as a truth value. -/
def toBoolean? : Setting → Option Bool
  | boolean b => some b
  | integer n => some (n != 0)
  | real x => some (isNonzero x)
  | text s =>
    let word := s.toLower
    if word = "1" ∨ yesWords.contains word then some true
    else if word = "0" ∨ noWords.contains word then some false
    else none
  | _ => none

/-- A setting as a whole number below `2^64`. -/
def toNatural? : Setting → Option Nat
  | boolean b => some b.toNat
  | integer n => if 0 ≤ n then some n.toNat else none
  | real x => some (nearest x)
  | text s =>
    if yesWords.contains s.toLower then some 1
    else if noWords.contains s.toLower then some 0
    else Whole.unsigned? s
  | _ => none

/-- A setting as a text. -/
def toText? : Setting → Option String
  | boolean b => some (if b then "true" else "false")
  | integer n => some (toString n)
  | real x => some x.render
  | text s => some s
  | _ => none

/-- The values for some names: those of a table by name, those of a list in order. -/
def fields? (names : List String) : Setting → Option (List (Option Setting))
  | table entries => some (names.map fun name => entries.lookup name)
  | list items => some (names.mapIdx fun place _ => items[place]?)
  | _ => none

end Setting

end QueueBroker

import QueueBroker.Number.Binary64

/-!
# JSON values

A JSON document as a tree. A document as read keeps the members of an object in the order they were written; its canonical form
sorts them by name and keeps the last of several with one name, and is what payloads are compared and written in.
-/

namespace QueueBroker

/-- A JSON number: an integer of the 64-bit ranges stays an integer, any other number is a binary one. -/
inductive Number where
  | integer (n : Int)
  | real (x : Binary64)
deriving DecidableEq, Repr, Inhabited

/-- A JSON document. -/
inductive Json where
  | null
  | boolean (b : Bool)
  | number (n : Number)
  | text (s : String)
  | list (items : List Json)
  | object (members : List (String × Json))
deriving Repr, Inhabited

namespace Json

/-- The value of the first member with a name. -/
def find? (members : List (String × Json)) (name : String) : Option Json :=
  (members.find? fun member => member.1 == name).map (·.2)

/-- Add a member to members sorted by name, in place of one with the same name. -/
def insert (name : String) (value : Json) : List (String × Json) → List (String × Json)
  | [] => [(name, value)]
  | (other, old) :: rest =>
    if name < other then (name, value) :: (other, old) :: rest
    else if name = other then (name, value) :: rest
    else (other, old) :: insert name value rest

/-- Members sorted by name, the last of each name. -/
def sortMembers (members : List (String × Json)) : List (String × Json) :=
  members.foldl (fun sorted (name, value) => insert name value sorted) []

mutual

/-- The canonical form: members of every object sorted by name, the last of each name. -/
def canonical : Json → Json
  | null => null
  | boolean b => boolean b
  | number n => number n
  | text s => text s
  | list items => list (canonicalItems items)
  | object members => object (sortMembers (canonicalMembers members))

/-- The canonical forms of the items of a list. -/
def canonicalItems : List Json → List Json
  | [] => []
  | item :: items => item.canonical :: canonicalItems items

/-- Members with their values in canonical form, in their old order. -/
def canonicalMembers : List (String × Json) → List (String × Json)
  | [] => []
  | (name, value) :: members => (name, value.canonical) :: canonicalMembers members

end

/-- Numerical equality inside one kind of number: the two real zeros are equal, an integer equals no real. -/
def sameNumber : Number → Number → Bool
  | .integer a, .integer b => a == b
  | .real a, .real b => a.same b
  | _, _ => false

mutual

/-- Equality of canonical documents. -/
def same : Json → Json → Bool
  | null, null => true
  | boolean a, boolean b => a == b
  | number a, number b => sameNumber a b
  | text a, text b => a == b
  | list a, list b => sameItems a b
  | object a, object b => sameMembers a b
  | _, _ => false

/-- Equality item by item. -/
def sameItems : List Json → List Json → Bool
  | [], [] => true
  | a :: as, b :: bs => a.same b && sameItems as bs
  | _, _ => false

/-- Equality member by member. -/
def sameMembers : List (String × Json) → List (String × Json) → Bool
  | [], [] => true
  | (m, a) :: as, (n, b) :: bs => m == n && a.same b && sameMembers as bs
  | _, _ => false

end

end Json

end QueueBroker

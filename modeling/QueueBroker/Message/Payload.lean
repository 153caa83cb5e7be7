import QueueBroker.Message
import QueueBroker.Number.Real

/-!
# Typed payloads

Reading a payload as a value of a known type, and making payloads of such values.
-/

namespace QueueBroker.Payload

/-- The integers of `bits` bits with a sign. -/
def signed (bits : Nat) : Json.Shape :=
  .integer (-(Nat.pow 2 (bits - 1) : Nat)) ((Nat.pow 2 (bits - 1) : Nat) - 1) ("i" ++ toString bits)

/-- The integers of `bits` bits without a sign. -/
def unsigned (bits : Nat) : Json.Shape :=
  .integer 0 ((Nat.pow 2 bits : Nat) - 1) ("u" ++ toString bits)

/-- A string. -/
def text : Json.Shape :=
  .text "a string"

/-- An item that is ordered by number. -/
def order : Json.Shape :=
  .record "Order" [("id", none, unsigned 32), ("item", none, text)]

/-- The types that payloads are read as, by name. -/
def shapes : List (String × Json.Shape) := [
  ("string", text),
  ("i32", signed 32),
  ("u8", unsigned 8),
  ("i64", signed 64),
  ("u64", unsigned 64),
  ("f64", .real "f64"),
  ("bool", .boolean),
  ("unit", .nothing "unit"),
  ("char", .character),
  ("vec_i32", .list (signed 32)),
  ("pair", .tuple [signed 32, text]),
  ("map_i32", .dictionary (signed 32)),
  ("option_string", .optional text),
  ("order", order),
  ("message", Message.shape)]

/-- A payload as a value of a type. -/
def readAs (shape : Json.Shape) (payload : Json) : Except Json.Failure Json :=
  match shape.conform .value payload with
  | .ok v => .ok v
  | .error reason => .error ⟨reason, none⟩

/-- The refusal of a value that no document can hold. -/
def refuse (reason : Json.Reason) : Except Json.Failure Json :=
  .error ⟨reason, none⟩

/-- An integer; only those of the 64-bit ranges fit. -/
def ofInteger (n : Int) : Except Json.Failure Json :=
  if -(UInt64.size / 2 : Nat) ≤ n ∧ n < (UInt64.size : Nat) then .ok (.number (.integer n)) else refuse .numberOutOfRange

/-- A real number; what is no number has no document form but `null`. -/
def ofReal : Real → Json
  | .finite x => .number (.real x)
  | _ => .null

/-- Bytes, as a list of their values. -/
def ofBytes (bytes : Bytes) : Json :=
  .list (bytes.map fun b => .number (.integer b.toNat))

/-- A map from integers to integers, its names in decimal; a later pair replaces an earlier one. -/
def ofIntegerMap (pairs : List (Int × Int)) : Json :=
  .object (Json.sortMembers (pairs.map fun (key, value) =>
    (String.ofList (Json.integerText key), .number (.integer value))))

/-- The items of a text by their number: each byte, less one hundred, to the place it is last seen at. -/
def bytePlaces (bytes : Bytes) : Json :=
  ofIntegerMap (bytes.mapIdx fun place b => ((b.toNat : Int) - 100, (place : Int)))

/-- An ordered item. -/
def ofOrder (id : Nat) (item : String) : Json :=
  .object [("id", .number (.integer id)), ("item", .text item)]

end QueueBroker.Payload

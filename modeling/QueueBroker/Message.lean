import QueueBroker.Json.Shape
import QueueBroker.Text.BigEndian

/-!
# Messages

A message is a payload for a named destination. Its document form stands in frames and, after its length, in the log of a queue.
-/

namespace QueueBroker

/-- A payload for a destination; two messages with the same contents are indistinguishable. -/
structure Message where
  destination : String
  payload : Json
deriving Repr, Inhabited

namespace Message

/-- What the document of a message looks like. -/
def shape : Json.Shape :=
  .record "Message" [("destination", none, .text "a string"), ("payload", none, .any)]

/-- The document of a message. -/
def toJson (m : Message) : Json :=
  .object [("destination", .text m.destination), ("payload", m.payload)]

/-- The message of a document of its shape. -/
def ofJson? : Json → Option Message
  | .object [(_, .text destination), (_, payload)] => some ⟨destination, payload⟩
  | _ => none

/-- The bytes of a message. -/
def bytes (m : Message) : Bytes :=
  m.toJson.bytes

/-- The message that some bytes spell. -/
def parse (bytes : Bytes) : Except Json.Failure Message :=
  shape.decode ofJson? bytes

/-- The message in words. -/
def describe (m : Message) : String :=
  m.destination ++ " <- " ++ m.payload.render

/-- The payload, if it is a string. -/
def payloadText? (m : Message) : Option String :=
  match m.payload with
  | .text s => some s
  | _ => none

/-- Whether two messages have the same contents. -/
def same (a b : Message) : Bool :=
  a.destination == b.destination && a.payload.same b.payload

end Message

end QueueBroker

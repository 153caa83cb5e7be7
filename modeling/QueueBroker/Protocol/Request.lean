import QueueBroker.Message

/-!
# Requests

What a client asks of the broker, one request a frame.
-/

namespace QueueBroker

/-- A request. -/
inductive Request where
  /-- Put a message into the queue of its destination. -/
  | send (message : Message)
  /-- Ask whether a destination has a message waiting. -/
  | check (destination : String)
  /-- Take the oldest message of a destination. -/
  | receive (destination : String)
deriving Repr, Inhabited

namespace Request

/-- The name of the operation. -/
def op : Request → String
  | send _ => "SEND"
  | check _ => "CHECK"
  | receive _ => "RECEIVE"

/-- The destination asked about. -/
def destination : Request → String
  | send message => message.destination
  | check destination => destination
  | receive destination => destination

/-- What the document of a request looks like. -/
def shape : Json.Shape :=
  .tagged "Request" "op" "body"
    [("SEND", Message.shape), ("CHECK", .text "a string"), ("RECEIVE", .text "a string")]

/-- What stands in the body. -/
def body : Request → Json
  | send message => message.toJson
  | check destination => .text destination
  | receive destination => .text destination

/-- The document of a request. -/
def toJson (r : Request) : Json :=
  .object [("op", .text r.op), ("body", r.body)]

/-- The request of a document of its shape. -/
def ofJson? : Json → Option Request
  | .object [(_, .text op), (_, body)] =>
    if op = "SEND" then (Message.ofJson? body).map send
    else match body with
      | .text destination =>
        if op = "CHECK" then some (check destination)
        else if op = "RECEIVE" then some (receive destination)
        else none
      | _ => none
  | _ => none

/-- The request that some bytes spell. -/
def parse (bytes : Bytes) : Except Json.Failure Request :=
  shape.decode ofJson? bytes

end Request

end QueueBroker

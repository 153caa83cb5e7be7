import QueueBroker.Error
import QueueBroker.Message

/-!
# Replies

What the broker answers, one reply a frame.
-/

namespace QueueBroker

/-- The category of a failed request. -/
inductive ErrorKind where
  /-- The files of a queue failed. -/
  | storageFailure
  /-- The name is not that of a destination. -/
  | invalidDestination
  /-- A queue was used after it was closed. -/
  | illegalState
  /-- Anything else. -/
  | internal
deriving DecidableEq, Repr, Inhabited

namespace ErrorKind

/-- All categories. -/
def all : List ErrorKind :=
  [storageFailure, invalidDestination, illegalState, internal]

/-- The name of a category in documents. -/
def tag : ErrorKind → String
  | storageFailure => "STORAGE_FAILURE"
  | invalidDestination => "INVALID_DESTINATION"
  | illegalState => "ILLEGAL_STATE"
  | internal => "INTERNAL"

/-- The name of a category in messages. -/
def title : ErrorKind → String
  | storageFailure => "StorageFailure"
  | invalidDestination => "InvalidDestination"
  | illegalState => "IllegalState"
  | internal => "Internal"

/-- The category with a name. -/
def ofTag? (name : String) : Option ErrorKind :=
  all.find? fun kind => kind.tag == name

/-- What the document of a category looks like. -/
def shape : Json.Shape :=
  .choice (all.map tag)

/-- The category that a document names. -/
def ofDocument (v : Json) : Except Json.Failure ErrorKind :=
  match shape.conform .value v with
  | .ok (.text name) =>
    match ofTag? name with
    | some kind => .ok kind
    | none => .error ⟨.unknownVariant name (all.map tag), none⟩
  | .ok other => .error ⟨.wrongType other.found "string or map", none⟩
  | .error reason => .error ⟨reason, none⟩

end ErrorKind

/-- A failure as the client is told of it. -/
structure ErrorReply where
  kind : ErrorKind
  message : String
deriving DecidableEq, Repr, Inhabited

namespace ErrorReply

/-- What the document of an error reply looks like. -/
def shape : Json.Shape :=
  .record "ErrorReply" [("kind", none, ErrorKind.shape), ("message", none, .text "a string")]

/-- The document of an error reply. -/
def toJson (r : ErrorReply) : Json :=
  .object [("kind", .text r.kind.tag), ("message", .text r.message)]

/-- The error reply of a document of its shape. -/
def ofJson? : Json → Option ErrorReply
  | .object [(_, .text kind), (_, .text message)] => (ErrorKind.ofTag? kind).map fun kind => ⟨kind, message⟩
  | _ => none

/-- The reply in words. -/
def describe (r : ErrorReply) : String :=
  r.kind.title ++ ": " ++ r.message

/-- How a failure is told: what has no category of its own is told with its category in words. -/
def ofError (e : BrokerError) : ErrorReply :=
  match e with
  | .storage _ => ⟨.storageFailure, e.detail⟩
  | .stream _ => ⟨.storageFailure, e.detail⟩
  | .destination _ => ⟨.invalidDestination, e.detail⟩
  | .state _ => ⟨.illegalState, e.detail⟩
  | _ => ⟨.internal, e.message⟩

/-- The failure that a client makes of an error reply. -/
def toError (r : ErrorReply) : BrokerError :=
  match r.kind with
  | .storageFailure => .storage (.reported r.message)
  | .invalidDestination => .destination (.reported r.message)
  | .illegalState => .state (.reported r.message)
  | .internal => .server (.reported r.message)

end ErrorReply

/-- A reply. -/
inductive Response where
  /-- The message of a `SEND` is stored. -/
  | ack
  /-- The answer to a `CHECK`. -/
  | available (waiting : Bool)
  /-- The message taken by a `RECEIVE`. -/
  | message (m : Message)
  /-- Nothing was waiting. -/
  | empty
  /-- The request failed and changed nothing. -/
  | error (reply : ErrorReply)
deriving Repr, Inhabited

namespace Response

/-- The name of the kind of reply. -/
def kind : Response → String
  | ack => "ACK"
  | available _ => "AVAILABLE"
  | message _ => "MESSAGE"
  | empty => "EMPTY"
  | error _ => "ERROR"

/-- What the document of a reply looks like. -/
def shape : Json.Shape :=
  .tagged "Response" "reply" "body"
    [("ACK", .nothing "unit variant Response::Ack"), ("AVAILABLE", .boolean), ("MESSAGE", Message.shape),
      ("EMPTY", .nothing "unit variant Response::Empty"), ("ERROR", ErrorReply.shape)]

/-- What stands in the body, if there is one. -/
def body? : Response → Option Json
  | ack => none
  | available waiting => some (.boolean waiting)
  | message m => some m.toJson
  | empty => none
  | error reply => some reply.toJson

/-- The document of a reply. -/
def toJson (r : Response) : Json :=
  match r.body? with
  | none => .object [("reply", .text r.kind)]
  | some body => .object [("reply", .text r.kind), ("body", body)]

/-- The reply of a document of its shape. -/
def ofJson? : Json → Option Response
  | .object [(_, .text kind)] =>
    if kind = "ACK" then some ack
    else if kind = "EMPTY" then some empty
    else none
  | .object [(_, .text kind), (_, body)] =>
    if kind = "AVAILABLE" then
      match body with
      | .boolean waiting => some (available waiting)
      | _ => none
    else if kind = "MESSAGE" then (Message.ofJson? body).map message
    else if kind = "ERROR" then (ErrorReply.ofJson? body).map error
    else none
  | _ => none

/-- The reply that some bytes spell. -/
def parse (bytes : Bytes) : Except Json.Failure Response :=
  shape.decode ofJson? bytes

end Response

end QueueBroker

import QueueBroker.Protocol.Request
import QueueBroker.Protocol.Response

/-!
# Frames

Every document travels in a frame: its length as four bytes, then its bytes. Both sides refuse frames longer than a limit. A
receiver takes the length as soon as it has all of it, and then waits for the rest of the frame.
-/

namespace QueueBroker

namespace Frame

/-- The bytes that a length takes. -/
def prefixLength : Nat := 4

/-- The longest frame that a length can announce. -/
def maxLength : Nat := UInt32.size - 1

/-- A frame around some bytes, unless they are too many. -/
def encode (limit : Nat) (body : Bytes) : Except BrokerError Bytes :=
  if min limit maxLength < body.length then .error (.protocol .frameTooBig)
  else .ok (BigEndian.encode prefixLength body.length ++ body)

end Frame

/-- The receiving end of a stream: the bytes not yet taken, and the length of the frame whose prefix was taken last, if the frame
itself was not. -/
structure Receiver where
  limit : Nat
  announced : Option Nat
  buffer : Bytes
deriving Repr

namespace Receiver

/-- A receiver that nothing has reached yet. -/
def start (limit : Nat) : Receiver :=
  ⟨limit, none, []⟩

/-- More bytes arrive. -/
def feed (r : Receiver) (bytes : Bytes) : Receiver :=
  { r with buffer := r.buffer ++ bytes }

/-- Take the length of the next frame, if it is there. A length over the limit is left in place. -/
def takePrefix (r : Receiver) : Except BrokerError (Option Nat) × Receiver :=
  match r.announced with
  | some n => (.ok (some n), r)
  | none =>
    if r.buffer.length < Frame.prefixLength then (.ok none, r)
    else
      let n := BigEndian.decode (r.buffer.take Frame.prefixLength)
      if min r.limit Frame.maxLength < n then (.error (.protocol .frameTooBig), r)
      else (.ok (some n), { r with announced := some n, buffer := r.buffer.drop Frame.prefixLength })

/-- Take the body of the next frame, if all of it is there. -/
def takeFrame (r : Receiver) : Except BrokerError (Option Bytes) × Receiver :=
  match r.takePrefix with
  | (.error e, r) => (.error e, r)
  | (.ok none, r) => (.ok none, r)
  | (.ok (some n), r) =>
    if r.buffer.length < n then (.ok none, r)
    else (.ok (some (r.buffer.take n)), { r with announced := none, buffer := r.buffer.drop n })

/-- Take the next document, if all of it is there. A frame that does not hold one is taken all the same. -/
def next {α : Type} (parse : Bytes → Except Json.Failure α) (r : Receiver) : Except BrokerError (Option α) × Receiver :=
  match r.takeFrame with
  | (.error e, r) => (.error e, r)
  | (.ok none, r) => (.ok none, r)
  | (.ok (some body), r) =>
    match parse body with
    | .ok a => (.ok (some a), r)
    | .error failure => (.error (.protocol (.undecodable failure)), r)

/-- Take the next document at the end of the stream: then no bytes may be left over. -/
def finish {α : Type} (parse : Bytes → Except Json.Failure α) (r : Receiver) : Except BrokerError (Option α) × Receiver :=
  match r.next parse with
  | (.ok none, r) => if r.buffer.isEmpty then (.ok none, r) else (.error (.stream .cut), r)
  | other => other

end Receiver

namespace Request

/-- The frame of a request. -/
def frame (limit : Nat) (r : Request) : Except BrokerError Bytes :=
  Frame.encode limit r.toJson.bytes

end Request

namespace Response

/-- The frame of a reply. -/
def frame (limit : Nat) (r : Response) : Except BrokerError Bytes :=
  Frame.encode limit r.toJson.bytes

end Response

end QueueBroker

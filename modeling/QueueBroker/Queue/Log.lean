import QueueBroker.Message
import QueueBroker.Queue.Destination

/-!
# The two files of a queue

The log holds one record for every message ever put in, oldest first: the length of the message as four bytes, then its bytes.
The checkpoint file holds one record for every message ever taken out: how many that made, as eight bytes. What is pending is
what the log holds after as many records as the last checkpoint says.
-/

namespace QueueBroker

namespace Log

/-- The bytes that the length of a message takes. -/
def prefixLength : Nat := 4

/-- The longest message that a record can hold. -/
def maxBody : Nat := UInt32.size - 1

/-- The record around the bytes of a message. -/
def recordOf (body : Bytes) : Bytes :=
  BigEndian.encode prefixLength body.length ++ body

/-- The record of a message, unless it is too long for its length. -/
def record (m : Message) : Except BrokerError Bytes :=
  let body := m.bytes
  if maxBody < body.length then .error (.storage (.oversized body.length)) else .ok (recordOf body)

/-- The first record of some bytes, its body, and what follows; none if it is not complete. -/
def splitRecord? (bytes : Bytes) : Option (Bytes × Bytes) :=
  let head := bytes.take prefixLength
  if head.length < prefixLength then none
  else
    let rest := bytes.drop prefixLength
    let n := BigEndian.decode head
    let body := rest.take n
    if body.length < n then none else some (body, rest.drop n)

/-- What a log holds: the messages after those to skip, and the number and total length of the records that are kept. -/
structure Contents where
  pending : List Message
  records : Nat
  length : Nat
deriving Repr

/-- Read on in a log that so far held `read` records, whose pending messages stand in `pending`, last first. A record that is to
be skipped need not hold a message; another that does not, or one that is not complete, ends the log. The fuel is the number
of bytes left, of which each record takes some. -/
def scanFrom (skip : Nat) : (fuel : Nat) → (pending : List Message) → (records length : Nat) → Bytes → Contents
  | 0, pending, records, length, _ => ⟨pending.reverse, records, length⟩
  | fuel + 1, pending, records, length, bytes =>
    match splitRecord? bytes with
    | none => ⟨pending.reverse, records, length⟩
    | some (body, rest) =>
      let length' := length + prefixLength + body.length
      if records < skip then scanFrom skip fuel pending (records + 1) length' rest
      else
        match Message.parse body with
        | .ok m => scanFrom skip fuel (m :: pending) (records + 1) length' rest
        | .error _ => ⟨pending.reverse, records, length⟩

/-- What a log holds after `skip` records. -/
def scan (skip : Nat) (bytes : Bytes) : Contents :=
  scanFrom skip bytes.length [] 0 0 bytes

end Log

namespace Checkpoint

/-- The bytes of one record. -/
def recordLength : Nat := 8

/-- The record that says how many messages were taken. -/
def record (taken : Nat) : Bytes :=
  BigEndian.encode recordLength taken

/-- The length of the complete records among some bytes. -/
def completeLength (bytes : Bytes) : Nat :=
  bytes.length - bytes.length % recordLength

/-- What the last complete record says; zero if there is none. -/
def last (bytes : Bytes) : Nat :=
  let complete := bytes.take (completeLength bytes)
  BigEndian.decode (complete.drop (complete.length - recordLength))

end Checkpoint

end QueueBroker

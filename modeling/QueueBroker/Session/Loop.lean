import QueueBroker.Config.Settings
import QueueBroker.Protocol.Frame
import QueueBroker.Session.Handling

/-!
# Sessions

One connection of a client, as the broker serves it: requests are taken off the stream one at a time, and each is answered before
the next is looked at. `Session.turn` says what a session does when it wakes, `Session.reply` what it does with an answer;
`Session.run` goes on until the session waits or is over.
-/

namespace QueueBroker

/-- What a session is set up with. -/
structure SessionSettings where
  maxFrameLength : Nat
  /-- After this many seconds without a request the session ends; none stands for never. -/
  idleTimeout : Option Nat
deriving DecidableEq, Repr

/-- The part of a listener's settings that its sessions go by. -/
def ServerSettings.toSession (s : ServerSettings) : SessionSettings where
  maxFrameLength := s.maxFrameLength.toNat
  idleTimeout := if s.idleTimeoutSeconds = 0 then none else some s.idleTimeoutSeconds.toNat

/-- A connection that is served. Times are in milliseconds. -/
structure Session where
  settings : SessionSettings
  receiver : Receiver
  /-- Whether the client has said all that it will say. -/
  inputOver : Bool
  /-- Whether the client is gone, so that nothing can be written to it. -/
  peerGone : Bool
  /-- When the session ends unless a request is complete by then. -/
  deadline : Option Nat
  /-- How the session ended, if it did. -/
  outcome : Option (Except BrokerError Unit)

/-- What a session does when it wakes. -/
inductive Turn where
  | wait
  | finish (outcome : Except BrokerError Unit)
  | serve (request : Request)

namespace Session

/-- The moment at which a session that waits from `now` on gives up. -/
def deadlineFrom (settings : SessionSettings) (now : Nat) : Option Nat :=
  settings.idleTimeout.map fun seconds => now + seconds * 1000

/-- A session that begins to wait. -/
def start (settings : SessionSettings) (now : Nat) : Session where
  settings
  receiver := .start settings.maxFrameLength
  inputOver := false
  peerGone := false
  deadline := deadlineFrom settings now
  outcome := none

/-- Bytes arrive from the client. -/
def feed (s : Session) (bytes : Bytes) : Session :=
  { s with receiver := s.receiver.feed bytes }

/-- The client has said all that it will say. -/
def endInput (s : Session) : Session :=
  { s with inputOver := true }

/-- The client goes away. -/
def hangUp (s : Session) : Session :=
  { s with inputOver := true, peerGone := true }

/-- Whether the session is over. -/
def isOver (s : Session) : Bool :=
  s.outcome.isSome

/-- End the session. -/
def finish (s : Session) (outcome : Except BrokerError Unit) : Session :=
  { s with outcome := some outcome }

/-- The next request, if all of it is there. -/
def nextRequest (s : Session) : Except BrokerError (Option Request) × Receiver :=
  if s.inputOver then s.receiver.finish Request.parse else s.receiver.next Request.parse

/-- What a session does when it wakes. A signal to end counts more than a request, and a request more than the clock. -/
def turn (shutdown : Bool) (now : Nat) (s : Session) : Turn × Session :=
  if shutdown then (.finish (.ok ()), s)
  else
    let (next, receiver) := s.nextRequest
    let s := { s with receiver }
    match next with
    | .error e => (.finish (.error e), s)
    | .ok (some request) => (.serve request, s)
    | .ok none =>
      if s.inputOver || s.deadline.any (· ≤ now) then (.finish (.ok ()), s) else (.wait, s)

/-- Write an answer, and wait for the next request from `now` on. An answer that cannot be written ends the session. -/
def reply (now : Nat) (response : Response) (s : Session) : Option Bytes × Session :=
  match response.frame s.settings.maxFrameLength with
  | .error e => (none, s.finish (.error e))
  | .ok frame =>
    if s.peerGone then (none, s.finish (.error (.stream .noReader)))
    else (some frame, { s with deadline := deadlineFrom s.settings now })

/-- What came of running a session: the session, the store it works on, and the answers it wrote. -/
structure Progress where
  session : Session
  store : Store
  replies : List Response

/-- Serve requests until the session waits or is over. The fuel is more than the number of bytes that wait, of which every request
takes some. -/
def serve (shutdown : Bool) (now : Nat) : (fuel : Nat) → Session → Store → Progress
  | 0, s, store => ⟨s, store, []⟩
  | fuel + 1, s, store =>
    if s.isOver then ⟨s, store, []⟩
    else
      match s.turn shutdown now with
      | (.wait, s) => ⟨s, store, []⟩
      | (.finish outcome, s) => ⟨s.finish outcome, store, []⟩
      | (.serve request, s) =>
        let (response, store) := store.run request.handle
        match s.reply now response with
        | (none, s) => serve shutdown now fuel s store
        | (some _, s) =>
          let rest := serve shutdown now fuel s store
          { rest with replies := response :: rest.replies }

/-- Run a session until it waits or is over. -/
def run (shutdown : Bool) (now : Nat) (s : Session) (store : Store) : Progress :=
  s.serve shutdown now (s.receiver.buffer.length + 2) store

end Session

end QueueBroker

import QueueBroker.Client.Connection
import QueueBroker.Machine.Sockets
import Std.Sync.CancellationToken

/-!
# A client on this machine

The programs of a client run on a socket of the machine that the process is on. The calls of a process come one after the other,
so none waits for another to release the connection.
-/

namespace QueueBroker.Machine

open Std.Async

/-- The connection of a client, if there is one, with what was received on it. -/
structure Link where
  config : ClientConfig
  connected : IO.Ref (Option (TCP.Socket.Client × Receiver))

namespace Link

/-- A client that is not connected. -/
def new (config : ClientConfig) : IO Link := do
  pure ⟨config, ← IO.mkRef none⟩

/-- Do something within some seconds. What is late goes on, but nobody learns of it. -/
def within {α : Type} (seconds : Nat) (act : IO α) : IO (Option (Except IO.Error α)) := do
  let done ← Std.CancellationToken.new
  let result : IO.Ref (Option (Except IO.Error α)) ← IO.mkRef none
  let _ ← IO.asTask (do
    let made ← try
        let a ← act
        pure (.ok a)
      catch e => pure (.error e)
    result.set (some made)
    done.cancel) .dedicated
  let wait : Async Unit := do
    let ring ← clock (seconds * 1000)
    Selectable.one #[.case done.selector fun _ => pure (), .case ring fun _ => pure ()]
  wait.block
  result.get

/-- The seconds that a step may take. -/
def patience (l : Link) : Nat := l.config.timeoutSeconds.toNat

/-- The failure of a stream. -/
def streamFailure (e : IO.Error) : BrokerError :=
  .stream (.system (errnoOf e))

/-- Connect to a host. -/
def connect (l : Link) (host : String) (port : UInt16) (seconds : Nat) : IO (Awaited (Except NetworkFault Unit)) := do
  match ← within seconds (connectTo host port) with
  | none => pure .elapsed
  | some (.error e) => pure (.failed (streamFailure e))
  | some (.ok (.error fault)) => pure (.arrived (.error fault))
  | some (.ok (.ok socket)) =>
    l.connected.set (some (socket, .start l.config.maxFrameLength.toNat))
    pure (.arrived (.ok ()))

/-- Write to the connection. -/
def write (l : Link) (frame : Bytes) : IO (Awaited Unit) := do
  match ← l.connected.get with
  | none => pure (.failed .notConnected)
  | some (socket, _) =>
    match ← within l.patience (socket.send (toByteArray frame)).block with
    | none => pure .elapsed
    | some (.error e) => pure (.failed (streamFailure e))
    | some (.ok _) => pure (.arrived ())

/-- Receive until a reply is complete, or the broker has closed the connection. -/
partial def receive (socket : TCP.Socket.Client) (r : Receiver) : IO (Except BrokerError (Option Response) × Receiver) := do
  match r.next Response.parse with
  | (.error e, r) => pure (.error e, r)
  | (.ok (some response), r) => pure (.ok (some response), r)
  | (.ok none, r) =>
    match ← (socket.recv? portion).block with
    | some bytes => receive socket (r.feed (ofByteArray bytes))
    | none => pure (r.finish Response.parse)

/-- Wait for the next reply. -/
def awaitReply (l : Link) : IO (Awaited (Option Response)) := do
  match ← l.connected.get with
  | none => pure (.failed .notConnected)
  | some (socket, receiver) =>
    match ← within l.patience (receive socket receiver) with
    | none => pure .elapsed
    | some (.error e) => pure (.failed (streamFailure e))
    | some (.ok (.error e, _)) => pure (.failed e)
    | some (.ok (.ok response, receiver)) =>
      l.connected.set (some (socket, receiver))
      pure (.arrived response)

/-- Close the connection. -/
def close (l : Link) : IO (Except BrokerError Unit) := do
  match ← l.connected.get with
  | none => pure (.ok ())
  | some (socket, _) =>
    match ← attempt (socket.shutdown).block with
    | .ok _ => pure (.ok ())
    | .error cause => pure (.error (.stream (.system cause)))

/-- Make one step of a client. -/
def perform (l : Link) : (op : ClientOp) → IO op.Reply
  | .connect host port seconds => l.connect host port seconds
  | .hold => pure ()
  | .release => pure ()
  | .isConnected => do pure (← l.connected.get).isSome
  | .write frame => l.write frame
  | .awaitReply => l.awaitReply
  | .drop => l.connected.set none
  | .close => l.close

end Link

end QueueBroker.Machine

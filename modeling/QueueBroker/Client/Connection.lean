import QueueBroker.Config.Settings
import QueueBroker.Program
import QueueBroker.Protocol.Frame

/-!
# Client connections

A client has one connection to a broker, which its clones share. A call holds the connection from its request to its reply, so
replies match their requests; a call that gets no reply drops the connection, because the reply may still come. What a call does
is a program of small steps between which other calls may run.
-/

namespace QueueBroker

/-- What came of something that may take too long. -/
inductive Awaited (α : Type) where
  | arrived (a : α)
  | failed (e : BrokerError)
  /-- The time for it is up. -/
  | elapsed

/-- One step of a client. -/
inductive ClientOp where
  /-- Connect to an address, within some seconds. -/
  | connect (host : String) (port : UInt16) (seconds : Nat)
  /-- Wait until no other call holds the connection. -/
  | hold
  | release
  /-- Whether there is a connection. -/
  | isConnected
  /-- Write a frame to the connection. -/
  | write (frame : Bytes)
  /-- Wait for the next reply; none once the broker has closed the connection. -/
  | awaitReply
  /-- Forget the connection. -/
  | drop
  /-- Close the connection. -/
  | close

/-- What a step is answered with. -/
@[reducible] def ClientOp.Reply : ClientOp → Type
  | connect _ _ _ => Awaited (Except NetworkFault Unit)
  | hold => Unit
  | release => Unit
  | isConnected => Bool
  | write _ => Awaited Unit
  | awaitReply => Awaited (Option Response)
  | drop => Unit
  | close => Except BrokerError Unit

/-- A computation of a client. -/
abbrev ClientProgram := Program ClientOp.Reply

namespace Client

/-- Connect to a broker. -/
def connect (config : ClientConfig) : ClientProgram (Except BrokerError Unit) :=
  match config.fault? with
  | some fault => pure (.error (.config fault))
  | none => do
    match ← Program.request (ClientOp.connect config.address config.port config.timeoutSeconds.toNat) with
    | .elapsed => pure (.error (.connection .timedOut))
    | .failed e => pure (.error e)
    | .arrived (.error fault) => pure (.error (.connection (.failed config.target fault)))
    | .arrived (.ok _) => pure (.ok ())

/-- Write a request and wait for its reply, on a connection that is held. -/
def exchange (config : ClientConfig) (request : Request) : ClientProgram (Awaited Response) :=
  match request.frame config.maxFrameLength.toNat with
  | .error e => pure (.failed e)
  | .ok frame => do
    match ← Program.request (ClientOp.write frame) with
    | .failed e => pure (.failed e)
    | .elapsed => pure .elapsed
    | .arrived _ =>
      match ← Program.request ClientOp.awaitReply with
      | .failed e => pure (.failed e)
      | .elapsed => pure .elapsed
      | .arrived none => pure (.failed (.connection .closedByBroker))
      | .arrived (some response) => pure (.arrived response)

/-- Ask for something. An error reply is a failure that leaves the connection usable; any other failure drops it. -/
def request (config : ClientConfig) (request : Request) : ClientProgram (Except BrokerError Response) := do
  Program.request ClientOp.hold
  let result ←
    if ← Program.request ClientOp.isConnected then
      match ← exchange config request with
      | .arrived (.error reply) => pure (.error reply.toError)
      | .arrived response => pure (.ok response)
      | .failed e =>
        Program.request ClientOp.drop
        pure (.error e)
      | .elapsed =>
        Program.request ClientOp.drop
        pure (.error (.timeout (.noReply request.op config.timeoutSeconds.toNat)))
    else pure (.error .notConnected)
  Program.request ClientOp.release
  pure result

/-- The failure of a request that got a reply of the wrong kind. -/
def unexpected {α : Type} (request : Request) (response : Response) : Except BrokerError α :=
  .error (.protocol (.unexpectedReply response.kind request.op))

/-- Send a message, and wait until the broker has stored it. -/
def send (config : ClientConfig) (m : Message) : ClientProgram (Except BrokerError Unit) := do
  match ← request config (.send m) with
  | .error e => pure (.error e)
  | .ok .ack => pure (.ok ())
  | .ok other => pure (unexpected (.send m) other)

/-- Whether a destination has a message waiting. -/
def check (config : ClientConfig) (destination : String) : ClientProgram (Except BrokerError Bool) := do
  match ← request config (.check destination) with
  | .error e => pure (.error e)
  | .ok (.available waiting) => pure (.ok waiting)
  | .ok other => pure (unexpected (.check destination) other)

/-- Take the oldest message of a destination, if there is one. -/
def receive (config : ClientConfig) (destination : String) : ClientProgram (Except BrokerError (Option Message)) := do
  match ← request config (.receive destination) with
  | .error e => pure (.error e)
  | .ok (.message m) => pure (.ok (some m))
  | .ok .empty => pure (.ok none)
  | .ok other => pure (unexpected (.receive destination) other)

/-- Close the connection, if there is one. -/
def close : ClientProgram (Except BrokerError Unit) := do
  Program.request ClientOp.hold
  let result ←
    if ← Program.request ClientOp.isConnected then
      let closed ← Program.request ClientOp.close
      Program.request ClientOp.drop
      pure closed
    else pure (.ok ())
  Program.request ClientOp.release
  pure result

end Client

end QueueBroker

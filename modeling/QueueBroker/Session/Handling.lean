import QueueBroker.Protocol.Response
import QueueBroker.Protocol.Request
import QueueBroker.Queue.Registry

/-!
# Handling requests

What the broker does for one request, and what it answers. A failure is an answer too; a destination without messages is none.
-/

namespace QueueBroker.Request

/-- Put a message into the queue of its destination. -/
def handleSend (m : Message) : RegistryProgram (Except BrokerError Response) := do
  match ← Registry.getOrCreate m.destination with
  | .error e => pure (.error e)
  | .ok id =>
    match ← Registry.whileHolding id (Program.request (RegistryOp.enqueue id m)) with
    | .error e => pure (.error e)
    | .ok _ => pure (.ok .ack)

/-- Say whether a destination has a message waiting. -/
def handleCheck (destination : String) : RegistryProgram (Except BrokerError Response) := do
  match ← Registry.get destination with
  | .error e => pure (.error e)
  | .ok none => pure (.ok (.available false))
  | .ok (some id) =>
    let isEmpty ← Registry.whileHolding id (Program.request (RegistryOp.isEmpty id))
    pure (.ok (.available !isEmpty))

/-- Take the oldest message of a destination. -/
def handleReceive (destination : String) : RegistryProgram (Except BrokerError Response) := do
  match ← Registry.get destination with
  | .error e => pure (.error e)
  | .ok none => pure (.ok .empty)
  | .ok (some id) =>
    match ← Registry.whileHolding id (Program.request (RegistryOp.dequeue id)) with
    | .error e => pure (.error e)
    | .ok none => pure (.ok .empty)
    | .ok (some m) => pure (.ok (.message m))

/-- Do what a request asks for. -/
def attempt : Request → RegistryProgram (Except BrokerError Response)
  | send m => handleSend m
  | check destination => handleCheck destination
  | receive destination => handleReceive destination

/-- Do what a request asks for and say what came of it. -/
def handle (r : Request) : RegistryProgram Response := do
  match ← r.attempt with
  | .ok response => pure response
  | .error e => pure (.error (ErrorReply.ofError e))

end QueueBroker.Request

import QueueBroker.Broker.State
import QueueBroker.Program
import QueueBroker.Session.Loop

/-!
# The life of a broker

A broker listens once: it is started, accepts connections, and is stopped for good. Starting and stopping wait for the disk, the
network and the accept loop, and both may be under way at once, so they are programs of small steps on the machine that the
broker runs on. An accept loop is a machine of its own: it runs until it heeds the signal to end or its socket fails, and is over
when its sessions are.
-/

namespace QueueBroker

/-- The number of an accept loop among those a broker ever began. -/
abbrev AcceptorId := Nat

/-- How far an accept loop has come. -/
inductive AcceptPhase where
  | accepting
  /-- It accepts no more, but waits for its sessions. -/
  | draining (outcome : Except BrokerError Unit)
  | ended (outcome : Except BrokerError Unit)

/-- An accept loop. -/
structure Acceptor where
  listener : Listener
  /-- Whether the signal to end was still to come when the loop began; a loop that began after it waits for another. -/
  heedsSignal : Bool
  phase : AcceptPhase
  /-- Every session it ever began. -/
  sessions : List Session

/-- A broker. -/
structure Broker where
  config : BrokerConfig
  state : BrokerState
  /-- The socket it listens on, or listened on last. -/
  address : Option Listener
  /-- Whether all sessions and accept loops were told to end. -/
  signal : Bool
  acceptors : List Acceptor
  /-- The accept loop whose end is waited for when the broker is stopped. -/
  current : Option AcceptorId
  /-- Why the broker stopped listening on its own, if it did. -/
  failure : Option ServerFault

/-- A broker, and the machine it runs on. -/
structure Host where
  broker : Broker
  network : Network
  store : Store

namespace Broker

/-- A broker that was not started yet. -/
def new (config : BrokerConfig) : Except BrokerError Broker :=
  match config.fault? with
  | some fault => .error (.config fault)
  | none => .ok {
      config
      state := .created
      address := none
      signal := false
      acceptors := []
      current := none
      failure := none }

/-- The registry of a broker's queues, as yet without any. -/
def registry (config : BrokerConfig) : Registry :=
  .new config.storage.directory config.storage.syncOnWrite

end Broker

/-! ## Accept loops -/

namespace Host

/-- Change an accept loop. -/
def setAcceptor (h : Host) (id : AcceptorId) (a : Acceptor) : Host :=
  { h with broker := { h.broker with acceptors := h.broker.acceptors.set id a } }

/-- Tell all sessions and accept loops to end. -/
def raiseSignal (h : Host) : Host :=
  { h with broker := { h.broker with signal := true } }

/-- An accept loop takes a connection, while it accepts any. -/
def acceptConnection (h : Host) (id : AcceptorId) (now : Nat) : Option Host := do
  let a ← h.broker.acceptors[id]?
  match a.phase with
  | .accepting => some (h.setAcceptor id { a with sessions := a.sessions ++ [.start h.broker.config.server.toSession now] })
  | _ => none

/-- An accept loop stops listening. -/
def stopListening (h : Host) (id : AcceptorId) (a : Acceptor) (outcome : Except BrokerError Unit) : Host :=
  { h.setAcceptor id { a with phase := .draining outcome } with network := h.network.release a.listener }

/-- The socket of an accept loop fails, which ends everything. -/
def failListening (h : Host) (id : AcceptorId) (cause : Errno) : Option Host := do
  let a ← h.broker.acceptors[id]?
  match a.phase with
  | .accepting =>
    let fault := ServerFault.accept cause
    let h := h.stopListening id a (.error (.server fault))
    some { h with broker := { h.broker with signal := true, failure := some fault } }
  | _ => none

/-- An accept loop goes on by itself: it heeds the signal, or is over when its sessions are. -/
def advanceAcceptor (h : Host) (id : AcceptorId) : Option Host := do
  let a ← h.broker.acceptors[id]?
  match a.phase with
  | .accepting => if h.broker.signal && a.heedsSignal then some (h.stopListening id a (.ok ())) else none
  | .draining outcome =>
    if a.sessions.all (·.isOver) then some (h.setAcceptor id { a with phase := .ended outcome }) else none
  | .ended _ => none

/-- Sessions that are told to end, do, unless they are over already. -/
def endSessions (sessions : List Session) : List Session :=
  sessions.map fun s => if s.isOver then s else s.finish (.ok ())

/-- Let an accept loop come to its end, with nobody else at work: its sessions are idle and heed the signal. -/
def finishAcceptor (h : Host) (id : AcceptorId) : Host :=
  let step (h : Host) : Host := (h.advanceAcceptor id).getD h
  let drain (h : Host) : Host :=
    match h.broker.acceptors[id]? with
    | some a => if h.broker.signal then h.setAcceptor id { a with sessions := endSessions a.sessions } else h
    | none => h
  step (drain (step h))

/-- What an accept loop that is over ended with. -/
def acceptorOutcome? (h : Host) (id : AcceptorId) : Option (Except BrokerError Unit) :=
  match h.broker.acceptors[id]? with
  | some { phase := .ended outcome, .. } => some outcome
  | _ => none

end Host

/-! ## Starting and stopping -/

/-- One step of starting or stopping. -/
inductive LifecycleOp where
  /-- Pass from one state to another; told the state that stands in the way, if another does. -/
  | pass (origin target : BrokerState)
  /-- Give up for good. -/
  | giveUp
  | makeStorage
  | listen
  /-- Note the address, and begin to accept. -/
  | beginAccepting (listener : Listener)
  | raiseSignal
  /-- The accept loop to wait for, of which nobody else is told after. -/
  | takeAcceptor
  /-- Wait for the end of an accept loop. -/
  | awaitAcceptor (id : AcceptorId)
  | closeQueues

/-- What a step is answered with. -/
@[reducible] def LifecycleOp.Reply : LifecycleOp → Type
  | pass _ _ => Option BrokerState
  | giveUp => Unit
  | makeStorage => Except Errno Unit
  | listen => Except NetworkFault Listener
  | beginAccepting _ => Unit
  | raiseSignal => Unit
  | takeAcceptor => Option AcceptorId
  | awaitAcceptor _ => Except BrokerError Unit
  | closeQueues => Except BrokerError Unit

/-- A computation that starts or stops a broker. -/
abbrev LifecycleProgram := Program LifecycleOp.Reply

namespace Broker

/-- Make the directory of the queues and listen. -/
def bind (config : BrokerConfig) : LifecycleProgram (Except BrokerError Listener) := do
  match ← Program.request LifecycleOp.makeStorage with
  | .error cause => pure (.error (.storage (.file .create config.storage.directory cause)))
  | .ok _ =>
    match ← Program.request LifecycleOp.listen with
    | .error fault => pure (.error (.server (.bind config.listenAddress fault)))
    | .ok listener => pure (.ok listener)

/-- Start a broker. One that fails to start is stopped for good. -/
def start (config : BrokerConfig) : LifecycleProgram (Except BrokerError Unit) := do
  match ← Program.request (LifecycleOp.pass .created .started) with
  | some state => pure (.error (.state (.cannotStart state)))
  | none =>
    match ← bind config with
    | .error e =>
      Program.request LifecycleOp.giveUp
      pure (.error e)
    | .ok listener =>
      Program.request (LifecycleOp.beginAccepting listener)
      pure (.ok ())

/-- Stop a broker: no more connections, every session ends, then the queues are closed. The first failure is the result. -/
def stop : LifecycleProgram (Except BrokerError Unit) := do
  match ← Program.request (LifecycleOp.pass .started .stopped) with
  | some state => pure (.error (.state (.cannotStop state)))
  | none =>
    Program.request LifecycleOp.raiseSignal
    let accepted ← match ← Program.request LifecycleOp.takeAcceptor with
      | some id => Program.request (LifecycleOp.awaitAcceptor id)
      | none => pure (.ok ())
    let closed ← Program.request LifecycleOp.closeQueues
    match accepted with
    | .error e => pure (.error e)
    | .ok _ => pure closed

end Broker

namespace Host

/-- What a step does, with nobody else at work. -/
def perform : (op : LifecycleOp) → Host → op.Reply × Host
  | .pass origin target, h =>
    if h.broker.state = origin then (none, { h with broker := { h.broker with state := target } })
    else (some h.broker.state, h)
  | .giveUp, h => ((), { h with broker := { h.broker with state := .stopped } })
  | .makeStorage, h =>
    let (made, disk) := h.store.disk.makeDirectories h.broker.config.storage.directory
    (made, { h with store := { h.store with disk } })
  | .listen, h =>
    let settings := h.broker.config.server
    let (listening, network) := h.network.listen settings.bindAddress settings.port
    (listening, { h with network })
  | .beginAccepting listener, h =>
    let acceptor : Acceptor := ⟨listener, !h.broker.signal, .accepting, []⟩
    let broker := { h.broker with
      address := some listener
      acceptors := h.broker.acceptors ++ [acceptor]
      current := some h.broker.acceptors.length }
    ((), { h with broker })
  | .raiseSignal, h => ((), h.raiseSignal)
  | .takeAcceptor, h => (h.broker.current, { h with broker := { h.broker with current := none } })
  | .awaitAcceptor id, h =>
    let h := h.finishAcceptor id
    ((h.acceptorOutcome? id).getD (.ok ()), h)
  | .closeQueues, h =>
    let (closed, store) := h.store.run Registry.closeAll
    (closed, { h with store })

/-- Whether a step can be made now; waiting for an accept loop takes until it is over. -/
def ready : LifecycleOp → Host → Bool
  | .awaitAcceptor id, h => (h.acceptorOutcome? id).isSome
  | _, _ => true

/-- Make a step if it need not wait. -/
def answer (op : LifecycleOp) (h : Host) : Option (op.Reply × Host) :=
  if h.ready op then some (h.perform op) else none

/-- Run a program with nobody else at work. -/
def run {α : Type} (p : LifecycleProgram α) (h : Host) : α × Host :=
  Program.run (fun op h => h.perform op) p h

/-- Start the broker. -/
def start (h : Host) : Except BrokerError Unit × Host :=
  h.run (Broker.start h.broker.config)

/-- Stop the broker. -/
def stop (h : Host) : Except BrokerError Unit × Host :=
  h.run Broker.stop

/-- Drop the broker without stopping it: sessions and accept loops are told to end, but the queues are left as they are. -/
def drop (h : Host) : Host :=
  if h.broker.state = .started then
    let h := h.raiseSignal
    (List.range h.broker.acceptors.length).foldl finishAcceptor h
  else h

end Host

end QueueBroker

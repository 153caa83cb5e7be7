import QueueBroker.Broker.Lifecycle
import QueueBroker.Machine.Sockets
import Std.Async.Signal
import Std.Sync.CancellationToken
import Std.Sync.Mutex

/-!
# A broker on this machine

The programs that start and stop a broker, and those of its sessions, run on the files and sockets of the machine that the process
is on. Every connection has a thread; work on the registry is done under one lock, one request at a time.
-/

namespace QueueBroker.Machine

open Std.Async

/-- A broker that runs on this machine. -/
structure Service where
  config : BrokerConfig
  files : OpenFiles
  shared : Std.Mutex Shared
  state : Std.Mutex BrokerState
  /-- The sockets that were made to listen. -/
  sockets : IO.Ref (Array TCP.Socket.Server)
  /-- The accept loop to wait for. -/
  acceptor : IO.Ref (Option (Task (Except IO.Error (Except BrokerError Unit))))
  /-- Told to every session and accept loop when they are to end. -/
  signal : Std.CancellationToken
  /-- Told when the broker stops listening on its own. -/
  failed : Std.CancellationToken
  failure : IO.Ref (Option ServerFault)

namespace Service

/-- A broker with some settings, as yet without queues. -/
def new (config : BrokerConfig) : IO Service := do
  pure {
    config
    files := ← IO.mkRef #[]
    shared := ← Std.Mutex.new (Shared.start (Broker.registry config))
    state := ← Std.Mutex.new .created
    sockets := ← IO.mkRef #[]
    acceptor := ← IO.mkRef none
    signal := ← Std.CancellationToken.new
    failed := ← Std.CancellationToken.new
    failure := ← IO.mkRef none }

/-- Run a program on the registry, with nobody else at work. -/
def execute {α : Type} (s : Service) (p : RegistryProgram α) : IO α :=
  s.shared.atomically do
    let (a, shared) ← liftM ((Shared.execute p (← get)).runM s.files.perform)
    set shared
    pure a

/-! ## Sessions -/

/-- What wakes a session. -/
inductive Wake where
  | input (bytes : ByteArray)
  | endOfInput
  | other

/-- Wait until something reaches a session, its time is up, or it is told to end. -/
def awaitWake (s : Service) (peer : TCP.Socket.Client) (deadline : Option Nat) : IO Wake := do
  let arrived (bytes : Option ByteArray) : Async Wake :=
    pure (match bytes with
      | some bytes => .input bytes
      | none => .endOfInput)
  let always : Array (Selectable Wake) :=
    #[.case (peer.recvSelector portion) arrived, .case s.signal.selector fun _ => pure .other]
  let timed : Async Wake := do
    match deadline with
    | none => Selectable.one always
    | some deadline =>
      let ring ← clock (deadline - (← IO.monoMsNow))
      Selectable.one (always.push (.case ring fun _ => pure .other))
  timed.block

/-- Serve a connection until its session is over. -/
partial def converse (s : Service) (peer : TCP.Socket.Client) (session : Session) : IO Unit := do
  unless session.isOver do
    match session.turn (← s.signal.isCancelled) (← IO.monoMsNow) with
    | (.finish _, _) => pure ()
    | (.wait, session) =>
      match ← s.awaitWake peer session.deadline with
      | .input bytes => s.converse peer (session.feed (ofByteArray bytes))
      | .endOfInput => s.converse peer session.endInput
      | .other => s.converse peer session
    | (.serve request, session) =>
      let response ← s.execute request.handle
      let (frame, session) := session.reply (← IO.monoMsNow) response
      if let some frame := frame then
        (peer.send (toByteArray frame)).block
      s.converse peer session

/-- Serve a connection and close it; a connection that breaks is over. -/
def serve (s : Service) (peer : TCP.Socket.Client) : IO Unit := do
  try
    s.converse peer (.start s.config.server.toSession (← IO.monoMsNow))
    (TCP.Socket.Client.shutdown peer).block
  catch _ => pure ()

/-! ## Accepting -/

/-- Accept connections until told to end. A socket that fails ends everything. -/
partial def acceptAll (s : Service) (socket : TCP.Socket.Server) (sessions : Array (Task (Except IO.Error Unit))) :
    IO (Except BrokerError Unit) := do
  let next : Async (Option TCP.Socket.Client) :=
    Selectable.one #[.case socket.acceptSelector fun peer => pure (some peer), .case s.signal.selector fun _ => pure none]
  let stop (outcome : Except BrokerError Unit) : IO (Except BrokerError Unit) := do
    for session in sessions do
      let _ ← IO.wait session
    pure outcome
  match ← attempt next.block with
  | .ok (some peer) =>
    let session ← IO.asTask (s.serve peer) .dedicated
    let running ← sessions.filterM fun session => do pure !(← IO.hasFinished session)
    s.acceptAll socket (running.push session)
  | .ok none => stop (.ok ())
  | .error cause =>
    let fault := ServerFault.accept cause
    s.failure.set (some fault)
    s.failed.cancel
    s.signal.cancel
    stop (.error (.server fault))

/-! ## Starting and stopping -/

/-- Pass from one state to another; the state that stands in the way, if another does. -/
def pass (s : Service) (origin target : BrokerState) : IO (Option BrokerState) :=
  s.state.atomically do
    let state ← get
    if state = origin then
      set target
      pure none
    else pure (some state)

/-- Listen where the settings say, and remember the socket. -/
def listen (s : Service) : IO (Except NetworkFault Listener) := do
  let settings := s.config.server
  match ← listenAt settings.bindAddress settings.port with
  | .error fault => pure (.error fault)
  | .ok socket =>
    s.sockets.modify (·.push socket)
    let address ← socket.getSockName
    pure (.ok ⟨settings.bindAddress, address.port⟩)

/-- Begin to accept at the socket that was made to listen last. -/
def beginAccepting (s : Service) : IO Unit := do
  let sockets ← s.sockets.swap #[]
  if let some socket := sockets.back? then
    let loop ← IO.asTask (s.acceptAll socket #[]) .dedicated
    s.acceptor.set (some loop)

/-- Wait for the end of the accept loop. -/
def awaitAcceptor (s : Service) : IO (Except BrokerError Unit) := do
  match ← s.acceptor.swap none with
  | none => pure (.ok ())
  | some loop =>
    match ← IO.wait loop with
    | .ok outcome => pure outcome
    | .error e => pure (.error (.server (.reported ("accept loop panicked: " ++ toString e))))

/-- Make one step of starting or stopping. -/
def perform (s : Service) : (op : LifecycleOp) → IO op.Reply
  | .pass origin target => s.pass origin target
  | .giveUp => s.state.atomically (set BrokerState.stopped)
  | .makeStorage => attempt (IO.FS.createDirAll s.config.storage.directory)
  | .listen => s.listen
  | .beginAccepting _ => s.beginAccepting
  | .raiseSignal => s.signal.cancel
  | .takeAcceptor => do pure ((← s.acceptor.get).map fun _ => 0)
  | .awaitAcceptor _ => s.awaitAcceptor
  | .closeQueues => s.execute Registry.closeAll

/-- Start the broker. -/
def start (s : Service) : IO (Except BrokerError Unit) :=
  (Broker.start s.config).runM s.perform

/-- Stop the broker. -/
def stop (s : Service) : IO (Except BrokerError Unit) :=
  Broker.stop.runM s.perform

/-- Wait until the process is interrupted, or the broker stops listening on its own; why it did, if it did. -/
def awaitEnd (s : Service) : IO (Option ServerFault) := do
  let interrupt ← Signal.Waiter.mk .sigint false
  let ended : Async Unit :=
    Selectable.one #[.case interrupt.selector fun _ => pure (), .case s.failed.selector fun _ => pure ()]
  ended.block
  s.failure.get

end Service

end QueueBroker.Machine

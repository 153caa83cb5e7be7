import QueueBroker.Queue.Durable

/-!
# The registry of open queues

The registry maps the names of destinations to their open queues. It is shared by all sessions, so what they do with it is a
program of small steps between which other sessions may run: looking a name up, waiting for a lock, opening a queue, working on
it. `Shared.perform` says what a step does, as a program on the files, and `Shared.ready` when it must wait.
-/

namespace QueueBroker

/-- The number of a queue among all that were ever opened. -/
abbrev QueueId := Nat

/-- One step of work on the registry and its queues. -/
inductive RegistryOp where
  /-- The open queue of a name. -/
  | lookup (name : String)
  /-- Whether the log of a name is there. -/
  | hasLog (name : String)
  /-- Wait until nobody else opens queues. -/
  | lockOpening
  | unlockOpening
  /-- Make the directory of the files. -/
  | makeStorage
  /-- Open the queue of a name. -/
  | openQueue (name : String)
  /-- Enter a queue under a name. -/
  | insert (name : String) (id : QueueId)
  /-- All entries. -/
  | entries
  /-- Forget all entries. -/
  | clear
  /-- Wait until nobody else works on a queue. -/
  | lockQueue (id : QueueId)
  | unlockQueue (id : QueueId)
  | isClosed (id : QueueId)
  | isEmpty (id : QueueId)
  | enqueue (id : QueueId) (m : Message)
  | dequeue (id : QueueId)
  | close (id : QueueId)

/-- What a step is answered with. -/
@[reducible] def RegistryOp.Reply : RegistryOp → Type
  | lookup _ => Option QueueId
  | hasLog _ => Except BrokerError Bool
  | lockOpening => Unit
  | unlockOpening => Unit
  | makeStorage => Except BrokerError Unit
  | openQueue _ => Except BrokerError QueueId
  | insert _ _ => Unit
  | entries => List (String × QueueId)
  | clear => Unit
  | lockQueue _ => Unit
  | unlockQueue _ => Unit
  | isClosed _ => Bool
  | isEmpty _ => Bool
  | enqueue _ _ => Except BrokerError Unit
  | dequeue _ => Except BrokerError (Option Message)
  | close _ => Except BrokerError Unit

/-- A computation that works on the registry. -/
abbrev RegistryProgram := Program RegistryOp.Reply

/-- A registry: the directory of the files, whether records are made to stay, and the open queues by name. -/
structure Registry where
  storage : String
  durable : Bool
  entries : List (String × QueueId)
deriving Repr, Inhabited

namespace Registry

/-- A registry without open queues. -/
def new (storage : String) (durable : Bool) : Registry :=
  ⟨storage, durable, []⟩

/-- The open queue of a name. -/
def lookup (r : Registry) (name : String) : Option QueueId :=
  r.entries.lookup name

/-- Enter a queue under a name, in place of one that was there. -/
def insert (r : Registry) (name : String) (id : QueueId) : Registry :=
  { r with entries := r.entries.filter (·.1 != name) ++ [(name, id)] }

/-- Forget all entries. -/
def clear (r : Registry) : Registry :=
  { r with entries := [] }

/-- The names of the open queues, sorted. -/
def destinations (r : Registry) : List String :=
  (r.entries.map (·.1)).mergeSort fun a b => decide (a ≤ b)

end Registry

/-- What sessions share, the files apart: every queue that was ever opened, the registry, and who waits for whom. -/
structure Shared where
  queues : List DurableQueue
  registry : Registry
  /-- Whether somebody may open queues and nobody else may. -/
  opening : Bool
  /-- The queues that somebody works on. -/
  busy : List QueueId
deriving Repr

namespace Shared

/-- What sessions share before the first of them begins. -/
def start (registry : Registry) : Shared :=
  ⟨[], registry, false, []⟩

/-- Work on one queue; on one that was never opened nothing happens. -/
def onQueue {α : Type} (s : Shared) (id : QueueId) (missing : α)
    (work : DurableQueue → FileProgram (α × DurableQueue)) : FileProgram (α × Shared) :=
  match s.queues[id]? with
  | none => pure (missing, s)
  | some q => do
    let (a, q) ← work q
    pure (a, { s with queues := s.queues.set id q })

/-- The failure of work on a queue that was never opened. -/
def noQueue (id : QueueId) : BrokerError :=
  .state (.queueClosed (toString id))

/-- Open the queue of a name. -/
def openQueue (s : Shared) (name : String) : FileProgram (Except BrokerError QueueId × Shared) := do
  match ← (DurableQueue.openIn name s.registry.storage s.registry.durable).run with
  | .error e => pure (.error e, s)
  | .ok q => pure (.ok s.queues.length, { s with queues := s.queues ++ [q] })

/-- What a step does. -/
def perform : (op : RegistryOp) → Shared → FileProgram (op.Reply × Shared)
  | .lookup name, s => pure (s.registry.lookup name, s)
  | .hasLog name, s => do
    let path := DurableQueue.logPathOf s.registry.storage name
    let found ← ((FileAttempt.pathExists path).storage .stat path).run
    pure (found, s)
  | .lockOpening, s => pure ((), { s with opening := true })
  | .unlockOpening, s => pure ((), { s with opening := false })
  | .makeStorage, s => do
    let path := s.registry.storage
    let made ← ((FileAttempt.makeDirectories path).storage .create path).run
    pure (made, s)
  | .openQueue name, s => s.openQueue name
  | .insert name id, s => pure ((), { s with registry := s.registry.insert name id })
  | .entries, s => pure (s.registry.entries, s)
  | .clear, s => pure ((), { s with registry := s.registry.clear })
  | .lockQueue id, s => pure ((), { s with busy := id :: s.busy })
  | .unlockQueue id, s => pure ((), { s with busy := s.busy.erase id })
  | .isClosed id, s => pure ((s.queues[id]?).all (·.isClosed), s)
  | .isEmpty id, s => pure ((s.queues[id]?).all (·.isEmpty), s)
  | .enqueue id m, s => s.onQueue id (.error (noQueue id)) (·.enqueue m)
  | .dequeue id, s => s.onQueue id (.error (noQueue id)) (·.dequeue)
  | .close id, s => s.onQueue id (.error (noQueue id)) (·.close)

/-- Whether a step can be made now; it waits for a lock that somebody else holds. -/
def ready : RegistryOp → Shared → Bool
  | .lockOpening, s => !s.opening
  | .lockQueue id, s => !s.busy.contains id
  | _, _ => true

/-- The program on the files that a program on the registry comes to, with nobody else at work. -/
def execute {α : Type} : RegistryProgram α → Shared → FileProgram (α × Shared)
  | .done a, s => pure (a, s)
  | .ask op next, s => do
    let (reply, s) ← s.perform op
    execute (next reply) s

end Shared

/-- What sessions share, together with the disk. -/
structure Store where
  shared : Shared
  disk : Disk
deriving Repr

namespace Store

/-- Make a step if it need not wait. -/
def answer (op : RegistryOp) (s : Store) : Option (op.Reply × Store) :=
  if s.shared.ready op then
    let ((reply, shared), disk) := (s.shared.perform op).run s.disk
    some (reply, ⟨shared, disk⟩)
  else none

/-- Run a program with nobody else at work. -/
def run {α : Type} (p : RegistryProgram α) (s : Store) : α × Store :=
  let ((a, shared), disk) := (Shared.execute p s.shared).run s.disk
  (a, ⟨shared, disk⟩)

end Store

namespace Registry

/-- Do something while nobody else opens queues. -/
def whileOpening {α : Type} (p : RegistryProgram α) : RegistryProgram α := do
  Program.request RegistryOp.lockOpening
  let a ← p
  Program.request RegistryOp.unlockOpening
  pure a

/-- Do something to a queue while nobody else works on it. -/
def whileHolding {α : Type} (id : QueueId) (p : RegistryProgram α) : RegistryProgram α := do
  Program.request (RegistryOp.lockQueue id)
  let a ← p
  Program.request (RegistryOp.unlockQueue id)
  pure a

/-- Open the queue of a name and enter it. -/
def openAndInsert (name : String) : RegistryProgram (Except BrokerError QueueId) := do
  match ← Program.request (RegistryOp.openQueue name) with
  | .error e => pure (.error e)
  | .ok id =>
    Program.request (RegistryOp.insert name id)
    pure (.ok id)

/-- The queue of a destination, opened or made if need be. The name is looked up again once nobody else opens queues, so that
there is never a second queue for it. -/
def getOrCreate (name : String) : RegistryProgram (Except BrokerError QueueId) := do
  match ← Program.request (RegistryOp.lookup name) with
  | some id => pure (.ok id)
  | none =>
    match Destination.validate name with
    | .error e => pure (.error e)
    | .ok _ =>
      whileOpening do
        match ← Program.request (RegistryOp.lookup name) with
        | some id => pure (.ok id)
        | none =>
          match ← Program.request RegistryOp.makeStorage with
          | .error e => pure (.error e)
          | .ok _ => openAndInsert name

/-- The queue of a destination, if it is open or its log is there. A name that is not valid has no queue. -/
def get (name : String) : RegistryProgram (Except BrokerError (Option QueueId)) := do
  match ← Program.request (RegistryOp.lookup name) with
  | some id => pure (.ok (some id))
  | none =>
    match Destination.validate name with
    | .error _ => pure (.ok none)
    | .ok _ =>
      match ← Program.request (RegistryOp.hasLog name) with
      | .error e => pure (.error e)
      | .ok false => pure (.ok none)
      | .ok true =>
        whileOpening do
          match ← Program.request (RegistryOp.lookup name) with
          | some id => pure (.ok (some id))
          | none =>
            match ← openAndInsert name with
            | .error e => pure (.error e)
            | .ok id => pure (.ok (some id))

/-- Close some queues that are not closed yet. The first failure is the result, but all are tried. -/
def closeEach : List (String × QueueId) → RegistryProgram (Except BrokerError Unit)
  | [] => pure (.ok ())
  | (_, id) :: entries => do
    let closed ← whileHolding id do
      if ← Program.request (RegistryOp.isClosed id) then pure (.ok ())
      else Program.request (RegistryOp.close id)
    let rest ← closeEach entries
    match closed with
    | .error e => pure (.error e)
    | .ok _ => pure rest

/-- Forget all open queues and close them. -/
def closeAll : RegistryProgram (Except BrokerError Unit) := do
  let entries ← Program.request RegistryOp.entries
  Program.request RegistryOp.clear
  closeEach entries

end Registry

end QueueBroker

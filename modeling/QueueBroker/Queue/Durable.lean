import QueueBroker.Queue.Log
import QueueBroker.Storage.FileProgram

/-!
# Durable queues

The queue of one destination: its pending messages in memory, and its two files. A message is pending only after its record was
written, and leaves only after its checkpoint was. A record that cannot be written is cut off again; if that fails too, the
queue is closed, so that nothing is ever written after a torn record.
-/

namespace QueueBroker

/-- The open files of a queue, with the lengths that their complete records take. -/
structure QueueFiles where
  log : Handle
  logLength : Nat
  checkpoint : Handle
  checkpointLength : Nat
deriving DecidableEq, Repr

/-- The queue of a destination. -/
structure DurableQueue where
  name : String
  /-- The directory that holds the files. -/
  storage : String
  /-- Whether every record is made to stay before the next step. -/
  durable : Bool
  /-- The messages not yet taken, oldest first. -/
  pending : List Message
  /-- How many messages were ever taken. -/
  taken : Nat
  /-- The open files; none once the queue is closed. -/
  files : Option QueueFiles
deriving Repr

namespace DurableQueue

/-- The path of the log of a destination. -/
def logPathOf (storage name : String) : String :=
  Disk.join storage (Destination.logName name)

/-- The path of the checkpoint file of a destination. -/
def checkpointPathOf (storage name : String) : String :=
  Disk.join storage (Destination.checkpointName name)

/-- The path of the log. -/
def logPath (q : DurableQueue) : String :=
  logPathOf q.storage q.name

/-- The path of the checkpoint file. -/
def checkpointPath (q : DurableQueue) : String :=
  checkpointPathOf q.storage q.name

/-- Whether the queue was closed. -/
def isClosed (q : DurableQueue) : Bool :=
  q.files.isNone

/-- Whether no message is pending. -/
def isEmpty (q : DurableQueue) : Bool :=
  q.pending.isEmpty

/-- The message that would be taken next. -/
def peek (q : DurableQueue) : Option Message :=
  q.pending.head?

/-! ## Opening -/

/-- What the files of a queue say: its pending messages, how many were taken, and the lengths of the complete records. `stale`
says that the checkpoint counted more messages than the log holds. -/
structure Recovered where
  pending : List Message
  taken : Nat
  logLength : Nat
  checkpointLength : Nat
  stale : Bool

/-- Read the checkpoint file and cut off an incomplete record: the last record and the length of all. A missing file counts
as empty. -/
def readCheckpoint (path : String) : FileAttempt Errno (Nat × Nat) := do
  let opened ← ExceptT.lift (FileAttempt.openExisting path).run
  match opened with
  | .error e => if e = .noEntry then pure (0, 0) else throw e
  | .ok h =>
    let bytes ← FileAttempt.read h
    let complete := Checkpoint.completeLength bytes
    if complete ≠ bytes.length then FileAttempt.truncate h complete
    pure (Checkpoint.last bytes, complete)

/-- Read the log after `skip` records and cut off what is not kept of it. -/
def readLog (path : String) (skip : Nat) : FileAttempt Errno Log.Contents := do
  let h ← FileAttempt.openExisting path
  let bytes ← FileAttempt.read h
  let contents := Log.scan skip bytes
  if contents.length < bytes.length then FileAttempt.truncate h contents.length
  pure contents

/-- Find out what the files of a queue say, and repair them. Without a log the checkpoints mean nothing and are dropped. -/
def recover (logPath checkpointPath : String) : FileAttempt BrokerError Recovered := do
  if ← (FileAttempt.pathExists logPath).storage .stat logPath then
    let (taken, checkpointLength) ← (readCheckpoint checkpointPath).storage .read checkpointPath
    let contents ← (readLog logPath taken).storage .read logPath
    pure {
      pending := contents.pending
      taken := min taken contents.records
      logLength := contents.length
      checkpointLength
      stale := contents.records < taken }
  else
    if ← (FileAttempt.pathExists checkpointPath).storage .stat checkpointPath then
      let _ ← (FileAttempt.resetTo checkpointPath 0).storage .reset checkpointPath
    pure { pending := [], taken := 0, logLength := 0, checkpointLength := 0, stale := false }

/-- Open the queue of a destination in a directory, making files that are missing. A stale checkpoint is followed by one that
agrees with the log. -/
def openIn (name storage : String) (durable : Bool) : FileAttempt BrokerError DurableQueue := do
  match Destination.validate name with
  | .error e => throw e
  | .ok _ => pure ()
  let logPath := logPathOf storage name
  let checkpointPath := checkpointPathOf storage name
  let found ← recover logPath checkpointPath
  let log ← (FileAttempt.openAppend logPath).storage .openFile logPath
  let checkpoint ← (FileAttempt.openAppend checkpointPath).storage .openFile checkpointPath
  if found.stale then
    (FileAttempt.appendRecord checkpoint (Checkpoint.record found.taken) durable).storage .append checkpointPath
  let checkpointLength := if found.stale then found.checkpointLength + Checkpoint.recordLength else found.checkpointLength
  pure {
    name, storage, durable
    pending := found.pending
    taken := found.taken
    files := some { log, logLength := found.logLength, checkpoint, checkpointLength } }

/-! ## Working -/

/-- The failure of an operation on a closed queue. -/
def closedError (q : DurableQueue) : BrokerError :=
  .state (.queueClosed q.name)

/-- Cut a torn record off the log. The queue is closed if that fails. -/
def rollbackLog (q : DurableQueue) (files : QueueFiles) : FileProgram DurableQueue := do
  match ← (FileAttempt.resetTo q.logPath files.logLength).run with
  | .ok log => pure { q with files := some { files with log } }
  | .error _ => pure { q with files := none }

/-- Cut a torn record off the checkpoint file. The queue is closed if that fails. -/
def rollbackCheckpoint (q : DurableQueue) (files : QueueFiles) : FileProgram DurableQueue := do
  match ← (FileAttempt.resetTo q.checkpointPath files.checkpointLength).run with
  | .ok checkpoint => pure { q with files := some { files with checkpoint } }
  | .error _ => pure { q with files := none }

/-- Put a message in. -/
def enqueue (q : DurableQueue) (m : Message) : FileProgram (Except BrokerError Unit × DurableQueue) := do
  match Log.record m with
  | .error e => pure (.error e, q)
  | .ok record =>
    match q.files with
    | none => pure (.error q.closedError, q)
    | some files =>
      match ← (FileAttempt.appendRecord files.log record q.durable).run with
      | .ok _ =>
        let files := { files with logLength := files.logLength + record.length }
        pure (.ok (), { q with files := some files, pending := q.pending ++ [m] })
      | .error cause =>
        let q' ← q.rollbackLog files
        pure (.error (.storage (.file .append q.logPath cause)), q')

/-- Take the oldest message out, if there is one. -/
def dequeue (q : DurableQueue) : FileProgram (Except BrokerError (Option Message) × DurableQueue) := do
  match q.files with
  | none => pure (.error q.closedError, q)
  | some files =>
    match q.pending with
    | [] => pure (.ok none, q)
    | m :: pending =>
      match ← (FileAttempt.appendRecord files.checkpoint (Checkpoint.record (q.taken + 1)) q.durable).run with
      | .ok _ =>
        let files := { files with checkpointLength := files.checkpointLength + Checkpoint.recordLength }
        pure (.ok (some m), { q with files := some files, pending, taken := q.taken + 1 })
      | .error cause =>
        let q' ← q.rollbackCheckpoint files
        pure (.error (.storage (.file .append q.checkpointPath cause)), q')

/-- Release the files, whether or not they can be made to stay. -/
def close (q : DurableQueue) : FileProgram (Except BrokerError Unit × DurableQueue) := do
  match q.files with
  | none => pure (.error (.state (.queueAlreadyClosed q.name)), q)
  | some files =>
    let syncFiles : FileAttempt BrokerError Unit := do
      (FileAttempt.sync files.log).storage .sync q.logPath
      (FileAttempt.sync files.checkpoint).storage .sync q.checkpointPath
    let result ← if q.durable then syncFiles.run else pure (.ok ())
    pure (result, { q with files := none })

end DurableQueue

end QueueBroker

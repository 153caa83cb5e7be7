import QueueBroker.Error
import QueueBroker.Program
import QueueBroker.Storage.Disk

/-!
# File programs

Everything the queues do to files is a program that asks for the operations here, one at a time, and is told of each whether it
succeeded. `FileOp.perform` runs an operation on a disk that keeps its promises; a theory of faults answers the same operations
in other ways.
-/

namespace QueueBroker

/-- One operation on files. -/
inductive FileOp where
  /-- Whether a path leads to something. -/
  | pathExists (path : String)
  /-- Open a file that is there, for reading and writing. -/
  | openExisting (path : String)
  /-- Open a file for writing at its end, making it if it is not there. -/
  | openAppend (path : String)
  /-- The contents of an open file. -/
  | read (h : Handle)
  /-- Cut an open file, or fill it up. -/
  | truncate (h : Handle) (length : Nat)
  /-- Write at the end of an open file. -/
  | append (h : Handle) (bytes : Bytes)
  /-- Make what was written stay. -/
  | sync (h : Handle)
  /-- Make a directory and those on the way to it. -/
  | makeDirectories (path : String)
deriving DecidableEq

/-- What an operation is answered with. -/
@[reducible] def FileOp.Reply : FileOp → Type
  | pathExists _ => Except Errno Bool
  | openExisting _ => Except Errno Handle
  | openAppend _ => Except Errno Handle
  | read _ => Except Errno Bytes
  | truncate _ _ => Except Errno Unit
  | append _ _ => Except Errno Unit
  | sync _ => Except Errno Unit
  | makeDirectories _ => Except Errno Unit

/-- A computation that works on files. -/
abbrev FileProgram := Program FileOp.Reply

/-- Run an operation on a disk. -/
def FileOp.perform : (op : FileOp) → Disk → op.Reply × Disk
  | pathExists path, d => (d.pathExists path, d)
  | openExisting path, d => d.openFile false path
  | openAppend path, d => d.openFile true path
  | read h, d => (.ok (d.read h), d)
  | truncate h length, d => d.truncate h length
  | append h bytes, d => d.append h bytes
  | sync h, d => (d.sync h, d)
  | makeDirectories path, d => d.makeDirectories path

/-- Run a file program on a disk. -/
def FileProgram.run {α : Type} (p : FileProgram α) (d : Disk) : α × Disk :=
  Program.run FileOp.perform p d

/-- A file program that may fail. -/
abbrev FileAttempt (ε : Type) := ExceptT ε FileProgram

namespace FileAttempt

variable {ε α : Type}

/-- Name the file and what was done to it when an operation fails. -/
def storage (action : FileAction) (path : String) (p : FileAttempt Errno α) : FileAttempt BrokerError α :=
  p.adapt fun cause => .storage (.file action path cause)

/-- Whether a path leads to something. -/
def pathExists (path : String) : FileAttempt Errno Bool :=
  ExceptT.mk (Program.request (FileOp.pathExists path))

/-- Open a file that is there. -/
def openExisting (path : String) : FileAttempt Errno Handle :=
  ExceptT.mk (Program.request (FileOp.openExisting path))

/-- Open a file for writing at its end. -/
def openAppend (path : String) : FileAttempt Errno Handle :=
  ExceptT.mk (Program.request (FileOp.openAppend path))

/-- The contents of an open file. -/
def read (h : Handle) : FileAttempt Errno Bytes :=
  ExceptT.mk (Program.request (FileOp.read h))

/-- Cut an open file, or fill it up. -/
def truncate (h : Handle) (length : Nat) : FileAttempt Errno Unit :=
  ExceptT.mk (Program.request (FileOp.truncate h length))

/-- Write at the end of an open file. -/
def append (h : Handle) (bytes : Bytes) : FileAttempt Errno Unit :=
  ExceptT.mk (Program.request (FileOp.append h bytes))

/-- Make what was written stay. -/
def sync (h : Handle) : FileAttempt Errno Unit :=
  ExceptT.mk (Program.request (FileOp.sync h))

/-- Make a directory and those on the way to it. -/
def makeDirectories (path : String) : FileAttempt Errno Unit :=
  ExceptT.mk (Program.request (FileOp.makeDirectories path))

/-- Write a record at the end of an open file, and make it stay if that is wanted. -/
def appendRecord (h : Handle) (bytes : Bytes) (durable : Bool) : FileAttempt Errno Unit := do
  append h bytes
  if durable then sync h

/-- Cut a file to a length and open it again for writing at its end. -/
def resetTo (path : String) (length : Nat) : FileAttempt Errno Handle := do
  let h ← openExisting path
  truncate h length
  openExisting path

end FileAttempt

end QueueBroker

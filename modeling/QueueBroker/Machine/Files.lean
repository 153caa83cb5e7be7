import QueueBroker.Storage.FileProgram

/-!
# The files of this machine

File programs run on the files of the machine that the process is on. An open file is known by its place in the list of the paths
that were ever opened; opening a path again takes its place, so the old file is released.
-/

namespace QueueBroker.Machine

/-- The number of a failure; one that the system did not number counts as a failure of input or output. -/
def errnoOf (e : IO.Error) : Errno :=
  let numbered (code : UInt32) : Errno :=
    ⟨if code.toNat < UInt32.size / 2 then code.toNat else UInt32.size - code.toNat⟩
  match e with
  | .alreadyExists _ code _ => numbered code
  | .otherError code _ => numbered code
  | .resourceBusy code _ => numbered code
  | .resourceVanished code _ => numbered code
  | .unsupportedOperation code _ => numbered code
  | .hardwareFault code _ => numbered code
  | .unsatisfiedConstraints code _ => numbered code
  | .illegalOperation code _ => numbered code
  | .protocolError code _ => numbered code
  | .timeExpired code _ => numbered code
  | .interrupted _ code _ => numbered code
  | .noFileOrDirectory _ code _ => numbered code
  | .invalidArgument _ code _ => numbered code
  | .permissionDenied _ code _ => numbered code
  | .resourceExhausted _ code _ => numbered code
  | .inappropriateType _ code _ => numbered code
  | .noSuchThing _ code _ => numbered code
  | .unexpectedEof => ⟨5⟩
  | .userError _ => ⟨5⟩

/-- Do something, and say why if it failed. -/
def attempt {α : Type} (act : IO α) : IO (Except Errno α) := do
  try
    let a ← act
    pure (.ok a)
  catch e => pure (.error (errnoOf e))

/-- Bytes as the machine takes them. -/
def toByteArray (bytes : Bytes) : ByteArray :=
  ⟨bytes.toArray⟩

/-- Bytes that the machine gave. -/
def ofByteArray (bytes : ByteArray) : Bytes :=
  bytes.data.toList

/-- A file that is open for writing at its end. -/
structure OpenFile where
  path : String
  writer : IO.FS.Handle

/-- The files that were ever opened. -/
abbrev OpenFiles := IO.Ref (Array OpenFile)

namespace OpenFiles

/-- Open a path for writing at its end. -/
def openAt (files : OpenFiles) (path : String) : IO Handle := do
  let opened : OpenFile := ⟨path, ← IO.FS.Handle.mk path .append⟩
  files.modifyGet fun known =>
    match known.findIdx? (·.path == path) with
    | some i => (.file i, known.setIfInBounds i opened)
    | none => (.file known.size, known.push opened)

/-- The open file of a handle. -/
def file (files : OpenFiles) (h : Handle) : IO OpenFile := do
  let known ← ST.Ref.get files
  match h with
  | .file i =>
    match known[i]? with
    | some opened => pure opened
    | none => throw (IO.userError "no such open file")
  | .device _ => throw (IO.userError "no such open file")

/-- Cut a file to a length, or fill it up with zeros. -/
def truncate (path : String) (length : Nat) : IO Unit := do
  let file ← IO.FS.Handle.mk path .readWrite
  let bytes ← IO.FS.readBinFile path
  if bytes.size < length then
    file.write bytes
    file.write (toByteArray (List.replicate (length - bytes.size) 0))
    file.flush
  else
    file.write (bytes.extract 0 length)
    file.flush
    file.truncate

/-- Whether a path leads to something. -/
def pathExists (path : String) : IO (Except Errno Bool) := do
  match ← attempt (IO.FS.realPath path) with
  | .ok _ => pure (.ok true)
  | .error e => pure (if e = .noEntry then .ok false else .error e)

/-- Do one operation. What was handed to the system counts as made to stay: a process is told no more than that. -/
def perform (files : OpenFiles) : (op : FileOp) → IO op.Reply
  | .pathExists path => pathExists path
  | .openExisting path => attempt do
      let _ ← IO.FS.Handle.mk path .readWrite
      files.openAt path
  | .openAppend path => attempt (files.openAt path)
  | .read h => attempt do
      let bytes ← IO.FS.readBinFile (← files.file h).path
      pure (ofByteArray bytes)
  | .truncate h length => attempt do truncate (← files.file h).path length
  | .append h bytes => attempt do
      let writer := (← files.file h).writer
      writer.write (toByteArray bytes)
      writer.flush
  | .sync h => attempt do (← files.file h).writer.flush
  | .makeDirectories path => attempt (IO.FS.createDirAll path)

end OpenFiles

end QueueBroker.Machine

import QueueBroker.Proofs.Queue.Reopening

/-!
# What memory and disk agree on

An open queue keeps six things in memory: its pending messages, how many were taken, two open files and their lengths.
`DurableQueue.Agrees` says what each has to do with the contents of the two files. It holds after every opening, whatever the files
held, and after every operation, whether or not that succeeds, and whatever part of a record a failed write leaves behind.
-/

namespace QueueBroker

open FileOp

variable {F : Folder} {c : Contents} {d d' : Disk}

namespace Checkpoint

variable {bytes : Bytes}

theorem last_nil : last [] = 0 :=
  rfl

/-- Whole records that are not empty end with the record of what they say. -/
theorem Whole.eq_append_record (h : Whole bytes) (hne : bytes ≠ []) : ∃ earlier, bytes = earlier ++ record (last bytes) := by
  have hpos := List.length_pos_iff.2 hne
  have hlast : last bytes = BigEndian.decode (bytes.drop (bytes.length - recordLength)) := by
    rw [last, h.completeLength_eq, List.take_length]
  have hlen : (bytes.drop (bytes.length - recordLength)).length = recordLength := by
    rw [Whole] at h
    rw [List.length_drop]
    rw [recordLength] at *
    omega
  have hspell := BigEndian.encode_decode (bytes.drop (bytes.length - recordLength))
  rw [hlen, ← hlast] at hspell
  refine ⟨bytes.take (bytes.length - recordLength), ?_⟩
  rw [record, hspell, List.take_append_drop]

end Checkpoint

namespace DurableQueue

variable {q q' : DurableQueue} {m : Message} {bodies : List Bytes}

/-- What an open queue and its files agree on, when the log holds the records of some bodies. -/
structure Agrees (q : DurableQueue) (d : Disk) (files : QueueFiles) (bodies : List Bytes) (checkpoint : Bytes) : Prop where
  opened : q.files = some files
  logContents : d.contentsAt q.logPath = .ok (Log.joined bodies)
  checkpointContents : d.contentsAt q.checkpointPath = .ok checkpoint
  logLength : files.logLength = (Log.joined bodies).length
  checkpointLength : files.checkpointLength = checkpoint.length
  whole : checkpoint.length % Checkpoint.recordLength = 0
  taken : checkpoint = [] ∧ q.taken = 0 ∨ ∃ earlier, checkpoint = earlier ++ Checkpoint.record q.taken
  fit : ∀ body ∈ bodies, body.length ≤ Log.maxBody
  records : bodies.length = q.taken + q.pending.length
  pending : List.Forall₂ Message.ReadFrom (bodies.drop q.taken) q.pending
  bounded : q.taken + 1 < UInt64.size

theorem Mirrors.agrees (hm : q.Mirrors Message.ReadFrom F c d bodies) : ∃ files checkpoint, q.Agrees d files bodies checkpoint := by
  obtain ⟨checkpoint, ha, hwhole, hlast⟩ := hm.attached
  obtain ⟨files, hfiles, hlen, hlenc, -, -⟩ := ha.opened
  have hpending := hm.pending.length_eq
  rw [List.length_drop] at hpending
  have hle := hm.taken_le
  refine ⟨files, checkpoint, hfiles, ?_, ?_, hlen, hlenc, hwhole, ?_, hm.fit, by omega, hm.pending,
    Nat.add_lt_of_lt_sub hm.taken_lt⟩
  · rw [logPath_eq ha.storage]
    exact ha.shows.contentsAt_eq ha.folder.log ha.log
  · rw [checkpointPath_eq ha.storage]
    exact ha.shows.contentsAt_eq ha.folder.checkpoint ha.checkpoint
  · by_cases hnil : checkpoint = []
    · rw [hnil, Checkpoint.last_nil] at hlast
      exact Or.inl ⟨hnil, hlast.symm⟩
    · exact Or.inr (hlast ▸ hwhole.eq_append_record hnil)

/-! ## Opening the files again -/

variable {log checkpoint : Bytes}

/-- Whole checkpoint records are read and left. -/
theorem Attached.succeeds_readCheckpoint (ha : q.Attached F c d log checkpoint) (hwhole : Checkpoint.Whole checkpoint) :
    FileAttempt.Succeeds (readCheckpoint q.checkpointPath) d (Checkpoint.last checkpoint, checkpoint.length) d := by
  obtain ⟨files, -, -, -, -, hoc⟩ := ha.opened
  have hopen := ha.shows.succeeds_openExisting ha.folder.checkpoint hoc
  rw [checkpointPath_eq ha.storage]
  refine FileAttempt.Succeeds.bind (FileAttempt.runs_lift_iff.2 ⟨_, hopen, rfl⟩) ?_
  refine (ha.shows.succeeds_read ha.folder.checkpoint hoc ha.checkpoint).bind ?_
  rw [hwhole.completeLength_eq, if_neg (fun hne => hne rfl)]
  exact FileAttempt.succeeds_pure _ _

/-- A log of complete records is read and left. -/
theorem Attached.succeeds_readLog (ha : q.Attached F c d (Log.joined bodies) checkpoint) {skip : Nat} {pending : List Message}
    {left : Bytes} (hscan : Log.Scanned skip (Log.joined bodies) bodies pending left) :
    FileAttempt.Succeeds (readLog q.logPath skip) d ⟨pending, bodies.length, (Log.joined bodies).length⟩ d := by
  obtain ⟨files, -, -, -, hol, -⟩ := ha.opened
  rw [logPath_eq ha.storage]
  refine (ha.shows.succeeds_openExisting ha.folder.log hol).bind ?_
  refine (ha.shows.succeeds_read ha.folder.log hol ha.log).bind ?_
  rw [Log.scan_eq hscan, if_neg (Nat.lt_irrefl _)]
  exact FileAttempt.succeeds_pure _ _

theorem Found.exists_scanned {old : Bytes} {oldCheckpoint : Option Bytes} {pending : List Message} {taken : Nat} {stale : Bool}
    (h : Found (some old) oldCheckpoint bodies pending taken stale) :
    ∃ left, Log.Scanned (takenIn oldCheckpoint) old bodies pending left := by
  cases h with
  | nothing hlog => cases hlog
  | scanned hlog hscan => exact Option.some.inj hlog ▸ ⟨_, hscan⟩

/-- The log of an open queue is read as the records that were taken and those of the pending messages. -/
theorem Mirrors.exists_scanned (hm : q.Mirrors Message.ReadFrom F c d bodies) :
    ∃ left, Log.Scanned q.taken (Log.joined bodies) bodies q.pending left := by
  obtain ⟨checkpoint, ha, -, hlast⟩ := hm.attached
  have hfound := hm.rests.found hm.pending
  rw [ha.log, ha.checkpoint] at hfound
  have hcounted : takenIn (some checkpoint) = q.taken := hlast
  exact hcounted ▸ hfound.exists_scanned

theorem Mirrors.succeeds_recover (hm : q.Mirrors Message.ReadFrom F c d bodies) {files : QueueFiles} (hfiles : q.files = some files) :
    FileAttempt.Succeeds (recover q.logPath q.checkpointPath) d
      ⟨q.pending, q.taken, files.logLength, files.checkpointLength, false⟩ d := by
  obtain ⟨checkpoint, ha, hwhole, hlast⟩ := hm.attached
  obtain ⟨files', hfiles', hlen, hlenc, -, -⟩ := ha.opened
  obtain rfl : files' = files := Option.some.inj (hfiles'.symm.trans hfiles)
  obtain ⟨left, hscan⟩ := hm.exists_scanned
  have hlog := ha.shows.succeeds_pathExists ha.folder.log
  rw [ha.log, ← logPath_eq ha.storage] at hlog
  refine hlog.storage.bind ?_
  rw [Option.isSome_some, if_pos rfl]
  refine (ha.succeeds_readCheckpoint hwhole).storage.bind ?_
  rw [hlast]
  refine (ha.succeeds_readLog hscan).storage.bind ?_
  have hstale : decide (bodies.length < q.taken) = false := decide_eq_false (Nat.not_lt_of_le hm.taken_le)
  rw [Nat.min_eq_left hm.taken_le, hlen, hlenc, hstale]
  exact FileAttempt.succeeds_pure _ _

/-- Opening the files of an open queue gives the same queue and leaves the disk as it is. -/
theorem Mirrors.succeeds_openIn (hm : q.Mirrors Message.ReadFrom F c d bodies) (hvalid : Destination.fault? q.name = none)
    (durable : Bool) : FileAttempt.Succeeds (openIn q.name q.storage durable) d { q with durable } d := by
  obtain ⟨checkpoint, ha, -, -⟩ := hm.attached
  obtain ⟨files, hfiles, -, -, hol, hoc⟩ := ha.opened
  have hopenLog := ha.shows.succeeds_openAppend ha.folder.log hol
  have hopenCheckpoint := ha.shows.succeeds_openAppend ha.folder.checkpoint hoc
  rw [← logPath_eq ha.storage] at hopenLog
  rw [← checkpointPath_eq ha.storage] at hopenCheckpoint
  rw [openIn, validate_eq_ok hvalid]
  refine (hm.succeeds_recover hfiles).bind ?_
  refine hopenLog.storage.bind ?_
  refine hopenCheckpoint.storage.bind ?_
  have hsame : { q with durable } = { q with durable, files := some files } := by rw [hfiles]
  rw [hsame]
  exact FileAttempt.succeeds_pure _ _

/-! ## Work with failures -/

/-- One operation on a queue, whether or not it succeeds: a message is put in that can be read back, or one is taken out. -/
inductive Step : DurableQueue × Disk → DurableQueue × Disk → Prop where
  | enqueue {q q' : DurableQueue} {d d' : Disk} {m : Message} {r : Except BrokerError Unit} : Message.ReadFrom m.bytes m →
      (q.enqueue m).Runs (Answers True) d (r, q') d' → Step (q, d) (q', d')
  | dequeue {q q' : DurableQueue} {d d' : Disk} {r : Except BrokerError (Option Message)} :
      q.dequeue.Runs (Answers True) d (r, q') d' → Step (q, d) (q', d')

/-- The queues that opening leads to, whatever the two files held, and any number of operations. -/
inductive Worked (F : Folder) : DurableQueue × Disk → Prop where
  | opened {c : Contents} {d d' : Disk} {name : String} {durable : Bool} {q : DurableQueue} : F.Shows c d → F.HasQueue name →
      ((c (Destination.logName name)).getD []).length ≤ Disk.maxFile →
      (openIn name F.path durable).run.Runs (Answers True) d (.ok q) d' → Worked F (q, d')
  | step {s s' : DurableQueue × Disk} : Worked F s → Step s s' → Worked F s'

theorem Mirrored.step (h : q.Mirrored Message.ReadFrom F d) (hstep : Step (q, d) (q', d')) :
    q'.Mirrored Message.ReadFrom F d' := by
  cases hstep with
  | enqueue hread hr => exact h.enqueue hread hr
  | dequeue hr => exact h.dequeue hr

theorem Worked.mirrored {s : DurableQueue × Disk} (h : Worked F s) : s.1.Mirrored Message.ReadFrom F s.2 := by
  induction h with
  | opened hs hq hshort hr => exact mirrored_of_runs_openIn hs hq hshort hr
  | step _ hstep ih => exact ih.step hstep

/-- As long as a queue is open, whatever failed before, memory and disk agree; opening its files would then give the same queue and
leave the disk as it is, and opening them with failures, if it succeeds, the same messages pending and as many taken. -/
theorem memory_agrees (h : Worked F (q, d)) (hopen : q.isClosed = false) :
    (∃ files bodies checkpoint, q.Agrees d files bodies checkpoint) ∧ ∀ durable r d',
      ((openIn q.name q.storage durable).run.Runs (Answers False) d r d' ↔ r = .ok { q with durable } ∧ d' = d) ∧
      ((openIn q.name q.storage durable).run.Runs (Answers True) d r d' →
        ∀ q', r = .ok q' → q'.pending = q.pending ∧ q'.taken = q.taken) := by
  obtain ⟨hvalid, c, bodies, hm⟩ := h.mirrored hopen
  obtain ⟨files, checkpoint, hagrees⟩ := hm.agrees
  refine ⟨⟨files, bodies, checkpoint, hagrees⟩, fun durable r d' => ⟨(hm.succeeds_openIn hvalid durable).runs_iff, ?_⟩⟩
  rintro hr q' rfl
  obtain ⟨checkpoint, ha, -, -⟩ := hm.attached
  have hrest := hm.rests
  rw [ha.storage] at hr
  rcases attains_openIn hrest.shows hrest.folder hvalid (hrest.found hm.pending) hrest.short durable _ _ hr with
    ⟨_, heq, -, -, hpending, htaken, -⟩ | ⟨-, e, heq⟩
  · cases heq
    exact ⟨hpending, htaken⟩
  · cases heq

/-! A write that stops after five bytes and is cut off again, before one that succeeds. -/

/-- A message with nothing to say. -/
def plainMessage : Message :=
  ⟨"q", .null⟩

theorem readFrom_plainMessage : Message.ReadFrom plainMessage.bytes plainMessage :=
  Message.parse_bytes ⟨rfl, True.intro⟩ True.intro (by decide)

/-- The answers of a disk on which no write gets further than five bytes. -/
def performShort : (op : FileOp) → Disk → op.Reply × Disk
  | .append h bytes, d => (.error .noSpace, (d.append h (bytes.take 5)).2)
  | op, d => op.perform d

theorem answers_performShort (op : FileOp) (d : Disk) : Answers True op d (performShort op d).1 (performShort op d).2 := by
  cases op with
  | append h bytes => exact .failed trivial rfl ⟨5, rfl⟩
  | _ => exact answers_perform _ d

theorem step_torn : Step (queueOf [] 0 0 0, diskOf [] []) (queueOf [] 0 0 0, diskOf [] []) :=
  .enqueue readFrom_plainMessage (Program.runs_run answers_performShort ((queueOf [] 0 0 0).enqueue plainMessage) (diskOf [] []))

theorem step_stored : Step (queueOf [] 0 0 0, diskOf [] [])
    (queueOf [plainMessage] 0 38 0, diskOf (Log.recordOf plainMessage.bytes) []) :=
  .enqueue readFrom_plainMessage (FileProgram.runs_run ((queueOf [] 0 0 0).enqueue plainMessage) (diskOf [] []))

theorem worked_torn : Worked (Folder.ofDestinations "" ["home"] (· = "q"))
    (queueOf [plainMessage] 0 38 0, diskOf (Log.recordOf plainMessage.bytes) []) :=
  .step (.step (.opened shows_empty hasQueue_q (Nat.zero_le _) (runs_openIn_new.mono fun _ _ _ _ h => h.of_false)) step_torn)
    step_stored

/-- Memory and disk agree after a write that failed and one that did not. -/
theorem memory_agrees_torn : ∃ files bodies checkpoint, (queueOf [plainMessage] 0 38 0).Agrees
    (diskOf (Log.recordOf plainMessage.bytes) []) files bodies checkpoint :=
  (memory_agrees worked_torn rfl).1

end DurableQueue

end QueueBroker

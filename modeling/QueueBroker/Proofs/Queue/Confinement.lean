import QueueBroker.Proofs.Queue.Names
import QueueBroker.Proofs.Storage.Confinement
import QueueBroker.Queue.Durable

/-!
# What a queue can reach

The queue of a destination goes by the paths of its two files and works on what it opened by them, whatever the operations on files
are answered: when it is opened and repaired, when it works, and when it cuts off what could not be written.
-/

namespace QueueBroker.DurableQueue

/-- What may be done for a destination in a directory: making the directory, and going by the paths of two files. Nothing may be done
for one that is not valid. -/
def scopeOf (storage name : String) : Scope where
  paths path := Destination.fault? name = none ∧ (path = logPathOf storage name ∨ path = checkpointPathOf storage name)
  folders path := Destination.fault? name = none ∧ path = storage

/-- The open files of a queue, with their paths. -/
def held (q : DurableQueue) : Openings :=
  match q.files with
  | none => []
  | some files => [(q.logPath, files.log), (q.checkpointPath, files.checkpoint)]

/-- What work makes of a queue: one of the same destination, whose files are open. -/
structure Becomes (q q' : DurableQueue) (files : Openings) : Prop where
  name : q'.name = q.name
  storage : q'.storage = q.storage
  held : q'.held ⊆ files

variable {S : Scope} {files : Openings} {path : String} {q : DurableQueue}

theorem pair_subset {log checkpoint : String × Handle} (hlog : log ∈ files) (hcheckpoint : checkpoint ∈ files) :
    [log, checkpoint] ⊆ files :=
  List.cons_subset.2 ⟨hlog, List.cons_subset.2 ⟨hcheckpoint, List.nil_subset _⟩⟩

theorem mem_of_held_subset {open_ : QueueFiles} (h : q.files = some open_) (hheld : q.held ⊆ files) :
    (q.logPath, open_.log) ∈ files ∧ (q.checkpointPath, open_.checkpoint) ∈ files := by
  rw [held, h] at hheld
  exact ⟨hheld List.mem_cons_self, hheld (List.mem_cons_of_mem _ List.mem_cons_self)⟩

/-! ## Opening -/

theorem confined_readCheckpoint (hpath : S.paths path) : FileAttempt.Confined S (readCheckpoint path) files fun _ _ => True := by
  refine FileAttempt.Confined.bind ((FileAttempt.confined_openExisting hpath).lift.mono fun opened files' _ hopened => ?_)
  cases opened with
  | error e =>
    dsimp only
    split
    · exact FileAttempt.Confined.pure trivial
    · exact FileAttempt.Confined.throw
  | ok h =>
    have hmem := hopened h rfl
    refine FileAttempt.Confined.bind ((FileAttempt.confined_read hpath hmem).mono fun bytes files'' hsub _ => ?_)
    dsimp only
    split
    · exact FileAttempt.Confined.bind ((FileAttempt.confined_truncate hpath (hsub hmem) _).mono fun _ _ _ _ =>
        FileAttempt.Confined.pure trivial)
    · exact FileAttempt.Confined.pure trivial

theorem confined_readLog (hpath : S.paths path) (skip : Nat) :
    FileAttempt.Confined S (readLog path skip) files fun _ _ => True := by
  refine FileAttempt.Confined.bind ((FileAttempt.confined_openExisting hpath).mono fun h files' _ hmem => ?_)
  refine FileAttempt.Confined.bind ((FileAttempt.confined_read hpath hmem).mono fun bytes files'' hsub _ => ?_)
  dsimp only
  split
  · exact FileAttempt.Confined.bind ((FileAttempt.confined_truncate hpath (hsub hmem) _).mono fun _ _ _ _ =>
      FileAttempt.Confined.pure trivial)
  · exact FileAttempt.Confined.pure trivial

theorem confined_recover {checkpointPath : String} (hlog : S.paths path) (hcheckpoint : S.paths checkpointPath) :
    FileAttempt.Confined S (recover path checkpointPath) files fun _ _ => True := by
  refine FileAttempt.Confined.bind ((FileAttempt.confined_pathExists hlog).storage.mono fun found _ _ _ => ?_)
  cases found with
  | true =>
    refine FileAttempt.Confined.bind ((confined_readCheckpoint hcheckpoint).storage.mono fun read _ _ _ => ?_)
    refine FileAttempt.Confined.bind ((confined_readLog hlog _).storage.mono fun contents _ _ _ => ?_)
    exact FileAttempt.Confined.pure trivial
  | false =>
    refine FileAttempt.Confined.bind ((FileAttempt.confined_pathExists hcheckpoint).storage.mono fun left _ _ _ => ?_)
    cases left with
    | true =>
      exact FileAttempt.Confined.bind ((FileAttempt.confined_resetTo hcheckpoint 0).storage.mono fun _ _ _ _ =>
        FileAttempt.Confined.pure trivial)
    | false => exact FileAttempt.Confined.pure trivial

/-- A queue is opened for a valid destination only, within its scope. -/
theorem confined_openIn (name storage : String) (durable : Bool) :
    FileAttempt.Confined (scopeOf storage name) (openIn name storage durable) files fun q files' =>
      Destination.fault? name = none ∧ q.name = name ∧ q.storage = storage ∧ q.held ⊆ files' := by
  rw [openIn, Destination.validate]
  cases hvalid : Destination.fault? name with
  | some fault => exact FileAttempt.Confined.bind FileAttempt.Confined.throw
  | none =>
    have hlog : (scopeOf storage name).paths (logPathOf storage name) := ⟨hvalid, Or.inl rfl⟩
    have hcheckpoint : (scopeOf storage name).paths (checkpointPathOf storage name) := ⟨hvalid, Or.inr rfl⟩
    refine FileAttempt.Confined.bind ((confined_recover hlog hcheckpoint).mono fun found _ _ _ => ?_)
    refine FileAttempt.Confined.bind ((FileAttempt.confined_openAppend hlog).storage.mono fun log files₁ _ hopenLog => ?_)
    refine FileAttempt.Confined.bind ((FileAttempt.confined_openAppend hcheckpoint).storage.mono fun checkpoint files₂ hsub hopen => ?_)
    dsimp only
    split
    · have happend := FileAttempt.confined_appendRecord hcheckpoint hopen (Checkpoint.record found.taken) durable
      refine FileAttempt.Confined.bind (happend.storage.mono fun _ files₃ hsub' _ => ?_)
      exact FileAttempt.Confined.pure ⟨rfl, rfl, rfl, pair_subset (hsub' (hsub hopenLog)) (hsub' hopen)⟩
    · exact FileAttempt.Confined.pure ⟨rfl, rfl, rfl, pair_subset (hsub hopenLog) hopen⟩

/-! ## Working -/

variable {open_ : QueueFiles} (hvalid : Destination.fault? q.name = none)
include hvalid

theorem confined_rollbackLog (hmem : (q.checkpointPath, open_.checkpoint) ∈ files) :
    FileProgram.Confined (scopeOf q.storage q.name) (q.rollbackLog open_) files fun q' files' => q.Becomes q' files' := by
  have hlog : (scopeOf q.storage q.name).paths q.logPath := ⟨hvalid, Or.inl rfl⟩
  refine Program.Guarded.bind (Program.Guarded.mono (FileAttempt.confined_resetTo hlog _) fun r files' hr => ?_)
  obtain ⟨hsub, hopened⟩ := hr
  cases r with
  | error e => exact Program.Guarded.pure ⟨rfl, rfl, List.nil_subset _⟩
  | ok log => exact Program.Guarded.pure ⟨rfl, rfl, pair_subset (hopened log rfl) (hsub hmem)⟩

theorem confined_rollbackCheckpoint (hmem : (q.logPath, open_.log) ∈ files) :
    FileProgram.Confined (scopeOf q.storage q.name) (q.rollbackCheckpoint open_) files fun q' files' => q.Becomes q' files' := by
  have hcheckpoint : (scopeOf q.storage q.name).paths q.checkpointPath := ⟨hvalid, Or.inr rfl⟩
  refine Program.Guarded.bind (Program.Guarded.mono (FileAttempt.confined_resetTo hcheckpoint _) fun r files' hr => ?_)
  obtain ⟨hsub, hopened⟩ := hr
  cases r with
  | error e => exact Program.Guarded.pure ⟨rfl, rfl, List.nil_subset _⟩
  | ok checkpoint => exact Program.Guarded.pure ⟨rfl, rfl, pair_subset (hsub hmem) (hopened checkpoint rfl)⟩

variable (hheld : q.held ⊆ files)
include hheld

/-- A queue puts a message in within the scope of its destination. -/
theorem confined_enqueue (m : Message) :
    FileProgram.Confined (scopeOf q.storage q.name) (q.enqueue m) files fun r files' => q.Becomes r.2 files' := by
  have hsame : q.Becomes q files := ⟨rfl, rfl, hheld⟩
  rw [enqueue]
  cases Log.record m with
  | error e => exact Program.Guarded.pure hsame
  | ok record =>
    dsimp only
    cases hfiles : q.files with
    | none => exact Program.Guarded.pure hsame
    | some open_ =>
      obtain ⟨hlog, hcheckpoint⟩ := mem_of_held_subset hfiles hheld
      have happend := FileAttempt.confined_appendRecord (S := scopeOf q.storage q.name) ⟨hvalid, Or.inl rfl⟩ hlog record q.durable
      refine Program.Guarded.bind (Program.Guarded.mono happend fun r files' hr => ?_)
      cases r with
      | ok _ => exact Program.Guarded.pure ⟨rfl, rfl, pair_subset (hr.1 hlog) (hr.1 hcheckpoint)⟩
      | error cause => exact Program.Guarded.bind (confined_rollbackLog hvalid (hr.1 hcheckpoint))

/-- A queue takes a message out within the scope of its destination. -/
theorem confined_dequeue :
    FileProgram.Confined (scopeOf q.storage q.name) q.dequeue files fun r files' => q.Becomes r.2 files' := by
  have hsame : q.Becomes q files := ⟨rfl, rfl, hheld⟩
  rw [dequeue]
  cases hfiles : q.files with
  | none => exact Program.Guarded.pure hsame
  | some open_ =>
    dsimp only
    cases q.pending with
    | nil => exact Program.Guarded.pure hsame
    | cons m pending =>
      obtain ⟨hlog, hcheckpoint⟩ := mem_of_held_subset hfiles hheld
      have happend := FileAttempt.confined_appendRecord (S := scopeOf q.storage q.name) ⟨hvalid, Or.inr rfl⟩ hcheckpoint
        (Checkpoint.record (q.taken + 1)) q.durable
      refine Program.Guarded.bind (Program.Guarded.mono happend fun r files' hr => ?_)
      cases r with
      | ok _ => exact Program.Guarded.pure ⟨rfl, rfl, pair_subset (hr.1 hlog) (hr.1 hcheckpoint)⟩
      | error cause => exact Program.Guarded.bind (confined_rollbackCheckpoint hvalid (hr.1 hlog))

/-- A queue is closed within the scope of its destination. -/
theorem confined_close :
    FileProgram.Confined (scopeOf q.storage q.name) q.close files fun r files' => q.Becomes r.2 files' := by
  rw [close]
  cases hfiles : q.files with
  | none => exact Program.Guarded.pure ⟨rfl, rfl, hheld⟩
  | some open_ =>
    obtain ⟨hlog, hcheckpoint⟩ := mem_of_held_subset hfiles hheld
    have hclosed {files' : Openings} : q.Becomes { q with files := none } files' := ⟨rfl, rfl, List.nil_subset _⟩
    dsimp only
    split
    · have hsync : FileAttempt.Confined (scopeOf q.storage q.name) (do
          (FileAttempt.sync open_.log).storage .sync q.logPath
          (FileAttempt.sync open_.checkpoint).storage .sync q.checkpointPath) files fun _ _ => True := by
        have hlogPath : (scopeOf q.storage q.name).paths q.logPath := ⟨hvalid, Or.inl rfl⟩
        have hcheckpointPath : (scopeOf q.storage q.name).paths q.checkpointPath := ⟨hvalid, Or.inr rfl⟩
        refine FileAttempt.Confined.bind ((FileAttempt.confined_sync hlogPath hlog).storage.mono fun _ files' hsub _ => ?_)
        exact (FileAttempt.confined_sync hcheckpointPath (hsub hcheckpoint)).storage
      exact Program.Guarded.bind (Program.Guarded.mono hsync fun _ _ _ => Program.Guarded.pure hclosed)
    · exact Program.Guarded.bind (Program.Guarded.pure (Program.Guarded.pure hclosed))

end QueueBroker.DurableQueue

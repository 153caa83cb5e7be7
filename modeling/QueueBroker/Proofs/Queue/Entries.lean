import QueueBroker.Proofs.Storage.Entries
import QueueBroker.Queue.Durable

/-!
# Entries that queues make

A queue makes its two files when it is opened, and only then: what is read and repaired before, and all work on the queue afterwards,
leaves the entries of the directories alone. So a queue whose log is there is opened at the price of one new entry at most, that of its
checkpoint file.
-/

namespace QueueBroker.DurableQueue

open FileAttempt

variable {d : Disk} {name storage : String}

/-! ## Opening -/

theorem makesNothing_readCheckpoint (path : String) : MakesNothing (readCheckpoint path) := by
  refine MakesNothing.bind (MakesNothing.lift (makesNothing_openExisting path)) fun opened => ?_
  cases opened with
  | error e =>
    dsimp only
    split
    · exact makesNothing_pure _
    · exact makesNothing_throw e
  | ok h =>
    refine MakesNothing.bind (makesNothing_read h) fun bytes => ?_
    dsimp only
    split
    · exact MakesNothing.bind (makesNothing_truncate h _) fun _ => makesNothing_pure _
    · exact makesNothing_pure _

theorem makesNothing_readLog (path : String) (skip : Nat) : MakesNothing (readLog path skip) := by
  refine MakesNothing.bind (makesNothing_openExisting path) fun h => ?_
  refine MakesNothing.bind (makesNothing_read h) fun bytes => ?_
  dsimp only
  split
  · exact MakesNothing.bind (makesNothing_truncate h _) fun _ => makesNothing_pure _
  · exact makesNothing_pure _

/-- Finding out what the files say makes none of them, whatever they hold and whether they are there or not. -/
theorem makesNothing_recover (logPath checkpointPath : String) : MakesNothing (recover logPath checkpointPath) := by
  refine MakesNothing.bind (makesNothing_pathExists logPath).storage fun found => ?_
  cases found with
  | true =>
    refine MakesNothing.bind (makesNothing_readCheckpoint checkpointPath).storage fun read => ?_
    exact MakesNothing.bind (makesNothing_readLog logPath _).storage fun _ => makesNothing_pure _
  | false =>
    refine MakesNothing.bind (makesNothing_pathExists checkpointPath).storage fun left => ?_
    cases left with
    | true => exact MakesNothing.bind (makesNothing_resetTo checkpointPath 0).storage fun _ => makesNothing_pure _
    | false => exact makesNothing_pure _

/-- If the log is there, nothing is made but the checkpoint file, and that is if the queue is opened. -/
theorem fills_openIn (hlog : d.pathExists (logPathOf storage name) = .ok true) (durable : Bool) :
    Fills (openIn name storage durable) d (checkpointPathOf storage name) := by
  rw [openIn]
  cases Destination.validate name with
  | error e =>
    intro r d' hr
    obtain ⟨rfl, rfl⟩ := runs_throw_iff.1 hr
    exact .of_sameEntries (.refl d')
  | ok _ =>
    refine ((makesNothing_recover _ _).spares d).fills_bind fun found d₁ hread => ?_
    have hthere : d₁.pathExists (logPathOf storage name) = .ok true := (hread.samePaths.pathExists_eq _).trans hlog
    refine (spares_openAppend hthere).storage.fills_bind fun log d₂ _ => ?_
    refine (fills_openAppend d₂ _).storage.bind fun checkpoint => ?_
    dsimp only
    split
    · exact MakesNothing.bind (makesNothing_appendRecord _ _ _).storage fun _ => makesNothing_pure _
    · exact makesNothing_pure _

/-! ## Working -/

theorem makesNothing_rollbackCheckpoint (q : DurableQueue) (files : QueueFiles) :
    FileProgram.MakesNothing (q.rollbackCheckpoint files) := by
  refine FileProgram.MakesNothing.bind (makesNothing_resetTo _ _) fun r => ?_
  cases r <;> exact FileProgram.makesNothing_pure _

theorem makesNothing_dequeue (q : DurableQueue) : FileProgram.MakesNothing q.dequeue := by
  unfold dequeue
  cases q.files with
  | none => exact FileProgram.makesNothing_pure _
  | some files =>
    dsimp only
    cases q.pending with
    | nil => exact FileProgram.makesNothing_pure _
    | cons m pending =>
      refine FileProgram.MakesNothing.bind (makesNothing_appendRecord _ _ _) fun r => ?_
      cases r with
      | ok _ => exact FileProgram.makesNothing_pure _
      | error cause =>
        exact FileProgram.MakesNothing.bind (makesNothing_rollbackCheckpoint q files) fun _ => FileProgram.makesNothing_pure _

end QueueBroker.DurableQueue

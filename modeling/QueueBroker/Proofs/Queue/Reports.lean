import QueueBroker.Proofs.Queue.Working
import QueueBroker.Proofs.Storage.Handles
import QueueBroker.Proofs.Storage.Reports

/-!
# Failures that a queue reports

A queue keeps no failure of its files back: opening it, putting a message in and taking one out end with an error if an operation
on the files failed. Without such a failure opening succeeds, and an open queue refuses a message only if no record can hold it. A
closed queue asks for no operation.
-/

namespace QueueBroker.DurableQueue

open FileAttempt

variable {q : DurableQueue} {d : Disk} {path checkpointPath : String}

/-! ## Opening -/

/-- That the checkpoint file is missing is no failure. -/
theorem reports_readCheckpoint (path : String) : Reports (fun _ => True) (readCheckpoint path) d fun _ d' => d.SamePaths d' := by
  rw [readCheckpoint, Reports, ExceptT.run_bind]
  change FileProgram.Watches ((Program.request (FileOp.openExisting path) >>= fun opened => pure (Except.ok opened)) >>= _) d false _
  refine FileProgram.Watches.bind (FileProgram.Watches.bind (FileProgram.Watches.request fun opened d' hans => ?_))
  refine FileProgram.Watches.pure ?_
  cases opened with
  | error e =>
    by_cases hmissing : e = .noEntry
    · subst hmissing
      have hperform : d.openFile false path = (.error .noEntry, d') := hans.perform_eq (by rintro ⟨_, ⟨⟩, hne⟩; exact hne rfl)
      obtain rfl : d' = d := by
        have hsame := Disk.openFile_of_error (congrArg Prod.fst hperform)
        rwa [hperform] at hsame
      exact Reports.pure (.refl d')
    · have hfailed : (FileOp.openExisting path).Failed (.error e) := ⟨e, rfl, hmissing⟩
      dsimp only
      rw [if_neg hmissing, decide_eq_true hfailed]
      exact FileProgram.Watches.pure (.failure trivial)
  | ok h =>
    have hperform : d.openFile false path = (.ok h, d') := hans.perform_eq (by rintro ⟨_, ⟨⟩, _⟩)
    obtain ⟨rfl, -⟩ := Disk.of_openFile_false hperform
    change Reports _ (FileAttempt.read h >>= _) d' _
    refine Reports.bind ((reports_read h).mono fun bytes d₁ hsame => ?_)
    subst hsame
    dsimp only
    split
    · exact Reports.bind ((reports_truncate h _).mono fun _ _ hpaths => Reports.pure hpaths)
    · exact Reports.pure (.refl _)

theorem reports_readLog (hthere : d.pathExists path = .ok true) (skip : Nat) :
    Reports (fun _ => True) (readLog path skip) d fun _ _ => True := by
  refine Reports.bind ((reports_openExisting hthere).mono fun h d' _ => ?_)
  refine Reports.bind ((reports_read h).mono fun bytes d' _ => ?_)
  dsimp only
  split
  · exact Reports.bind ((reports_truncate h _).mono fun _ _ _ => Reports.pure trivial)
  · exact Reports.pure trivial

theorem reports_recover (logPath checkpointPath : String) :
    Reports OfStorage (recover logPath checkpointPath) d fun _ _ => True := by
  refine Reports.bind ((reports_pathExists logPath).storage.mono fun found d' hfound => ?_)
  obtain ⟨rfl, hfound⟩ := hfound
  cases found with
  | true =>
    refine Reports.bind ((reports_readCheckpoint checkpointPath).storage.mono fun read d₁ hpaths => ?_)
    have hthere : d₁.pathExists logPath = .ok true := (hpaths.pathExists_eq logPath).trans hfound
    exact Reports.bind ((reports_readLog hthere _).storage.mono fun _ _ _ => Reports.pure trivial)
  | false =>
    refine Reports.bind ((reports_pathExists checkpointPath).storage.mono fun left d₁ hleft => ?_)
    obtain ⟨rfl, hleft⟩ := hleft
    cases left with
    | true => exact Reports.bind ((reports_resetTo hleft 0).storage.mono fun _ _ _ => Reports.pure trivial)
    | false => exact Reports.pure trivial

/-- The queue of a valid destination is opened, and is open then, unless an operation on its files fails. -/
theorem reports_openIn {name : String} (hvalid : Destination.fault? name = none) (storage : String) (durable : Bool) :
    Reports OfStorage (openIn name storage durable) d fun q _ => q.name = name ∧ q.isClosed = false := by
  rw [openIn, validate_eq_ok hvalid]
  refine Reports.bind ((reports_recover _ _).mono fun found d₁ _ => ?_)
  refine Reports.bind ((reports_openAppend _).storage.mono fun log d₂ _ => ?_)
  refine Reports.bind ((reports_openAppend _).storage.mono fun checkpoint d₃ _ => ?_)
  dsimp only
  split
  · exact Reports.bind ((reports_appendRecord _ _ _).storage.mono fun _ _ _ => Reports.pure ⟨rfl, rfl⟩)
  · exact Reports.pure ⟨rfl, rfl⟩

/-! ## Working -/

/-- What comes of putting a message in, and whether an operation failed. -/
inductive Puts (q : DurableQueue) (m : Message) : Except BrokerError Unit → Bool → Prop where
  | oversized : Log.maxBody < m.bytes.length → Puts q m (.error (.storage (.oversized m.bytes.length))) false
  | refused : m.bytes.length ≤ Log.maxBody → q.isClosed = true → Puts q m (.error q.closedError) false
  | done : m.bytes.length ≤ Log.maxBody → q.isClosed = false → Puts q m (.ok ()) false
  | failed {e : BrokerError} : m.bytes.length ≤ Log.maxBody → q.isClosed = false → OfStorage e → Puts q m (.error e) true

/-- What comes of taking a message out, and whether an operation failed. -/
inductive Takes (q : DurableQueue) : Except BrokerError (Option Message) → Bool → Prop where
  | refused : q.isClosed = true → Takes q (.error q.closedError) false
  | nothing : q.isClosed = false → q.isEmpty = true → Takes q (.ok none) false
  | message {m : Message} : q.isClosed = false → q.isEmpty = false → q.peek = some m → Takes q (.ok (some m)) false
  | failed {e : BrokerError} : q.isClosed = false → q.isEmpty = false → OfStorage e → Takes q (.error e) true

theorem watches_enqueue (q : DurableQueue) (m : Message) (d : Disk) :
    FileProgram.Watches (q.enqueue m) d false fun r _ failed => q.Puts m r.1 failed := by
  by_cases hlong : Log.maxBody < m.bytes.length
  · have hrecord : Log.record m = .error (.storage (.oversized m.bytes.length)) := if_pos hlong
    rw [enqueue, hrecord]
    exact FileProgram.Watches.pure (.oversized hlong)
  have hfits := Nat.le_of_not_lt hlong
  rw [enqueue, record_eq hfits]
  cases hfiles : q.files with
  | none => exact FileProgram.Watches.pure (.refused hfits (by rw [isClosed, hfiles]; rfl))
  | some files =>
    have hopen : q.isClosed = false := by rw [isClosed, hfiles]; rfl
    refine FileProgram.Watches.bind (FileProgram.Watches.mono (reports_appendRecord _ _ _) fun r d' failed hr => ?_)
    cases hr with
    | result => exact FileProgram.Watches.pure (.done hfits hopen)
    | failure =>
      -- Whatever comes of cutting the record off again, the failure is told.
      refine FileProgram.Watches.bind ((FileProgram.watches_failed _ d').mono fun q' d'' failed' hfailed => ?_)
      subst hfailed
      exact FileProgram.Watches.pure (.failed hfits hopen ⟨_, rfl⟩)

theorem watches_dequeue (q : DurableQueue) (d : Disk) :
    FileProgram.Watches q.dequeue d false fun r _ failed => q.Takes r.1 failed := by
  rw [dequeue]
  cases hfiles : q.files with
  | none => exact FileProgram.Watches.pure (.refused (by rw [isClosed, hfiles]; rfl))
  | some files =>
    have hopen : q.isClosed = false := by rw [isClosed, hfiles]; rfl
    dsimp only
    cases hpending : q.pending with
    | nil => exact FileProgram.Watches.pure (.nothing hopen (by rw [isEmpty, hpending]; rfl))
    | cons m pending =>
      have hwaiting : q.isEmpty = false := by rw [isEmpty, hpending]; rfl
      refine FileProgram.Watches.bind (FileProgram.Watches.mono (reports_appendRecord _ _ _) fun r d' failed hr => ?_)
      cases hr with
      | result => exact FileProgram.Watches.pure (.message hopen hwaiting (by rw [peek, hpending]; rfl))
      | failure =>
        refine FileProgram.Watches.bind ((FileProgram.watches_failed _ d').mono fun q' d'' failed' hfailed => ?_)
        subst hfailed
        exact FileProgram.Watches.pure (.failed hopen hwaiting ⟨_, rfl⟩)

end QueueBroker.DurableQueue

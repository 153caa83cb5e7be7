import QueueBroker.Proofs.Queue.Agreement
import QueueBroker.Proofs.Storage.Handles

/-!
# Operations that fail

An operation of a queue that fails leaves the queue and its files as they were, or it closes the queue, which then touches its files
no more. `DurableQueue.failed_use_harmless` says so of every queue that was ever opened in a tree of files, with links and devices,
whatever came of the operations before. It does not hold where both paths lead to one regular file: there, what is cut off the
checkpoints is cut off the log.
-/

namespace QueueBroker

open FileOp

/-- What can be asked of a queue. -/
inductive Use where
  | enqueue (m : Message)
  | dequeue
  | close

/-- Whether a record can hold the message, if one is to be put in. -/
def Use.Fits : Use → Prop
  | enqueue m => m.bytes.length ≤ Log.maxBody
  | dequeue => True
  | close => True

namespace DurableQueue

variable {q q' : DurableQueue} {d d' d₁ : Disk} {files : QueueFiles} {m : Message} {u : Use} {path checkpointPath : String}
  {h : Handle} {bytes : Bytes} {length : Nat} {durable : Bool} {e : BrokerError} {sole : Prop}

/-- Do what is asked; the result is the message that was taken out, if there is one. -/
def use (q : DurableQueue) : Use → FileProgram (Except BrokerError (Option Message) × DurableQueue)
  | .enqueue m => do
    let (result, q) ← q.enqueue m
    pure (result.map fun _ => none, q)
  | .dequeue => q.dequeue
  | .close => do
    let (result, q) ← q.close
    pure (result.map fun _ => none, q)

/-- Do one thing after the other, whatever comes of each. -/
def uses (q : DurableQueue) : List Use → FileProgram (List (Except BrokerError (Option Message)) × DurableQueue)
  | [] => pure ([], q)
  | u :: us => do
    let (result, q) ← q.use u
    let (results, q) ← q.uses us
    pure (result :: results, q)

/-! ## Closed queues -/

/-- The failure of what is asked of a closed queue. A message too long for a record is refused for that, as by an open queue. -/
def refusal (q : DurableQueue) : Use → BrokerError
  | .enqueue m => if Log.maxBody < m.bytes.length then .storage (.oversized m.bytes.length) else q.closedError
  | .dequeue => q.closedError
  | .close => .state (.queueAlreadyClosed q.name)

theorem use_of_closed (hclosed : q.files = none) (u : Use) : q.use u = pure (.error (q.refusal u), q) := by
  cases u with
  | enqueue m =>
    by_cases hlong : Log.maxBody < m.bytes.length
    · have hrecord : Log.record m = .error (.storage (.oversized m.bytes.length)) := if_pos hlong
      rw [use, enqueue, hrecord, refusal, if_pos hlong]
      rfl
    · rw [use, enqueue, record_eq (Nat.le_of_not_lt hlong), hclosed, refusal, if_neg hlong]
      rfl
  | dequeue =>
    rw [use, dequeue, hclosed]
    rfl
  | close =>
    rw [use, close, hclosed]
    rfl

/-- A closed queue refuses everything and asks for no operation on files. -/
theorem uses_of_closed (hclosed : q.files = none) (us : List Use) : q.uses us = pure (us.map fun u => .error (q.refusal u), q) := by
  induction us with
  | nil => rfl
  | cons u us ih =>
    rw [uses, use_of_closed hclosed]
    change (do let (results, q) ← q.uses us; pure (_ :: results, q)) = _
    rw [ih]
    rfl

theorem refusal_of_fits (q : DurableQueue) (hfits : u.Fits) : ∃ fault, q.refusal u = .state fault := by
  cases u with
  | enqueue m => exact ⟨_, if_neg (Nat.not_lt_of_le hfits)⟩
  | dequeue => exact ⟨_, rfl⟩
  | close => exact ⟨_, rfl⟩

/-! ## What an open queue knows of its files -/

/-- The files of an open queue are what its paths open. They are as long as the queue has it if they are two, and if it is the `sole`
one that writes into them. -/
structure Tracks (sole : Prop) (q : DurableQueue) (d : Disk) (files : QueueFiles) : Prop where
  tree : d.IsTree
  log : d.Opens q.logPath files.log
  checkpoint : d.Opens q.checkpointPath files.checkpoint
  lengths : sole → d.Distinct q.logPath q.checkpointPath →
    d.Measured q.logPath files.logLength ∧ d.Measured q.checkpointPath files.checkpointLength

/-- A queue that knows its files, if it is open. -/
def Tracked (sole : Prop) (q : DurableQueue) (d : Disk) : Prop :=
  ∀ files, q.files = some files → q.Tracks sole d files

theorem Tracked.of_closed (hclosed : q.files = none) (d : Disk) : q.Tracked sole d := by
  intro files hfiles
  rw [hclosed] at hfiles
  cases hfiles

/-! ## Opening -/

theorem attains_readCheckpoint_measured (ht : d.IsTree) :
    FileAttempt.Attains True (readCheckpoint path) d fun read d' => Disk.WorksAt path d d' ∧ d'.Measured path read.2 := by
  rw [readCheckpoint]
  refine FileAttempt.Attains.bind (Q := fun opened d' => d' = d ∧ (∀ h, opened = .ok h → d.Opens path h) ∧
    (opened = .error .noEntry → d.Measured path 0)) ?_ ?_
  · refine FileAttempt.attains_true_iff.2 fun opened d' hr => ?_
    obtain ⟨opened', hr, heq⟩ := FileAttempt.runs_lift_iff.1 hr
    cases heq
    exact FileAttempt.runs_openExisting hr
  · rintro opened _ ⟨rfl, hopens, hmissing⟩
    cases opened with
    | error e =>
      dsimp only
      split
      · rename_i hnone
        exact FileAttempt.Attains.pure ⟨.refl ht path, hmissing (hnone ▸ rfl)⟩
      · exact fun r d' hr => Or.inr ⟨trivial, e, (FileAttempt.runs_throw_iff.1 hr).1⟩
    | ok h =>
      have ho := hopens h rfl
      refine FileAttempt.attains_read.bind ?_
      rintro bytes _ ⟨rfl, rfl⟩
      dsimp only
      split
      · refine FileAttempt.attains_truncate.bind ?_
        rintro _ _ ⟨id, rfl, rfl⟩
        exact FileAttempt.Attains.pure ⟨ho.worksAt_fitted ht _, ho.measured_fitted ht _⟩
      · rename_i hwhole
        refine FileAttempt.Attains.pure ⟨.refl ht path, ?_⟩
        rw [of_not_not hwhole]
        exact ho.measured_read

theorem length_scan_le (skip : Nat) (bytes : Bytes) : (Log.scan skip bytes).length ≤ bytes.length := by
  obtain ⟨bodies, pending, left, hscan⟩ := Log.exists_scanned skip bytes
  rw [Log.scan_eq hscan, hscan.eq_joined_append, List.length_append]
  exact Nat.le_add_right _ _

theorem attains_readLog_measured (ht : d.IsTree) (skip : Nat) :
    FileAttempt.Attains True (readLog path skip) d fun contents d' => Disk.WorksAt path d d' ∧ d'.Measured path contents.length := by
  refine FileAttempt.attains_openExisting.bind ?_
  rintro h _ ⟨rfl, ho⟩
  refine FileAttempt.attains_read.bind ?_
  rintro bytes _ ⟨rfl, rfl⟩
  dsimp only
  split
  · refine FileAttempt.attains_truncate.bind ?_
    rintro _ _ ⟨id, rfl, rfl⟩
    exact FileAttempt.Attains.pure ⟨ho.worksAt_fitted ht _, ho.measured_fitted ht _⟩
  · rename_i hall
    refine FileAttempt.Attains.pure ⟨.refl ht path, ?_⟩
    rw [Nat.le_antisymm (length_scan_le skip _) (Nat.le_of_not_lt hall)]
    exact ho.measured_read

theorem attains_recover_measured (ht : d.IsTree) :
    FileAttempt.Attains True (recover path checkpointPath) d fun found d' => d'.IsTree ∧
      (d'.Distinct path checkpointPath → d'.Measured path found.logLength ∧ d'.Measured checkpointPath found.checkpointLength) := by
  refine FileAttempt.attains_pathExists.storage.bind ?_
  rintro hasLog _ ⟨rfl, hnoLog⟩
  cases hasLog with
  | true =>
    refine (attains_readCheckpoint_measured ht).storage.bind ?_
    rintro ⟨taken, checkpointLength⟩ d₁ ⟨hw₁, hm₁⟩
    refine (attains_readLog_measured hw₁.tree taken).storage.bind ?_
    rintro contents d₂ ⟨hw₂, hm₂⟩
    exact FileAttempt.Attains.pure ⟨hw₂.tree, fun hne => ⟨hm₂, hw₂.others _ _ hne hm₁⟩⟩
  | false =>
    refine FileAttempt.attains_pathExists.storage.bind ?_
    rintro hasCheckpoint _ ⟨rfl, hnoCheckpoint⟩
    cases hasCheckpoint with
    | true =>
      refine FileAttempt.attains_resetTo.storage.bind ?_
      rintro _ _ ⟨id, ho, rfl, rfl⟩
      have hw := ho.worksAt_fitted ht 0
      exact FileAttempt.Attains.pure ⟨hw.tree, fun hne => ⟨hw.others _ _ hne.symm (hnoLog rfl), ho.measured_fitted ht 0⟩⟩
    | false => exact FileAttempt.Attains.pure ⟨ht, fun _ => ⟨hnoLog rfl, hnoCheckpoint rfl⟩⟩

/-- However a queue is opened in a tree of files, it knows its files. -/
theorem attains_openIn_tracked (ht : d.IsTree) (name storage : String) (durable : Bool) :
    FileAttempt.Attains True (openIn name storage durable) d fun q d' => q.Tracked sole d' := by
  rw [openIn, Destination.validate]
  cases hvalid : Destination.fault? name with
  | some fault => exact fun r d' hr => Or.inr ⟨trivial, _, (FileAttempt.runs_throw_iff.1 hr).1⟩
  | none =>
    refine (attains_recover_measured ht).bind ?_
    rintro found d₁ ⟨ht₁, hlengths⟩
    refine (FileAttempt.attains_openAppend ht₁).storage.bind ?_
    rintro log d₂ ⟨hlog, ⟨ht₂, hext₂⟩, hkept₂⟩
    refine (FileAttempt.attains_openAppend ht₂).storage.bind ?_
    rintro checkpoint d₃ ⟨hcheckpoint, ⟨ht₃, hext₃⟩, hkept₃⟩
    have hmeasured (hne : d₃.Distinct (logPathOf storage name) (checkpointPathOf storage name)) :
        d₃.Measured (logPathOf storage name) found.logLength ∧ d₃.Measured (checkpointPathOf storage name) found.checkpointLength := by
      obtain ⟨hmlog, hmcheckpoint⟩ := hlengths (hne.of_extends (hext₂.trans hext₃))
      exact ⟨hkept₃ _ _ (hkept₂ _ _ hmlog), hkept₃ _ _ (hkept₂ _ _ hmcheckpoint)⟩
    dsimp only
    cases found.stale with
    | false =>
      refine FileAttempt.Attains.pure fun files hfiles => ?_
      cases hfiles
      exact ⟨ht₃, hlog.mono hext₃, hcheckpoint, fun _ => hmeasured⟩
    | true =>
      refine FileAttempt.Attains.bind (Q := fun _ d' => d' = d₃.written checkpoint (Checkpoint.record found.taken)) ?_ ?_
      · refine (FileAttempt.attains_true_iff.2 fun _ d' hr => ?_).storage
        obtain ⟨-, -, hwhole⟩ := FileAttempt.runs_appendRecord hr
        exact hwhole rfl
      rintro _ _ rfl
      have hw := hcheckpoint.worksAt_written ht₃ (Checkpoint.record found.taken)
      refine FileAttempt.Attains.pure fun files hfiles => ?_
      cases hfiles
      refine ⟨hw.tree, (hlog.mono hext₃).mono hw.entries, hcheckpoint.mono hw.entries, fun _ hne => ?_⟩
      obtain ⟨hmlog, hmcheckpoint⟩ := hmeasured (hne.of_extends hw.entries)
      exact ⟨hw.others _ _ hne.symm hmlog, hcheckpoint.measured_written ht₃ hmcheckpoint _⟩

/-! ## Working -/

/-- What a failure leaves of a queue: all as it was, also the disk unless both paths lead to one file, or a closed queue. -/
def Spared (sole : Prop) (q : DurableQueue) (d : Disk) (q' : DurableQueue) (d' : Disk) : Prop :=
  q' = q ∧ (sole → d.Distinct q.logPath q.checkpointPath → d' = d) ∨ q' = { q with files := none }

/-- A record that could not be written is cut off again, and no trace is left of it. -/
theorem Tracks.attains_resetTo (hq : q.Tracks sole d files) (ho : d.Opens path h)
    (hlength : sole → d.Distinct q.logPath q.checkpointPath → d.Measured path length) {e : Errno}
    (hr : (FileAttempt.appendRecord h bytes durable).run.Runs (Answers True) d (.error e) d₁) :
    FileAttempt.Attains True (FileAttempt.resetTo path length) d₁ fun h' d' =>
      h' = h ∧ q.Tracks sole d' files ∧ (sole → d.Distinct q.logPath q.checkpointPath → d' = d) := by
  obtain ⟨k, rfl, -⟩ := FileAttempt.runs_appendRecord hr
  refine FileAttempt.attains_resetTo.mono ?_
  rintro h' _ ⟨id, ho', rfl, rfl⟩
  obtain rfl := ho.unique (Disk.opens_written_iff.1 ho')
  have hsame (hsole : sole) (hne : d.Distinct q.logPath q.checkpointPath) :
      (d.written (.file id) (bytes.take k)).fitted id length = d :=
    ho.fitted_written hq.tree (hlength hsole hne) _
  have hw := ho.worksAt_written hq.tree (bytes.take k)
  have hw' := hw.trans (ho'.worksAt_fitted hw.tree length)
  refine ⟨rfl, ⟨hw'.tree, hq.log.mono hw'.entries, hq.checkpoint.mono hw'.entries, fun hsole hne => ?_⟩, hsame⟩
  have hne := hne.of_extends hw'.entries
  rw [hsame hsole hne]
  exact hq.lengths hsole hne

theorem files_some_eq (hfiles : q.files = some files) : { q with files := some files } = q := by
  rw [← hfiles]

theorem Tracks.tracked (hq : q.Tracks sole d files) (hfiles : q.files = some files) : q.Tracked sole d := by
  intro files' hfiles'
  obtain rfl := Option.some.inj (hfiles.symm.trans hfiles')
  exact hq

/-- After a whole record the log is so much longer, and the checkpoint is as it was. -/
theorem Tracks.log_written (hq : q.Tracks sole d files)
    (happend : (FileAttempt.appendRecord files.log bytes durable).run.Runs (Answers True) d (.ok ()) d') :
    q.Tracks sole d' { files with logLength := files.logLength + bytes.length } := by
  obtain ⟨-, -, hwhole⟩ := FileAttempt.runs_appendRecord happend
  obtain rfl := hwhole rfl
  have hw := hq.log.worksAt_written hq.tree bytes
  refine ⟨hw.tree, hq.log.mono hw.entries, hq.checkpoint.mono hw.entries, fun hsole hne => ?_⟩
  obtain ⟨hmlog, hmcheckpoint⟩ := hq.lengths hsole (hne.of_extends hw.entries)
  exact ⟨hq.log.measured_written hq.tree hmlog _, hw.others _ _ hne hmcheckpoint⟩

/-- After a whole record the checkpoint is so much longer, and the log is as it was. -/
theorem Tracks.checkpoint_written (hq : q.Tracks sole d files)
    (happend : (FileAttempt.appendRecord files.checkpoint bytes durable).run.Runs (Answers True) d (.ok ()) d') :
    q.Tracks sole d' { files with checkpointLength := files.checkpointLength + bytes.length } := by
  obtain ⟨-, -, hwhole⟩ := FileAttempt.runs_appendRecord happend
  obtain rfl := hwhole rfl
  have hw := hq.checkpoint.worksAt_written hq.tree bytes
  refine ⟨hw.tree, hq.log.mono hw.entries, hq.checkpoint.mono hw.entries, fun hsole hne => ?_⟩
  obtain ⟨hmlog, hmcheckpoint⟩ := hq.lengths hsole (hne.of_extends hw.entries)
  exact ⟨hw.others _ _ hne.symm hmlog, hq.checkpoint.measured_written hq.tree hmcheckpoint _⟩

theorem Tracks.runs_rollbackLog (hq : q.Tracks sole d files) (hfiles : q.files = some files) {cause : Errno}
    (happend : (FileAttempt.appendRecord files.log bytes durable).run.Runs (Answers True) d (.error cause) d₁)
    (hr : (q.rollbackLog files).Runs (Answers True) d₁ q' d') : q'.Tracked sole d' ∧ q.Spared sole d q' d' := by
  obtain ⟨result, d₂, hreset, hr⟩ := Program.runs_bind_iff.1 hr
  cases result with
  | ok log =>
    have hundo := hq.attains_resetTo hq.log (fun hsole hne => (hq.lengths hsole hne).1) happend
    obtain ⟨rfl, hq', hsame⟩ := FileAttempt.attains_true_iff.1 hundo _ _ hreset
    obtain ⟨rfl, rfl⟩ := Program.runs_pure_iff.1 hr
    rw [files_some_eq hfiles]
    exact ⟨hq'.tracked hfiles, Or.inl ⟨rfl, hsame⟩⟩
  | error e =>
    obtain ⟨rfl, rfl⟩ := Program.runs_pure_iff.1 hr
    exact ⟨.of_closed rfl _, Or.inr rfl⟩

theorem Tracks.runs_rollbackCheckpoint (hq : q.Tracks sole d files) (hfiles : q.files = some files) {cause : Errno}
    (happend : (FileAttempt.appendRecord files.checkpoint bytes durable).run.Runs (Answers True) d (.error cause) d₁)
    (hr : (q.rollbackCheckpoint files).Runs (Answers True) d₁ q' d') : q'.Tracked sole d' ∧ q.Spared sole d q' d' := by
  obtain ⟨result, d₂, hreset, hr⟩ := Program.runs_bind_iff.1 hr
  cases result with
  | ok checkpoint =>
    have hundo := hq.attains_resetTo hq.checkpoint (fun hsole hne => (hq.lengths hsole hne).2) happend
    obtain ⟨rfl, hq', hsame⟩ := FileAttempt.attains_true_iff.1 hundo _ _ hreset
    obtain ⟨rfl, rfl⟩ := Program.runs_pure_iff.1 hr
    rw [files_some_eq hfiles]
    exact ⟨hq'.tracked hfiles, Or.inl ⟨rfl, hsame⟩⟩
  | error e =>
    obtain ⟨rfl, rfl⟩ := Program.runs_pure_iff.1 hr
    exact ⟨.of_closed rfl _, Or.inr rfl⟩

/-- What work on a queue comes to: the same queue, which knows its files still, and is spared if the work fails. A closed queue stays
as it is. -/
structure Served {α : Type} (sole : Prop) (q : DurableQueue) (d : Disk) (result : Except BrokerError α) (q' : DurableQueue)
    (d' : Disk) : Prop where
  same : q.SameQueue q'
  closed : q.files = none → q' = q
  tracked : q'.Tracked sole d'
  spared : ∀ e, result = .error e → q.Spared sole d q' d'

theorem Tracked.served_same {α : Type} (hq : q.Tracked sole d) (result : Except BrokerError α) : q.Served sole d result q d :=
  ⟨.refl q, fun _ => rfl, hq, fun _ _ => Or.inl ⟨rfl, fun _ _ => rfl⟩⟩

theorem Spared.sameQueue (h : q.Spared sole d q' d') : q.SameQueue q' := by
  rcases h with ⟨rfl, -⟩ | rfl
  · exact .refl q'
  · exact ⟨rfl, rfl, rfl⟩

/-- What a queue knows of its files goes by its name and storage. -/
theorem Tracks.of_sameQueue (hq : q.Tracks sole d files) (hsame : q.SameQueue q') : q'.Tracks sole d files := by
  have hlog : q'.logPath = q.logPath := by rw [logPath, logPath, hsame.name, hsame.storage]
  have hcheckpoint : q'.checkpointPath = q.checkpointPath := by rw [checkpointPath, checkpointPath, hsame.name, hsame.storage]
  refine ⟨hq.tree, hlog ▸ hq.log, hcheckpoint ▸ hq.checkpoint, ?_⟩
  rw [hlog, hcheckpoint]
  exact hq.lengths

/-- An open queue that goes on with the files that it knows is served. -/
theorem Tracks.served_ok {α : Type} {a : α} {files' : QueueFiles} (hq : q.Tracks sole d' files') (hfiles : q.files = some files)
    (hfiles' : q'.files = some files') (hsame : q.SameQueue q') : q.Served sole d (.ok a) q' d' where
  same := hsame
  closed hclosed := nomatch hfiles.symm.trans hclosed
  tracked := (hq.of_sameQueue hsame).tracked hfiles'
  spared _ heq := nomatch heq

/-- An open queue that a failure spares is served too. -/
theorem Spared.served_error {α : Type} (h : q.Spared sole d q' d') {e : BrokerError} (hq' : q'.Tracked sole d')
    (hfiles : q.files = some files) : q.Served sole d (.error e : Except BrokerError α) q' d' where
  same := h.sameQueue
  closed hclosed := nomatch hfiles.symm.trans hclosed
  tracked := hq'
  spared _ _ := h

theorem Tracked.served_enqueue (hq : q.Tracked sole d) {result : Except BrokerError Unit}
    (hr : (q.enqueue m).Runs (Answers True) d (result, q') d') : q.Served sole d result q' d' := by
  rw [enqueue] at hr
  cases hrecord : Log.record m with
  | error e =>
    rw [hrecord] at hr
    obtain ⟨heq, rfl⟩ := Program.runs_pure_iff.1 hr
    cases heq
    exact hq.served_same _
  | ok record =>
    rw [hrecord] at hr
    dsimp only at hr
    cases hfiles : q.files with
    | none =>
      rw [hfiles] at hr
      obtain ⟨heq, rfl⟩ := Program.runs_pure_iff.1 hr
      cases heq
      exact hq.served_same _
    | some files =>
      have ht := hq files hfiles
      rw [hfiles] at hr
      obtain ⟨written, d₁, happend, hr⟩ := Program.runs_bind_iff.1 hr
      cases written with
      | ok _ =>
        obtain ⟨heq, rfl⟩ := Program.runs_pure_iff.1 hr
        cases heq
        exact (ht.log_written happend).served_ok hfiles rfl ⟨rfl, rfl, rfl⟩
      | error cause =>
        obtain ⟨q₁, d₂, hback, hr⟩ := Program.runs_bind_iff.1 hr
        obtain ⟨heq, rfl⟩ := Program.runs_pure_iff.1 hr
        cases heq
        obtain ⟨hq', hspared⟩ := ht.runs_rollbackLog hfiles happend hback
        exact hspared.served_error hq' hfiles

theorem Tracked.served_dequeue (hq : q.Tracked sole d) {result : Except BrokerError (Option Message)}
    (hr : q.dequeue.Runs (Answers True) d (result, q') d') : q.Served sole d result q' d' := by
  rw [dequeue] at hr
  cases hfiles : q.files with
  | none =>
    rw [hfiles] at hr
    obtain ⟨heq, rfl⟩ := Program.runs_pure_iff.1 hr
    cases heq
    exact hq.served_same _
  | some files =>
    have ht := hq files hfiles
    rw [hfiles] at hr
    dsimp only at hr
    cases hpending : q.pending with
    | nil =>
      rw [hpending] at hr
      obtain ⟨heq, rfl⟩ := Program.runs_pure_iff.1 hr
      cases heq
      exact hq.served_same _
    | cons m pending =>
      rw [hpending] at hr
      obtain ⟨written, d₁, happend, hr⟩ := Program.runs_bind_iff.1 hr
      cases written with
      | ok _ =>
        obtain ⟨heq, rfl⟩ := Program.runs_pure_iff.1 hr
        cases heq
        exact (ht.checkpoint_written happend).served_ok hfiles rfl ⟨rfl, rfl, rfl⟩
      | error cause =>
        obtain ⟨q₁, d₂, hback, hr⟩ := Program.runs_bind_iff.1 hr
        obtain ⟨heq, rfl⟩ := Program.runs_pure_iff.1 hr
        cases heq
        obtain ⟨hq', hspared⟩ := ht.runs_rollbackCheckpoint hfiles happend hback
        exact hspared.served_error hq' hfiles

/-- Closing closes a queue, whatever it comes to. -/
theorem closed_of_runs_close {result : Except BrokerError Unit} (hr : q.close.Runs (Answers True) d (result, q') d') :
    q' = { q with files := none } := by
  rw [close] at hr
  cases hfiles : q.files with
  | none =>
    rw [hfiles] at hr
    obtain ⟨heq, -⟩ := Program.runs_pure_iff.1 hr
    cases heq
    rw [← hfiles]
  | some files =>
    rw [hfiles] at hr
    dsimp only at hr
    split at hr
    · obtain ⟨_, _, -, hr⟩ := Program.runs_bind_iff.1 hr
      exact (Prod.mk.inj (Program.runs_pure_iff.1 hr).1).2
    · obtain ⟨_, _, -, hr⟩ := Program.runs_bind_iff.1 hr
      exact (Prod.mk.inj (Program.runs_pure_iff.1 hr).1).2

theorem error_of_map {α β : Type} {result : Except BrokerError α} {f : α → β} (h : result.map f = .error e) : result = .error e := by
  cases result with
  | ok a => cases h
  | error e => cases h; rfl

theorem served_close {result : Except BrokerError Unit} (hr : q.close.Runs (Answers True) d (result, q') d') :
    q.Served sole d result q' d' := by
  obtain rfl := closed_of_runs_close hr
  refine ⟨⟨rfl, rfl, rfl⟩, fun hclosed => ?_, .of_closed rfl _, fun _ _ => Or.inr rfl⟩
  rw [← hclosed]

theorem Served.map {α β : Type} {result : Except BrokerError α} (h : q.Served sole d result q' d') (f : α → β) :
    q.Served sole d (result.map f) q' d' :=
  ⟨h.same, h.closed, h.tracked, fun e heq => h.spared e (error_of_map heq)⟩

theorem Tracked.served_use (hq : q.Tracked sole d) {result : Except BrokerError (Option Message)}
    (hr : (q.use u).Runs (Answers True) d (result, q') d') : q.Served sole d result q' d' := by
  cases u with
  | dequeue => exact hq.served_dequeue hr
  | enqueue m =>
    obtain ⟨⟨result, q₁⟩, d₁, henqueue, hr⟩ := Program.runs_bind_iff.1 hr
    obtain ⟨heq, rfl⟩ := Program.runs_pure_iff.1 hr
    cases heq
    exact (hq.served_enqueue henqueue).map _
  | close =>
    obtain ⟨⟨result, q₁⟩, d₁, hclose, hr⟩ := Program.runs_bind_iff.1 hr
    obtain ⟨heq, rfl⟩ := Program.runs_pure_iff.1 hr
    cases heq
    exact (served_close hclose).map _

/-! ## From the opening on -/

/-- A queue and a disk that it may find itself with: it was opened in a tree of files, and then it was used, each time with any
result, while the tree grew and nobody else wrote into its files. -/
inductive Operated : DurableQueue → Disk → Prop where
  | opened {name storage : String} {durable : Bool} {q : DurableQueue} {d d' : Disk} : d.IsTree →
      (openIn name storage durable).run.Runs (Answers True) d (.ok q) d' → Operated q d'
  | used {q q' : DurableQueue} {d d' : Disk} {u : Use} {result : Except BrokerError (Option Message)} : Operated q d →
      (q.use u).Runs (Answers True) d (result, q') d' → Operated q' d'
  | elsewhere {q : DurableQueue} {d d' : Disk} : Operated q d → d.Extends d' → d'.IsTree →
      (∀ id, d.Opens q.logPath (.file id) ∨ d.Opens q.checkpointPath (.file id) → d'.content id = d.content id) → Operated q d'

theorem Operated.tracked (h : Operated q d) : q.Tracked True d := by
  induction h with
  | opened ht hr => exact FileAttempt.attains_true_iff.1 (attains_openIn_tracked ht _ _ _) _ _ hr
  | used _ hr ih => exact (ih.served_use hr).tracked
  | elsewhere _ hext ht hsame ih =>
    intro files hfiles
    have hq := ih files hfiles
    refine ⟨ht, hq.log.mono hext, hq.checkpoint.mono hext, fun _ hne => ?_⟩
    obtain ⟨hmlog, hmcheckpoint⟩ := hq.lengths trivial (hne.of_extends hext)
    exact ⟨hq.log.measured_of_same hext (fun id ho => hsame id (Or.inl ho)) hmlog,
      hq.checkpoint.measured_of_same hext (fun id ho => hsame id (Or.inr ho)) hmcheckpoint⟩

/-- A queue that refuses whatever it is asked, and asks for no operation on files: what a record can hold, for the state that it
is in. -/
structure Refuses (q : DurableQueue) : Prop where
  closed : q.isClosed = true
  refuses : ∀ us, q.uses us = pure (us.map fun u => .error (q.refusal u), q)
  state : ∀ u : Use, u.Fits → ∃ fault, q.refusal u = .state fault

theorem refuses_of_closed (hclosed : q.files = none) : q.Refuses := by
  refine ⟨?_, uses_of_closed hclosed, fun u hfits => q.refusal_of_fits hfits⟩
  rw [isClosed, hclosed]
  rfl

/-- What a use that fails leaves: what is pending and how many were taken is as before, and the queue is as it was, open, and the
disk too, or it is closed for good. -/
structure Harmless (q : DurableQueue) (d : Disk) (q' : DurableQueue) (d' : Disk) : Prop where
  pending : q'.pending = q.pending
  peek : q'.peek = q.peek
  taken : q'.taken = q.taken
  left : q'.isClosed = false ∧ q' = q ∧ d' = d ∨ q' = { q with files := none } ∧ q'.Refuses

theorem Spared.harmless (h : q.Spared True d q' d') (hne : d.Distinct q.logPath q.checkpointPath) : q.Harmless d q' d' := by
  rcases h with ⟨rfl, hsame⟩ | rfl
  · refine ⟨rfl, rfl, rfl, ?_⟩
    cases hfiles : q'.files with
    | none => exact Or.inr ⟨by rw [← hfiles], refuses_of_closed hfiles⟩
    | some files =>
      refine Or.inl ⟨?_, rfl, hsame trivial hne⟩
      rw [isClosed, hfiles]
      rfl
  · exact ⟨rfl, rfl, rfl, Or.inr ⟨rfl, refuses_of_closed rfl⟩⟩

/-- Whatever is asked of a queue whose paths do not lead to one regular file, and however it fails, the queue and its files are as
they were, or the queue is closed and does nothing any more. -/
theorem failed_use_harmless (h : Operated q d) (hne : d.Distinct q.logPath q.checkpointPath)
    (hr : (q.use u).Runs (Answers True) d (.error e, q') d') : q.Harmless d q' d' := by
  exact ((h.tracked.served_use hr).spared e rfl).harmless hne

/-! ## A checkpoint that is cut off -/

theorem distinct_diskOf (log checkpoint : Bytes) : (diskOf log checkpoint).Distinct "q" "q-checkpoint" := by
  intro id hlog hcheckpoint
  have hopens : (diskOf log checkpoint).Opens "q" (.file 0) ∧ (diskOf log checkpoint).Opens "q-checkpoint" (.file 1) :=
    ⟨⟨_, _, rfl, rfl⟩, _, _, rfl, rfl⟩
  cases hlog.unique hopens.1
  cases hcheckpoint.unique hopens.2

theorem operated_stored : Operated (queueOf [plainMessage] 0 38 0) (diskOf (Log.recordOf plainMessage.bytes) []) :=
  .used (.opened (Disk.isTree_empty "home") (runs_openIn_new.mono fun _ _ _ _ h => h.of_false))
    (FileProgram.runs_run ((queueOf [] 0 0 0).use (.enqueue plainMessage)) (diskOf [] []))

/-- A checkpoint that is written in part only is cut off, and the message stays. -/
theorem failed_use_harmless_torn :
    (diskOf (Log.recordOf plainMessage.bytes) []).Distinct "q" "q-checkpoint" ∧
      ((queueOf [plainMessage] 0 38 0).use .dequeue).Runs (Answers True) (diskOf (Log.recordOf plainMessage.bytes) [])
        (.error (.storage (.file .append "q-checkpoint" .noSpace)), queueOf [plainMessage] 0 38 0)
        (diskOf (Log.recordOf plainMessage.bytes) []) ∧
      (queueOf [plainMessage] 0 38 0).Harmless (diskOf (Log.recordOf plainMessage.bytes) []) (queueOf [plainMessage] 0 38 0)
        (diskOf (Log.recordOf plainMessage.bytes) []) := by
  have hr : ((queueOf [plainMessage] 0 38 0).use .dequeue).Runs (Answers True) (diskOf (Log.recordOf plainMessage.bytes) [])
      (.error (.storage (.file .append "q-checkpoint" .noSpace)), queueOf [plainMessage] 0 38 0)
      (diskOf (Log.recordOf plainMessage.bytes) []) :=
    Program.runs_run answers_performShort ((queueOf [plainMessage] 0 38 0).use .dequeue) (diskOf (Log.recordOf plainMessage.bytes) [])
  exact ⟨distinct_diskOf _ _, hr, failed_use_harmless operated_stored (distinct_diskOf _ _) hr⟩

/-! ## Two paths to one file -/

/-- A disk with a queue whose checkpoint path is a link to its log, and no room past the forty-first byte of a file. -/
def linkedDiskOf (files : List Bytes) : Disk :=
  { Disk.empty "home" with
    nodes := (Disk.empty "home").nodes ++ [(["home", "q-checkpoint"], .link "q")] ++
      (List.range files.length).map fun id => (["home", "q"], .file id)
    files
    limit := some 41 }

/-- The queue on such a disk. -/
def linkedQueueOf (pending : List Message) (logLength : Nat) : DurableQueue :=
  { queueOf pending 0 logLength 0 with files := some { log := .file 0, logLength, checkpoint := .file 0, checkpointLength := 0 } }

theorem isTree_linkedDiskOf : (linkedDiskOf []).IsTree := by
  have hlacks : (Disk.empty "home").Lacks ["home"] "q-checkpoint" := ⟨rfl, by decide, by decide, rfl⟩
  have hlink (id : Nat) : Node.link "q" ≠ .file id := by simp
  obtain ⟨hparent, hhome, hnumbered⟩ := (Disk.isTree_empty "home").setNode hlacks hlink
  exact ⟨hparent, hhome, hnumbered⟩

theorem operated_linked : Operated (linkedQueueOf [plainMessage] 38) (linkedDiskOf [Log.recordOf plainMessage.bytes]) := by
  have hopen : (openIn "q" "" false).run.Runs (Answers True) (linkedDiskOf []) (.ok (linkedQueueOf [] 0)) (linkedDiskOf [[]]) :=
    FileProgram.runs_run (openIn "q" "" false).run (linkedDiskOf [])
  exact .used (.opened isTree_linkedDiskOf hopen)
    (FileProgram.runs_run ((linkedQueueOf [] 0).use (.enqueue plainMessage)) (linkedDiskOf [[]]))

/-- A queue that was opened and closed. -/
def closedQueue : DurableQueue :=
  { queueOf [] 0 0 0 with files := none }

/-- A message whose payload is a text of a given length. -/
def textMessage (length : Nat) : Message :=
  ⟨"q", .text (String.ofList (List.replicate length 'a'))⟩

theorem length_le_length_flatMap {α β : Type} {f : α → List β} (hf : ∀ a, 1 ≤ (f a).length) (l : List α) :
    l.length ≤ (l.flatMap f).length := by
  induction l with
  | nil => exact Nat.le_refl _
  | cons a l ih =>
    rw [List.flatMap_cons, List.length_append, List.length_cons]
    have := hf a
    omega

theorem one_le_length_encodeChar (c : Char) : 1 ≤ (Utf8.encodeChar c).length := by
  rw [Utf8.encodeChar]
  split_ifs <;> simp

theorem one_le_length_escape (c : Char) : 1 ≤ (Json.escape c).length := by
  rw [Json.escape]
  split_ifs <;> simp

theorem le_length_textMessage (length : Nat) : length ≤ (textMessage length).bytes.length := by
  have hquoted : length ≤ (Json.quote (String.ofList (List.replicate length 'a'))).length := by
    have hescaped := length_le_length_flatMap one_le_length_escape (List.replicate length 'a')
    rw [List.length_replicate] at hescaped
    rw [Json.quote, String.toList_ofList, List.length_append, List.length_cons]
    omega
  refine Nat.le_trans ?_ (length_le_length_flatMap one_le_length_encodeChar (textMessage length).toJson.chars)
  have hchars : (textMessage length).toJson.chars = '\x7b' :: (Json.quote "destination" ++ ':' :: Json.quote "q" ++
      ',' :: (Json.quote "payload" ++ ':' :: Json.quote (String.ofList (List.replicate length 'a')) ++ ['\x7d'])) := by
    simp only [textMessage, Message.toJson, Json.chars, Json.memberChars]
  rw [hchars]
  simp only [List.length_cons, List.length_append]
  omega

/-- Where both paths lead to one file, a checkpoint that cannot be written takes the message with it; and a closed queue refuses a
message too long for a record as an open one does. -/
theorem failed_use_spoils :
    (Operated (linkedQueueOf [plainMessage] 38) (linkedDiskOf [Log.recordOf plainMessage.bytes]) ∧
      ((linkedQueueOf [plainMessage] 38).use .dequeue).Runs (Answers True) (linkedDiskOf [Log.recordOf plainMessage.bytes])
        (.error (.storage (.file .append "q-checkpoint" .tooLarge)), linkedQueueOf [plainMessage] 38) (linkedDiskOf [[]]) ∧
      (linkedQueueOf [plainMessage] 38).isClosed = false ∧
      (linkedDiskOf [Log.recordOf plainMessage.bytes]).contentsAt "q" = .ok (Log.recordOf plainMessage.bytes) ∧
      (linkedDiskOf [[]]).contentsAt "q" = .ok []) ∧
    Operated closedQueue (diskOf [] []) ∧ ∃ length,
      closedQueue.use (.enqueue (textMessage UInt32.size)) = pure (.error (.storage (.oversized length)), closedQueue) := by
  refine ⟨⟨operated_linked, FileProgram.runs_run ((linkedQueueOf [plainMessage] 38).use .dequeue) _, rfl, rfl, rfl⟩, ?_,
    (textMessage UInt32.size).bytes.length, ?_⟩
  · exact .used (.opened (Disk.isTree_empty "home") (runs_openIn_new.mono fun _ _ _ _ h => h.of_false))
      (FileProgram.runs_run ((queueOf [] 0 0 0).use .close) (diskOf [] []))
  · have hlong : Log.maxBody < (textMessage UInt32.size).bytes.length := le_length_textMessage UInt32.size
    rw [use_of_closed rfl, refusal, if_pos hlong]

end DurableQueue

end QueueBroker

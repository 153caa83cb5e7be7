import Mathlib.Data.List.Forall2
import QueueBroker.Proofs.Queue.Recovery

/-!
# Open queues and their files

`DurableQueue.Mirrors` ties an open queue to its two files: the log holds complete records only, those after the last checkpoint
are the records of the pending messages, and both files are open. Opening a queue leads there from any contents of the files.
-/

namespace QueueBroker

open FileOp

variable {faults : Prop} {F : Folder} {c c' : Contents} {d d' : Disk} {name : String}

namespace DurableQueue

/-- An open queue whose files have these contents. -/
structure Attached (q : DurableQueue) (F : Folder) (c : Contents) (d : Disk) (log checkpoint : Bytes) : Prop where
  storage : q.storage = F.path
  folder : F.HasQueue q.name
  shows : F.Shows c d
  opened : ∃ files, q.files = some files ∧ files.logLength = log.length ∧ files.checkpointLength = checkpoint.length ∧
    F.Opens d (Destination.logName q.name) files.log ∧ F.Opens d (Destination.checkpointName q.name) files.checkpoint
  log : c (Destination.logName q.name) = some log
  checkpoint : c (Destination.checkpointName q.name) = some checkpoint

/-- An open queue whose log holds the records of some bodies, those after the last checkpoint being, by `R`, of the messages
pending. -/
structure Mirrors (R : Bytes → Message → Prop) (q : DurableQueue) (F : Folder) (c : Contents) (d : Disk)
    (bodies : List Bytes) : Prop where
  attached : ∃ checkpoint, q.Attached F c d (Log.joined bodies) checkpoint ∧ Checkpoint.Whole checkpoint ∧
    Checkpoint.last checkpoint = q.taken
  fit : Log.Fit bodies
  short : (Log.joined bodies).length ≤ Disk.maxFile
  taken_le : q.taken ≤ bodies.length
  pending : List.Forall₂ R (bodies.drop q.taken) q.pending

variable {R : Bytes → Message → Prop} {q : DurableQueue} {bodies : List Bytes}

theorem Mirrors.mono {S : Bytes → Message → Prop} (h : q.Mirrors R F c d bodies) (hRS : ∀ body m, R body m → S body m) :
    q.Mirrors S F c d bodies :=
  ⟨h.attached, h.fit, h.short, h.taken_le, h.pending.imp hRS⟩

/-- More messages were not taken than a checkpoint can say. -/
theorem Mirrors.taken_lt (h : q.Mirrors R F c d bodies) : q.taken < UInt64.size - 1 := by
  have h1 := h.taken_le
  have h2 := Log.length_le_length_joined bodies
  have h3 := h.short
  have h4 : Disk.maxFile < UInt64.size - 1 := by decide
  omega

/-- A pending message stands in the log after those taken. -/
theorem Mirrors.taken_lt_length (h : q.Mirrors R F c d bodies) (hpending : q.pending ≠ []) : q.taken < bodies.length := by
  have hlen := h.pending.length_eq
  have := List.length_pos_iff.2 hpending
  rw [List.length_drop] at hlen
  omega

theorem validate_eq_ok (h : Destination.fault? name = none) : Destination.validate name = .ok () := by
  rw [Destination.validate, h]

/-- The checkpoint file after a queue was opened: a stale checkpoint is followed by one that agrees with the log. -/
def checkpointLeft (log checkpoint : Option Bytes) (taken : Nat) (stale : Bool) : Bytes :=
  if stale then checkpointAfter log checkpoint ++ Checkpoint.record taken else checkpointAfter log checkpoint

theorem whole_checkpointLeft (log checkpoint : Option Bytes) (taken : Nat) (stale : Bool) :
    Checkpoint.Whole (checkpointLeft log checkpoint taken stale) := by
  cases stale with
  | false => exact whole_checkpointAfter log checkpoint
  | true => exact (whole_checkpointAfter log checkpoint).append_record taken

theorem length_checkpointLeft_true (log checkpoint : Option Bytes) (taken : Nat) :
    (checkpointLeft log checkpoint taken true).length = (checkpointAfter log checkpoint).length + Checkpoint.recordLength := by
  rw [checkpointLeft, if_pos rfl, List.length_append, Checkpoint.length_record]

/-- Fewer records are found than a checkpoint can say. -/
theorem Found.taken_lt {log checkpoint : Option Bytes} {pending : List Message} {taken : Nat} {stale : Bool}
    (h : Found log checkpoint bodies pending taken stale) (hshort : (log.getD []).length ≤ Disk.maxFile) : taken < UInt64.size := by
  have h1 := h.taken_le
  have h2 := Log.length_le_length_joined bodies
  have h3 := h.length_joined_le
  have h4 : Disk.maxFile < UInt64.size := by decide
  omega

/-- The checkpoint that is left says how many were taken. -/
theorem Found.last_checkpointLeft {log checkpoint : Option Bytes} {pending : List Message} {taken : Nat} {stale : Bool}
    (h : Found log checkpoint bodies pending taken stale) (hshort : (log.getD []).length ≤ Disk.maxFile) :
    Checkpoint.last (checkpointLeft log checkpoint taken stale) = taken := by
  cases stale with
  | false => exact h.last_checkpointAfter
  | true => exact (whole_checkpointAfter log checkpoint).last_append_record (h.taken_lt hshort)

/-- Opening a queue leaves the records that are kept in the log, and a checkpoint that agrees with them. -/
theorem attains_openIn_attached (hs : F.Shows c d) (hq : F.HasQueue name) (hvalid : Destination.fault? name = none)
    {pending : List Message} {taken : Nat} {stale : Bool}
    (hfound : Found (c (Destination.logName name)) (c (Destination.checkpointName name)) bodies pending taken stale)
    (durable : Bool) :
    FileAttempt.Attains faults (openIn name F.path durable) d fun q d' => q.name = name ∧ q.durable = durable ∧
      q.pending = pending ∧ q.taken = taken ∧ d.Extends d' ∧ ∃ c', SameElsewhere name c c' ∧
        q.Attached F c' d' (Log.joined bodies)
          (checkpointLeft (c (Destination.logName name)) (c (Destination.checkpointName name)) taken stale) := by
  rw [openIn, validate_eq_ok hvalid]
  refine (attains_recover hs hq hfound).bind fun found d₁ h₁ => ?_
  obtain ⟨rfl, hext₁, c₁, hs₁, hsame, hlog₁, hcp₁⟩ := h₁
  refine (hs₁.attains_openAppend hq.log).storage.bind fun log d₂ h₂ => ?_
  obtain ⟨hol, hext₂, hs₂⟩ := h₂
  refine (hs₂.attains_openAppend hq.checkpoint).storage.bind fun checkpoint d₃ h₃ => ?_
  obtain ⟨hoc, hext₃, hs₃⟩ := h₃
  have hne := Destination.checkpointName_ne_logName name
  rw [hlog₁] at hs₂ hs₃
  rw [Function.update_of_ne hne, hcp₁] at hs₃
  have hsame₃ := (hsame.update_log (some (Log.joined bodies))).update_checkpoint
    (some (checkpointAfter (c (Destination.logName name)) (c (Destination.checkpointName name))))
  have hext : d.Extends d₃ := (hext₁.trans hext₂).trans hext₃
  have hlog₃ {c₄ : Contents} (h : c₄ (Destination.logName name) = some (Log.joined bodies)) (file : Option Bytes) :
      Function.update c₄ (Destination.checkpointName name) file (Destination.logName name) = some (Log.joined bodies) :=
    (Function.update_of_ne hne.symm _ _).trans h
  cases stale with
  | false =>
    refine FileAttempt.Attains.pure ⟨rfl, rfl, rfl, rfl, hext, _, hsame₃, rfl, hq, hs₃, ⟨_, rfl, rfl, rfl, hol.mono hext₃, hoc⟩, ?_, ?_⟩
    · exact hlog₃ (Function.update_self _ _ _) _
    · exact Function.update_self _ _ _
  | true =>
    refine (hs₃.attains_appendRecord hq.checkpoint hoc (Function.update_self _ _ _) _ durable).storage.bind fun _ d₄ h₄ => ?_
    obtain ⟨hext₄, hs₄⟩ := h₄
    refine FileAttempt.Attains.pure ⟨rfl, rfl, rfl, rfl, hext.trans hext₄, _, hsame₃.update_checkpoint _, rfl, hq, hs₄,
      ⟨_, rfl, rfl, ?_, hol.mono (hext₃.trans hext₄), hoc.mono hext₄⟩, ?_, ?_⟩
    · exact (length_checkpointLeft_true _ _ _).symm
    · exact hlog₃ (hlog₃ (Function.update_self _ _ _) _) _
    · exact Function.update_self _ _ _

/-- Opening a queue makes it mirror its files, whatever they held. -/
theorem attains_openIn (hs : F.Shows c d) (hq : F.HasQueue name) (hvalid : Destination.fault? name = none)
    {pending : List Message} {taken : Nat} {stale : Bool}
    (hfound : Found (c (Destination.logName name)) (c (Destination.checkpointName name)) bodies pending taken stale)
    (hshort : ((c (Destination.logName name)).getD []).length ≤ Disk.maxFile) (durable : Bool) :
    FileAttempt.Attains faults (openIn name F.path durable) d fun q d' => q.name = name ∧ q.durable = durable ∧
      q.pending = pending ∧ q.taken = taken ∧ d.Extends d' ∧
      ∃ c', SameElsewhere name c c' ∧ q.Mirrors Message.ReadFrom F c' d' bodies := by
  refine (attains_openIn_attached hs hq hvalid hfound durable).mono fun q d' h => ?_
  obtain ⟨hname, hdurable, rfl, rfl, hext, c', hsame, ha⟩ := h
  refine ⟨hname, hdurable, rfl, rfl, hext, c', hsame, ?_⟩
  exact ⟨⟨_, ha, whole_checkpointLeft _ _ _ _, hfound.last_checkpointLeft hshort⟩, hfound.fit,
    Nat.le_trans hfound.length_joined_le hshort, hfound.taken_le, hfound.forall₂_drop⟩

/-! ## A disk with one queue -/

/-- A disk with the files of one queue. -/
def diskOf (log checkpoint : Bytes) : Disk :=
  { Disk.empty "home" with
    nodes := (Disk.empty "home").nodes ++ [(["home", "q"], .file 0), (["home", "q-checkpoint"], .file 1)]
    files := [log, checkpoint] }

/-- The queue on such a disk. -/
def queueOf (pending : List Message) (taken logLength checkpointLength : Nat) : DurableQueue where
  name := "q"
  storage := ""
  durable := false
  pending
  taken
  files := some { log := .file 0, logLength, checkpoint := .file 1, checkpointLength }

theorem runs_openIn_new :
    (openIn "q" "" false).run.Runs (Answers False) (Disk.empty "home") (.ok (queueOf [] 0 0 0)) (diskOf [] []) :=
  FileProgram.Undisturbed.runs_of_eq (by decide +kernel) rfl

/-- The folder of that queue shows no file as long as there is none. -/
theorem shows_empty : (Folder.ofDestinations "" ["home"] (· = "q")).Shows (fun _ => none) (Disk.empty "home") := by
  have hleads : (Disk.empty "home").LeadsTo "" ["home"] := rfl
  refine Folder.shows_none hleads ?_
  rintro n ⟨other, rfl, -, rfl | rfl⟩ <;> decide

theorem hasQueue_q : (Folder.ofDestinations "" ["home"] (· = "q")).HasQueue "q" :=
  Folder.hasQueue_ofDestinations rfl (by decide)

end DurableQueue

end QueueBroker

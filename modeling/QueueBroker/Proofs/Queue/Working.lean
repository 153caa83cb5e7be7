import QueueBroker.Proofs.Queue.Opening

/-!
# Working on an open queue

Putting a message in and taking one out keep an open queue a mirror of its files, whether or not file operations fail, as long
as it stays open: a record that could not be written whole is cut off again. A crash leaves a part of the record it interrupts.
-/

namespace QueueBroker

open FileOp

variable {faults : Prop} {F : Folder} {c : Contents} {d d' : Disk}

namespace DurableQueue

variable {R : Bytes → Message → Prop} {q q' : DurableQueue} {bodies : List Bytes} {m : Message}

/-- Two states of the queue of one destination. -/
structure SameQueue (q q' : DurableQueue) : Prop where
  name : q'.name = q.name
  storage : q'.storage = q.storage
  durable : q'.durable = q.durable

theorem SameQueue.refl (q : DurableQueue) : q.SameQueue q :=
  ⟨rfl, rfl, rfl⟩

theorem logPath_eq (hstorage : q.storage = F.path) : q.logPath = Disk.join F.path (Destination.logName q.name) := by
  rw [logPath, logPathOf, hstorage]

theorem checkpointPath_eq (hstorage : q.storage = F.path) :
    q.checkpointPath = Disk.join F.path (Destination.checkpointName q.name) := by
  rw [checkpointPath, checkpointPathOf, hstorage]

/-! ## Cutting off a torn record -/

/-- A log with a torn record at its end is as before when that is cut off; otherwise the queue is closed. -/
theorem runs_rollbackLog {log checkpoint : Bytes} (ha : q.Attached F c d log checkpoint) {files : QueueFiles}
    (hfiles : q.files = some files) {d₁ : Disk} (hext : d.Extends d₁) {tail : Bytes}
    (hs : F.Shows (Function.update c (Destination.logName q.name) (some (log ++ tail))) d₁)
    (h : Program.Runs (Answers faults) (q.rollbackLog files) d₁ q' d') :
    ∃ f, q' = { q with files := f } ∧ (d.Extends d' ∧ q'.Attached F c d' log checkpoint ∨ f = none) := by
  obtain ⟨hstorage, hq, hshows, ⟨files', hfiles', hlen, hlenc, hol, hoc⟩, hlog, hcp⟩ := ha
  obtain rfl : files' = files := Option.some.inj (hfiles'.symm.trans hfiles)
  rw [rollbackLog, Program.runs_bind_iff, logPath_eq hstorage, hlen] at h
  obtain ⟨r, d₂, hreset, h⟩ := h
  rcases attains_undo hq.log hlog hs _ _ hreset with ⟨file, rfl, ho, hext₂, hs₂⟩ | ⟨-, e, rfl⟩
  · obtain ⟨rfl, rfl⟩ := Program.runs_pure_iff.1 h
    have hext' := hext.trans hext₂
    exact ⟨_, rfl, Or.inl ⟨hext', hstorage, hq, hs₂, ⟨_, rfl, rfl, hlenc, ho, hoc.mono hext'⟩, hlog, hcp⟩⟩
  · obtain ⟨rfl, rfl⟩ := Program.runs_pure_iff.1 h
    exact ⟨none, rfl, Or.inr rfl⟩

theorem runs_rollbackCheckpoint {log checkpoint : Bytes} (ha : q.Attached F c d log checkpoint) {files : QueueFiles}
    (hfiles : q.files = some files) {d₁ : Disk} (hext : d.Extends d₁) {tail : Bytes}
    (hs : F.Shows (Function.update c (Destination.checkpointName q.name) (some (checkpoint ++ tail))) d₁)
    (h : Program.Runs (Answers faults) (q.rollbackCheckpoint files) d₁ q' d') :
    ∃ f, q' = { q with files := f } ∧ (d.Extends d' ∧ q'.Attached F c d' log checkpoint ∨ f = none) := by
  obtain ⟨hstorage, hq, hshows, ⟨files', hfiles', hlen, hlenc, hol, hoc⟩, hlog, hcp⟩ := ha
  obtain rfl : files' = files := Option.some.inj (hfiles'.symm.trans hfiles)
  rw [rollbackCheckpoint, Program.runs_bind_iff, checkpointPath_eq hstorage, hlenc] at h
  obtain ⟨r, d₂, hreset, h⟩ := h
  rcases attains_undo hq.checkpoint hcp hs _ _ hreset with ⟨file, rfl, ho, hext₂, hs₂⟩ | ⟨-, e, rfl⟩
  · obtain ⟨rfl, rfl⟩ := Program.runs_pure_iff.1 h
    have hext' := hext.trans hext₂
    exact ⟨_, rfl, Or.inl ⟨hext', hstorage, hq, hs₂, ⟨_, rfl, hlen, rfl, hol.mono hext', ho⟩, hlog, hcp⟩⟩
  · obtain ⟨rfl, rfl⟩ := Program.runs_pure_iff.1 h
    exact ⟨none, rfl, Or.inr rfl⟩

/-! ## Putting in -/

/-- What putting a message in comes to. -/
inductive Enqueued (R : Bytes → Message → Prop) (faults : Prop) (q : DurableQueue) (m : Message) (F : Folder) (c : Contents)
    (d d' : Disk) (bodies : List Bytes) : Except BrokerError Unit → DurableQueue → Prop where
  | stored {q' : DurableQueue} {c' : Contents} : q'.pending = q.pending ++ [m] → q'.taken = q.taken → d.Extends d' →
      SameElsewhere q.name c c' → q'.Mirrors R F c' d' (bodies ++ [m.bytes]) → Enqueued R faults q m F c d d' bodies (.ok ()) q'
  | refused : Log.maxBody < m.bytes.length → d' = d →
      Enqueued R faults q m F c d d' bodies (.error (.storage (.oversized m.bytes.length))) q
  | undone {q' : DurableQueue} {e : BrokerError} : faults → q'.pending = q.pending → q'.taken = q.taken → d.Extends d' →
      q'.Mirrors R F c d' bodies → Enqueued R faults q m F c d d' bodies (.error e) q'
  | closed {q' : DurableQueue} {e : BrokerError} : faults → q'.files = none → Enqueued R faults q m F c d d' bodies (.error e) q'

theorem record_eq (h : m.bytes.length ≤ Log.maxBody) : Log.record m = .ok (Log.recordOf m.bytes) := by
  rw [Log.record]
  exact if_neg (Nat.not_lt_of_le h)

theorem recordOf_ne_nil (body : Bytes) : Log.recordOf body ≠ [] := by
  apply List.ne_nil_of_length_pos
  rw [Log.length_recordOf, Log.prefixLength]
  omega

/-- A queue that mirrors its files still does after the record of one more message was written. -/
theorem Mirrors.store (hm : q.Mirrors R F c d bodies) (hR : R m.bytes m) (hbody : m.bytes.length ≤ Log.maxBody)
    {files : QueueFiles} (hfiles : q.files = some files) (hext : d.Extends d')
    (hs : F.Shows (Function.update c (Destination.logName q.name)
      (some (Log.joined bodies ++ Log.recordOf m.bytes))) d')
    (hmax : (Log.joined bodies).length + (Log.recordOf m.bytes).length ≤ Disk.maxFile) :
    Mirrors R { q with
      files := some { files with logLength := files.logLength + (Log.recordOf m.bytes).length }, pending := q.pending ++ [m] }
      F (Function.update c (Destination.logName q.name) (some (Log.joined bodies ++ Log.recordOf m.bytes))) d'
      (bodies ++ [m.bytes]) := by
  obtain ⟨⟨checkpoint, ⟨hstorage, hq, -, ⟨files', hfiles', hlen, hlenc, hol, hoc⟩, hlog, hcp⟩, hwhole, hlast⟩, hfit, hshort,
    htaken, hpending⟩ := hm
  obtain rfl : files' = files := Option.some.inj (hfiles'.symm.trans hfiles)
  have hjoined : Log.joined (bodies ++ [m.bytes]) = Log.joined bodies ++ Log.recordOf m.bytes := by
    rw [Log.joined_append, Log.joined_singleton]
  refine ⟨⟨checkpoint, ⟨hstorage, hq, hs, ⟨_, rfl, ?_, hlenc, hol.mono hext, hoc.mono hext⟩, ?_, ?_⟩, hwhole, hlast⟩, ?_, ?_,
    ?_, ?_⟩
  · rw [hjoined, List.length_append, hlen]
  · rw [hjoined]
    exact Function.update_self _ _ _
  · rw [Function.update_of_ne (Destination.checkpointName_ne_logName q.name)]
    exact hcp
  · intro body hb
    rcases List.mem_append.1 hb with hb | hb
    · exact hfit body hb
    · exact List.mem_singleton.1 hb ▸ hbody
  · rw [hjoined, List.length_append]
    exact hmax
  · rw [List.length_append]
    exact Nat.le_add_right_of_le htaken
  · rw [List.drop_append_of_le_length htaken]
    exact List.rel_append hpending (List.Forall₂.cons hR List.Forall₂.nil)

/-- Another disk and other handles for the files leave a mirror what it is, if the files are still attached. -/
theorem Mirrors.reattach (hm : q.Mirrors R F c d bodies) {checkpoint : Bytes} (hwhole : Checkpoint.Whole checkpoint)
    (hlast : Checkpoint.last checkpoint = q.taken) {f : Option QueueFiles}
    (ha : Attached { q with files := f } F c d' (Log.joined bodies) checkpoint) :
    Mirrors R { q with files := f } F c d' bodies :=
  ⟨⟨checkpoint, ha, hwhole, hlast⟩, hm.fit, hm.short, hm.taken_le, hm.pending⟩

/-- What a run of putting a message in comes to. -/
theorem runs_enqueue (hm : q.Mirrors R F c d bodies) (hR : R m.bytes m) {r : Except BrokerError Unit}
    (h : Program.Runs (Answers faults) (q.enqueue m) d (r, q') d') :
    q.SameQueue q' ∧ Enqueued R faults q m F c d d' bodies r q' := by
  obtain ⟨checkpoint, ha, hwhole, hlast⟩ := hm.attached
  obtain ⟨files, hfiles, hlen, hlenc, hol, hoc⟩ := ha.opened
  rw [enqueue] at h
  by_cases hbody : m.bytes.length ≤ Log.maxBody
  · rw [record_eq hbody] at h
    simp only [hfiles] at h
    obtain ⟨r₁, d₁, happend, h⟩ := Program.runs_bind_iff.1 h
    rcases ha.shows.runs_appendRecord ha.folder.log hol ha.log _ happend with ⟨rfl, hmax, hext, hs⟩ | ⟨hf, ⟨e, rfl⟩, hext, k, hs⟩
    · obtain ⟨heq, rfl⟩ := Program.runs_pure_iff.1 h
      obtain ⟨rfl, rfl⟩ := Prod.mk.inj heq
      have hstore := hm.store hR hbody hfiles hext hs (hmax (recordOf_ne_nil _))
      exact ⟨⟨rfl, rfl, rfl⟩, .stored rfl rfl hext ((SameElsewhere.refl _ c).update_log _) hstore⟩
    · obtain ⟨q₁, d₂, hrollback, h⟩ := Program.runs_bind_iff.1 h
      obtain ⟨heq, rfl⟩ := Program.runs_pure_iff.1 h
      obtain ⟨rfl, rfl⟩ := Prod.mk.inj heq
      obtain ⟨f, rfl, ⟨hext', ha'⟩ | rfl⟩ := runs_rollbackLog ha hfiles hext hs hrollback
      · exact ⟨⟨rfl, rfl, rfl⟩, .undone hf rfl rfl hext' (hm.reattach hwhole hlast ha')⟩
      · exact ⟨⟨rfl, rfl, rfl⟩, .closed hf rfl⟩
  · rw [Log.record] at h
    dsimp only at h
    rw [if_pos (Nat.lt_of_not_le hbody)] at h
    obtain ⟨heq, rfl⟩ := Program.runs_pure_iff.1 h
    obtain ⟨rfl, rfl⟩ := Prod.mk.inj heq
    exact ⟨SameQueue.refl _, .refused (Nat.lt_of_not_le hbody) rfl⟩

/-! ## Taking out -/

/-- What taking a message out comes to. -/
inductive Dequeued (R : Bytes → Message → Prop) (faults : Prop) (q : DurableQueue) (F : Folder) (c : Contents)
    (d d' : Disk) (bodies : List Bytes) : Except BrokerError (Option Message) → DurableQueue → Prop where
  | none : q.pending = [] → d' = d → Dequeued R faults q F c d d' bodies (.ok none) q
  | taken {q' : DurableQueue} {c' : Contents} {m : Message} : q.pending = m :: q'.pending → q'.taken = q.taken + 1 →
      d.Extends d' → SameElsewhere q.name c c' → q'.Mirrors R F c' d' bodies → Dequeued R faults q F c d d' bodies (.ok (some m)) q'
  | undone {q' : DurableQueue} {e : BrokerError} : faults → q'.pending = q.pending → q'.taken = q.taken → d.Extends d' →
      q'.Mirrors R F c d' bodies → Dequeued R faults q F c d d' bodies (.error e) q'
  | closed {q' : DurableQueue} {e : BrokerError} : faults → q'.files = none → Dequeued R faults q F c d d' bodies (.error e) q'

/-- A queue that mirrors its files still does after the checkpoint of one more message was written. -/
theorem Mirrors.take (hm : q.Mirrors R F c d bodies) {pending : List Message} (hpending : q.pending = m :: pending)
    {checkpoint : Bytes} (ha : q.Attached F c d (Log.joined bodies) checkpoint) (hwhole : Checkpoint.Whole checkpoint)
    {files : QueueFiles} (hfiles : q.files = some files) (hext : d.Extends d')
    (hs : F.Shows (Function.update c (Destination.checkpointName q.name)
      (some (checkpoint ++ Checkpoint.record (q.taken + 1)))) d') :
    Mirrors R { q with
      files := some { files with checkpointLength := files.checkpointLength + Checkpoint.recordLength },
      pending, taken := q.taken + 1 }
      F (Function.update c (Destination.checkpointName q.name) (some (checkpoint ++ Checkpoint.record (q.taken + 1)))) d'
      bodies := by
  obtain ⟨hstorage, hq, -, ⟨files', hfiles', hlen, hlenc, hol, hoc⟩, hlog, hcp⟩ := ha
  obtain rfl : files' = files := Option.some.inj (hfiles'.symm.trans hfiles)
  have hlt := hm.taken_lt
  have hdrop := hm.pending
  rw [hpending] at hdrop
  obtain ⟨body, later, hbody, hlater, hcons⟩ := List.forall₂_cons_right_iff.1 hdrop
  have hne : q.taken < bodies.length := hm.taken_lt_length (hpending ▸ List.cons_ne_nil _ _)
  refine ⟨⟨checkpoint ++ Checkpoint.record (q.taken + 1), ⟨hstorage, hq, hs, ⟨_, rfl, hlen, ?_, hol.mono hext, hoc.mono hext⟩,
    ?_, Function.update_self _ _ _⟩, hwhole.append_record _, hwhole.last_append_record (by omega)⟩, hm.fit, hm.short, hne, ?_⟩
  · rw [List.length_append, Checkpoint.length_record, hlenc]
  · rw [Function.update_of_ne (Destination.checkpointName_ne_logName q.name).symm]
    exact hlog
  · have htail := congrArg List.tail hcons
    rw [List.tail_drop, List.tail_cons] at htail
    rw [htail]
    exact hlater

/-- What a run of taking a message out comes to. -/
theorem runs_dequeue (hm : q.Mirrors R F c d bodies) {r : Except BrokerError (Option Message)}
    (h : Program.Runs (Answers faults) q.dequeue d (r, q') d') :
    q.SameQueue q' ∧ Dequeued R faults q F c d d' bodies r q' := by
  obtain ⟨checkpoint, ha, hwhole, hlast⟩ := hm.attached
  obtain ⟨files, hfiles, hlen, hlenc, hol, hoc⟩ := ha.opened
  rw [dequeue] at h
  simp only [hfiles] at h
  cases hpending : q.pending with
  | nil =>
    simp only [hpending] at h
    obtain ⟨heq, rfl⟩ := Program.runs_pure_iff.1 h
    obtain ⟨rfl, rfl⟩ := Prod.mk.inj heq
    exact ⟨SameQueue.refl _, .none hpending rfl⟩
  | cons m pending =>
    simp only [hpending] at h
    obtain ⟨r₁, d₁, happend, h⟩ := Program.runs_bind_iff.1 h
    rcases ha.shows.runs_appendRecord ha.folder.checkpoint hoc ha.checkpoint _ happend with
      ⟨rfl, -, hext, hs⟩ | ⟨hf, ⟨e, rfl⟩, hext, k, hs⟩
    · obtain ⟨heq, rfl⟩ := Program.runs_pure_iff.1 h
      obtain ⟨rfl, rfl⟩ := Prod.mk.inj heq
      have htake := hm.take hpending ha hwhole hfiles hext hs
      exact ⟨⟨rfl, rfl, rfl⟩, .taken hpending rfl hext ((SameElsewhere.refl _ c).update_checkpoint _) htake⟩
    · obtain ⟨q₁, d₂, hrollback, h⟩ := Program.runs_bind_iff.1 h
      obtain ⟨heq, rfl⟩ := Program.runs_pure_iff.1 h
      obtain ⟨rfl, rfl⟩ := Prod.mk.inj heq
      obtain ⟨f, rfl, ⟨hext', ha'⟩ | rfl⟩ := runs_rollbackCheckpoint ha hfiles hext hs hrollback
      · exact ⟨⟨rfl, rfl, rfl⟩, .undone hf rfl rfl hext' (hm.reattach hwhole hlast ha')⟩
      · exact ⟨⟨rfl, rfl, rfl⟩, .closed hf rfl⟩

/-! ## Closing -/

theorem runs_syncFiles {log checkpoint : Handle} {n k : String} (hol : F.Opens d n log) (hoc : F.Opens d k checkpoint)
    {path path' : String} {r : Except BrokerError Unit}
    (h : Program.Runs (Answers faults) (ExceptT.run do
      (FileAttempt.sync log).storage .sync path
      (FileAttempt.sync checkpoint).storage .sync path') d r d') :
    d' = d ∧ (r = .ok () ∨ faults ∧ ∃ e, r = .error e) := by
  rcases FileAttempt.runs_bind_iff.1 h with ⟨u, d₁, h1, h2⟩ | ⟨e, h1, rfl⟩
  · obtain ⟨r₁, h1, -⟩ := FileAttempt.runs_storage_iff.1 h1
    obtain ⟨rfl, -⟩ := Folder.Shows.runs_sync hol h1
    obtain ⟨r₂, hsync, rfl⟩ := FileAttempt.runs_storage_iff.1 h2
    obtain ⟨rfl, rfl | ⟨hf, e, rfl⟩⟩ := Folder.Shows.runs_sync hoc hsync
    · exact ⟨rfl, Or.inl rfl⟩
    · exact ⟨rfl, Or.inr ⟨hf, _, rfl⟩⟩
  · obtain ⟨r₁, h1, heq⟩ := FileAttempt.runs_storage_iff.1 h1
    obtain ⟨rfl, rfl | ⟨hf, -⟩⟩ := Folder.Shows.runs_sync hol h1
    · cases heq
    · exact ⟨rfl, Or.inr ⟨hf, e, rfl⟩⟩

/-- Closing a queue leaves its files as they are, whether or not they can be made to stay. -/
theorem runs_close (hm : q.Mirrors R F c d bodies) {r : Except BrokerError Unit}
    (h : Program.Runs (Answers faults) q.close d (r, q') d') :
    q' = { q with files := none } ∧ d' = d ∧ (¬faults → r = .ok ()) := by
  obtain ⟨checkpoint, ha, -, -⟩ := hm.attached
  obtain ⟨files, hfiles, -, -, hol, hoc⟩ := ha.opened
  rw [close] at h
  simp only [hfiles] at h
  split at h
  · obtain ⟨result, d₁, hresult, h⟩ := Program.runs_bind_iff.1 h
    obtain ⟨heq, rfl⟩ := Program.runs_pure_iff.1 h
    obtain ⟨rfl, rfl⟩ := Prod.mk.inj heq
    obtain ⟨hd, hr⟩ := runs_syncFiles hol hoc hresult
    exact ⟨rfl, hd, fun hf => hr.resolve_right fun herror => hf herror.1⟩
  · obtain ⟨result, d₁, hresult, h⟩ := Program.runs_bind_iff.1 h
    obtain ⟨rfl, rfl⟩ := Program.runs_pure_iff.1 hresult
    obtain ⟨heq, rfl⟩ := Program.runs_pure_iff.1 h
    obtain ⟨rfl, rfl⟩ := Prod.mk.inj heq
    exact ⟨rfl, rfl, fun _ => rfl⟩

/-! ## Closed queues -/

theorem enqueue_of_closed (h : q.files = none) (m : Message) : ∃ e, q.enqueue m = pure (.error e, q) := by
  rw [enqueue]
  cases hrecord : Log.record m with
  | error e => exact ⟨e, rfl⟩
  | ok record =>
    simp only [h]
    exact ⟨_, rfl⟩

theorem dequeue_of_closed (h : q.files = none) : ∃ e, q.dequeue = pure (.error e, q) := by
  rw [dequeue]
  simp only [h]
  exact ⟨_, rfl⟩

theorem close_of_closed (h : q.files = none) : ∃ e, q.close = pure (.error e, q) := by
  rw [close]
  simp only [h]
  exact ⟨_, rfl⟩

theorem isClosed_eq_true_iff : q.isClosed = true ↔ q.files = none := by
  rw [isClosed, Option.isNone_iff_eq_none]

theorem Mirrors.isClosed_eq (hm : q.Mirrors R F c d bodies) : q.isClosed = false := by
  obtain ⟨checkpoint, ha, -, -⟩ := hm.attached
  obtain ⟨files, hfiles, -⟩ := ha.opened
  rw [isClosed, hfiles]
  rfl

/-- A queue that is open was open before. -/
theorem isClosed_of_enqueue {r : Except BrokerError Unit} (hr : (q.enqueue m).Runs (Answers faults) d (r, q') d')
    (h : q'.isClosed = false) : q.isClosed = false := by
  cases hclosed : q.isClosed with
  | false => rfl
  | true =>
    obtain ⟨e, heq⟩ := enqueue_of_closed (isClosed_eq_true_iff.1 hclosed) m
    rw [heq] at hr
    obtain ⟨heq, -⟩ := Program.runs_pure_iff.1 hr
    cases heq
    rw [hclosed] at h
    cases h

theorem isClosed_of_dequeue {r : Except BrokerError (Option Message)} (hr : q.dequeue.Runs (Answers faults) d (r, q') d')
    (h : q'.isClosed = false) : q.isClosed = false := by
  cases hclosed : q.isClosed with
  | false => rfl
  | true =>
    obtain ⟨e, heq⟩ := dequeue_of_closed (isClosed_eq_true_iff.1 hclosed)
    rw [heq] at hr
    obtain ⟨heq, -⟩ := Program.runs_pure_iff.1 hr
    cases heq
    rw [hclosed] at h
    cases h

/-! ## As long as a queue is open -/

/-- Whether a queue, unless it is closed, is one of a valid destination and mirrors its files, whatever these hold. -/
def Mirrored (R : Bytes → Message → Prop) (F : Folder) (q : DurableQueue) (d : Disk) : Prop :=
  q.isClosed = false → Destination.fault? q.name = none ∧ ∃ c bodies, q.Mirrors R F c d bodies

theorem Mirrored.mono {S : Bytes → Message → Prop} (h : q.Mirrored R F d) (hRS : ∀ body m, R body m → S body m) :
    q.Mirrored S F d := by
  intro hopen
  obtain ⟨hvalid, c, bodies, hm⟩ := h hopen
  exact ⟨hvalid, c, bodies, hm.mono hRS⟩

theorem fault?_of_runs_openIn {name storage : String} {durable : Bool}
    (h : (openIn name storage durable).run.Runs (Answers faults) d (.ok q) d') : Destination.fault? name = none := by
  cases hfault : Destination.fault? name with
  | none => rfl
  | some fault =>
    rw [openIn, Destination.validate, hfault] at h
    obtain ⟨heq, -⟩ := FileAttempt.runs_throw_iff.1 h
    cases heq

/-- A queue that was opened mirrors its files, whatever they held. -/
theorem mirrored_of_runs_openIn {name : String} (hs : F.Shows c d) (hq : F.HasQueue name)
    (hshort : ((c (Destination.logName name)).getD []).length ≤ Disk.maxFile) {durable : Bool}
    (hr : (openIn name F.path durable).run.Runs (Answers faults) d (.ok q) d') : q.Mirrored Message.ReadFrom F d' := by
  have hvalid := fault?_of_runs_openIn hr
  obtain ⟨bodies, pending, taken, stale, hfound⟩ :=
    exists_found (c (Destination.logName name)) (c (Destination.checkpointName name))
  rcases attains_openIn hs hq hvalid hfound hshort durable _ _ hr with ⟨_, heq, hname, -, -, -, -, c', -, hm⟩ | ⟨-, e, heq⟩
  · cases heq
    exact fun _ => ⟨hname ▸ hvalid, c', bodies, hm⟩
  · cases heq

/-- Putting a message in keeps it so, with or without success. -/
theorem Mirrored.enqueue (h : q.Mirrored R F d) (hR : R m.bytes m) {r : Except BrokerError Unit}
    (hr : (q.enqueue m).Runs (Answers faults) d (r, q') d') : q'.Mirrored R F d' := by
  intro hopen
  obtain ⟨hvalid, c, bodies, hm⟩ := h (isClosed_of_enqueue hr hopen)
  obtain ⟨hsame, hend⟩ := runs_enqueue hm hR hr
  refine ⟨hsame.name ▸ hvalid, ?_⟩
  cases hend with
  | stored _ _ _ _ hm' => exact ⟨_, _, hm'⟩
  | refused _ hd => exact ⟨c, bodies, hd ▸ hm⟩
  | undone _ _ _ _ hm' => exact ⟨c, bodies, hm'⟩
  | closed _ hfiles =>
    rw [isClosed_eq_true_iff.2 hfiles] at hopen
    cases hopen

/-- Taking a message out keeps it so. -/
theorem Mirrored.dequeue (h : q.Mirrored R F d) {r : Except BrokerError (Option Message)}
    (hr : q.dequeue.Runs (Answers faults) d (r, q') d') : q'.Mirrored R F d' := by
  intro hopen
  obtain ⟨hvalid, c, bodies, hm⟩ := h (isClosed_of_dequeue hr hopen)
  obtain ⟨hsame, hend⟩ := runs_dequeue hm hr
  refine ⟨hsame.name ▸ hvalid, ?_⟩
  cases hend with
  | none _ hd => exact ⟨c, bodies, hd ▸ hm⟩
  | taken _ _ _ _ hm' => exact ⟨_, _, hm'⟩
  | undone _ _ _ _ hm' => exact ⟨c, bodies, hm'⟩
  | closed _ hfiles =>
    rw [isClosed_eq_true_iff.2 hfiles] at hopen
    cases hopen

/-! ## When nothing fails -/

/-- A message that fits in a record is put in if no file operation fails. -/
theorem Mirrors.stores (hm : q.Mirrors R F c d bodies) (hR : R m.bytes m) (hbody : m.bytes.length ≤ Log.maxBody)
    {r : Except BrokerError Unit} (hr : (q.enqueue m).Runs (Answers False) d (r, q') d') :
    r = .ok () ∧ q'.name = q.name ∧ q'.pending = q.pending ++ [m] ∧
      ∃ c', d.Extends d' ∧ SameElsewhere q.name c c' ∧ q'.Mirrors R F c' d' (bodies ++ [m.bytes]) := by
  obtain ⟨hsame, hend⟩ := runs_enqueue hm hR hr
  cases hend with
  | @stored _ c' hpending _ hext helse hm' => exact ⟨rfl, hsame.name, hpending, c', hext, helse, hm'⟩
  | refused hlong => exact absurd hbody (Nat.not_le_of_lt hlong)
  | undone hf => exact hf.elim
  | closed hf => exact hf.elim

/-- The first message is taken, if there is one and no file operation fails. -/
theorem Mirrors.delivers (hm : q.Mirrors R F c d bodies) {r : Except BrokerError (Option Message)}
    (hr : q.dequeue.Runs (Answers False) d (r, q') d') :
    r = .ok q.pending.head? ∧ q'.name = q.name ∧ q'.pending = q.pending.tail ∧
      ∃ c', d.Extends d' ∧ SameElsewhere q.name c c' ∧ q'.Mirrors R F c' d' bodies := by
  obtain ⟨hsame, hend⟩ := runs_dequeue hm hr
  cases hend with
  | none hpending hd =>
    subst hd
    rw [hpending]
    exact ⟨rfl, rfl, rfl, c, Disk.Extends.refl _, SameElsewhere.refl _ _, hm⟩
  | @taken _ c' m hpending _ hext helse hm' =>
    rw [hpending]
    exact ⟨rfl, hsame.name, rfl, c', hext, helse, hm'⟩
  | undone hf => exact hf.elim
  | closed hf => exact hf.elim

/-- A message that is put in with success is pending after all others. -/
theorem Mirrors.accepted (hm : q.Mirrors R F c d bodies) (hR : R m.bytes m)
    (hr : (q.enqueue m).Runs (Answers faults) d (.ok (), q') d') : q'.isClosed = false ∧ q'.pending = q.pending ++ [m] := by
  obtain ⟨-, hend⟩ := runs_enqueue hm hR hr
  cases hend with
  | stored hpending _ _ _ hm' => exact ⟨hm'.isClosed_eq, hpending⟩

end DurableQueue

end QueueBroker

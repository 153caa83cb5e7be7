import Mathlib.Logic.Relation
import QueueBroker.Proofs.Queue.Stopping

/-!
# The life of a queue through crashes

A queue is opened, worked on, closed, and lost with its process at any moment, also in the middle of an operation, and opened
again. `Event` says what may happen to it next; a `Life` also keeps which messages were stored and what came of those taken. At
every point of every life the files tell just that.
-/

namespace QueueBroker

open FileOp

variable {faults : Prop} {F : Folder} {c : Contents} {d d' : Disk} {name : String}

namespace DurableQueue

variable {q q' : DurableQueue} {m : Message}

/-! ## Lives -/

/-- What came of taking a message whose checkpoint was recorded: it was returned, or the taking was interrupted before that. -/
inductive Take where
  | returned (m : Message)
  | lost (m : Message)

/-- The message that was taken. -/
def Take.message : Take → Message
  | returned m => m
  | lost m => m

/-- A point in the life of a queue: the disk, the queue itself if the process has it, the messages whose records were written,
and what came of those taken, all in order. -/
structure Life where
  disk : Disk
  queue : Option DurableQueue
  stored : List Message
  takes : List Take

/-- How work on a queue is interrupted: by a crash, after which there is no queue, or by a failure that cannot be undone, after
which it is closed. -/
inductive Interrupted (faults : Prop) {α : Type} (q : DurableQueue) (p : FileProgram (Except BrokerError α × DurableQueue))
    (d : Disk) : Option DurableQueue → Disk → Prop where
  | crashed {d' : Disk} : p.Cut (Answers faults) FileOp.Torn d d' → Interrupted faults q p d none d'
  | closed {e : BrokerError} {q' : DurableQueue} {d' : Disk} : p.Runs (Answers faults) d (.error e, q') d' →
      q.isClosed = false → q'.isClosed = true → Interrupted faults q p d (some q') d'

/-- What may happen to a queue. A message counts as stored when its record is whole, and as taken when the checkpoint is, whether
or not somebody was told. What is written of a message is read back as the message. -/
inductive Event (faults : Prop) (name storage : String) (life : Life) : Life → Prop where
  | opened {durable : Bool} {q : DurableQueue} {d : Disk} : life.queue = none →
      (openIn name storage durable).run.Runs (Answers faults) life.disk (.ok q) d →
      Event faults name storage life { life with disk := d, queue := some q }
  | notOpened {durable : Bool} {e : BrokerError} {d : Disk} : life.queue = none →
      (openIn name storage durable).run.Runs (Answers faults) life.disk (.error e) d →
      Event faults name storage life { life with disk := d }
  | openingCrashed {durable : Bool} {d : Disk} : life.queue = none →
      (openIn name storage durable).run.Cut (Answers faults) FileOp.Torn life.disk d →
      Event faults name storage life { life with disk := d }
  | stored {m : Message} {q q' : DurableQueue} {d : Disk} : Message.ReadFrom m.bytes m → life.queue = some q →
      (q.enqueue m).Runs (Answers faults) life.disk (.ok (), q') d →
      Event faults name storage life { life with disk := d, queue := some q', stored := life.stored ++ [m] }
  | notStored {m : Message} {q q' : DurableQueue} {e : BrokerError} {d : Disk} : Message.ReadFrom m.bytes m →
      life.queue = some q → (q.enqueue m).Runs (Answers faults) life.disk (.error e, q') d → q'.isClosed = q.isClosed →
      Event faults name storage life { life with disk := d, queue := some q' }
  | storedUntold {m : Message} {q : DurableQueue} {left : Option DurableQueue} {d : Disk} : Message.ReadFrom m.bytes m →
      life.queue = some q → Interrupted faults q (q.enqueue m) life.disk left d →
      life.disk.GrewBy d q.logPath (Log.recordOf m.bytes) →
      Event faults name storage life { life with disk := d, queue := left, stored := life.stored ++ [m] }
  | notStoredUntold {m : Message} {q : DurableQueue} {left : Option DurableQueue} {d : Disk} : Message.ReadFrom m.bytes m →
      life.queue = some q → Interrupted faults q (q.enqueue m) life.disk left d →
      ¬life.disk.GrewBy d q.logPath (Log.recordOf m.bytes) →
      Event faults name storage life { life with disk := d, queue := left }
  | taken {m : Message} {q q' : DurableQueue} {d : Disk} : life.queue = some q →
      q.dequeue.Runs (Answers faults) life.disk (.ok (some m), q') d →
      Event faults name storage life { life with disk := d, queue := some q', takes := life.takes ++ [.returned m] }
  | notTaken {q q' : DurableQueue} {r : Except BrokerError (Option Message)} {d : Disk} : life.queue = some q →
      q.dequeue.Runs (Answers faults) life.disk (r, q') d → (∀ m, r ≠ .ok (some m)) → q'.isClosed = q.isClosed →
      Event faults name storage life { life with disk := d, queue := some q' }
  | takenUntold {q : DurableQueue} {left : Option DurableQueue} {d : Disk} : life.queue = some q →
      Interrupted faults q q.dequeue life.disk left d →
      life.disk.GrewBy d q.checkpointPath (Checkpoint.record (q.taken + 1)) →
      Event faults name storage life
        { life with disk := d, queue := left, takes := life.takes ++ q.peek.toList.map .lost }
  | notTakenUntold {q : DurableQueue} {left : Option DurableQueue} {d : Disk} : life.queue = some q →
      Interrupted faults q q.dequeue life.disk left d →
      ¬life.disk.GrewBy d q.checkpointPath (Checkpoint.record (q.taken + 1)) →
      Event faults name storage life { life with disk := d, queue := left }
  | closed {q q' : DurableQueue} {r : Except BrokerError Unit} {d : Disk} : life.queue = some q →
      q.close.Runs (Answers faults) life.disk (r, q') d →
      Event faults name storage life { life with disk := d, queue := some q' }
  | closingCrashed {q : DurableQueue} {d : Disk} : life.queue = some q →
      q.close.Cut (Answers faults) FileOp.Torn life.disk d →
      Event faults name storage life { life with disk := d, queue := none }
  | dropped {q : DurableQueue} : life.queue = some q → Event faults name storage life { life with queue := none }

/-- Any number of events. -/
abbrev Lives (faults : Prop) (name storage : String) : Life → Life → Prop :=
  Relation.ReflTransGen (Event faults name storage)

/-! ## What holds throughout -/

/-- A queue of a process, and what it holds if it is open. -/
structure Follows (F : Folder) (name : String) (life : Life) (q : DurableQueue) : Prop where
  name : q.name = name
  storage : q.storage = F.path
  working : q.isClosed = false → q.taken = life.takes.length ∧
    ∃ c, q.Mirrors Message.ReadFrom F c life.disk (life.stored.map Message.bytes)

/-- The files, and the queue if there is one, tell what was stored and taken, and it was taken in order. -/
structure Tied (F : Folder) (name : String) (life : Life) : Prop where
  read : ∀ m ∈ life.stored, Message.ReadFrom m.bytes m
  accounted : life.takes.map Take.message = life.stored.take life.takes.length
  rests : AtRest F name (life.stored.map Message.bytes) life.takes.length life.disk
  queue : ∀ q, life.queue = some q → Follows F name life q

variable {life later : Life} {storage : String}

theorem Tied.length_le (h : Tied F name life) : life.takes.length ≤ life.stored.length := by
  obtain ⟨c, hrest⟩ := h.rests
  have hle := hrest.taken_le
  rwa [List.length_map] at hle

/-- The messages that were stored and not taken are read from their records. -/
theorem Tied.forall₂_drop (h : Tied F name life) :
    List.Forall₂ Message.ReadFrom ((life.stored.map Message.bytes).drop life.takes.length)
      (life.stored.drop life.takes.length) := by
  rw [← List.map_drop]
  exact List.forall₂_map_left_iff.2 (List.forall₂_same.2 fun m hm => h.read m (List.mem_of_mem_drop hm))

/-- An open queue holds the messages that were stored and not taken. -/
theorem Tied.pending_eq (h : Tied F name life) (hqueue : life.queue = some q) (hopen : q.isClosed = false) :
    q.pending = life.stored.drop life.takes.length := by
  obtain ⟨htaken, c, hm⟩ := (h.queue q hqueue).working hopen
  have hpending := hm.pending
  rw [htaken] at hpending
  refine List.right_unique_forall₂' ?_ hpending h.forall₂_drop
  intro body m m' hm hm'
  exact Except.ok.inj (hm.symm.trans hm')

/-- A life with an open queue that mirrors what was stored and taken. -/
theorem Tied.of_mirrors (hread : ∀ m ∈ life.stored, Message.ReadFrom m.bytes m)
    (haccounted : life.takes.map Take.message = life.stored.take life.takes.length) (hqueue : life.queue = some q)
    (hname : q.name = name) (htaken : q.taken = life.takes.length)
    (hm : q.Mirrors Message.ReadFrom F c life.disk (life.stored.map Message.bytes)) : Tied F name life := by
  have hrest := hm.rests
  rw [hname, htaken] at hrest
  obtain ⟨checkpoint, ha, -, -⟩ := hm.attached
  refine ⟨hread, haccounted, ⟨c, hrest⟩, fun q' hq' => ?_⟩
  obtain rfl : q = q' := Option.some.inj (hqueue.symm.trans hq')
  exact ⟨hname, ha.storage, fun _ => ⟨htaken, c, hm⟩⟩

/-- A life whose queue, if there is one, is closed. -/
theorem Tied.of_rests (hread : ∀ m ∈ life.stored, Message.ReadFrom m.bytes m)
    (haccounted : life.takes.map Take.message = life.stored.take life.takes.length)
    (hrest : AtRest F name (life.stored.map Message.bytes) life.takes.length life.disk)
    (hqueue : ∀ q, life.queue = some q → q.name = name ∧ q.storage = F.path ∧ q.isClosed = true) : Tied F name life := by
  refine ⟨hread, haccounted, hrest, fun q hq => ?_⟩
  obtain ⟨hname, hstorage, hclosed⟩ := hqueue q hq
  exact ⟨hname, hstorage, fun hopen => absurd hclosed (by rw [hopen]; decide)⟩

/-! ## Interruptions -/

theorem Interrupted.cut {α : Type} {p : FileProgram (Except BrokerError α × DurableQueue)} {left : Option DurableQueue}
    (h : Interrupted faults q p d left d') : p.Cut (Answers faults) FileOp.Torn d d' := by
  cases h with
  | crashed hcut => exact hcut
  | closed hrun => exact hrun.cut

/-- The queue that an interruption leaves is closed. -/
theorem Interrupted.left_closed {α : Type} {p : FileProgram (Except BrokerError α × DurableQueue)}
    {left : Option DurableQueue} (h : Interrupted faults q p d left d')
    (hsame : ∀ r q' d', p.Runs (Answers faults) d (r, q') d' → q.isClosed = false → q.SameQueue q') :
    ∀ q', left = some q' → q'.name = q.name ∧ q'.storage = q.storage ∧ q'.isClosed = true := by
  intro q' hq'
  cases h with
  | crashed hcut => cases hq'
  | closed hrun hopen hclosed =>
    cases hq'
    have := hsame _ _ _ hrun hopen
    exact ⟨this.name, this.storage, hclosed⟩

/-- Where nothing was written, no file grew. -/
theorem not_grown {path : String} {bytes : Bytes} (hne : bytes ≠ []) {grown same : Prop} (hd : d' = d) (h : same) :
    (d.GrewBy d' path bytes → grown) ∧ (¬d.GrewBy d' path bytes → same) := by
  subst hd
  exact ⟨fun hgrew => absurd hgrew (not_grewBy_self _ _ hne), fun _ => h⟩

/-- Wherever putting a message in is stopped, the files are at rest, with the message if its record was written. -/
theorem Tied.cut_enqueue (h : Tied F name life) (hqueue : life.queue = some q)
    (hcut : (q.enqueue m).Cut (Answers faults) FileOp.Torn life.disk d) :
    (life.disk.GrewBy d q.logPath (Log.recordOf m.bytes) →
        AtRest F name ((life.stored ++ [m]).map Message.bytes) life.takes.length d) ∧
      (¬life.disk.GrewBy d q.logPath (Log.recordOf m.bytes) →
        AtRest F name (life.stored.map Message.bytes) life.takes.length d) := by
  have hq := h.queue q hqueue
  cases hclosed : q.isClosed with
  | true =>
    obtain ⟨e, heq⟩ := enqueue_of_closed (isClosed_eq_true_iff.1 hclosed) m
    rw [heq] at hcut
    have hd := Program.Cut.of_pure hcut
    exact not_grown (recordOf_ne_nil _) hd (hd ▸ h.rests)
  | false =>
    obtain ⟨htaken, c, hm⟩ := hq.working hclosed
    rcases torn_of_cut_enqueue hm hcut with ⟨hbody, ht⟩ | hd
    · have := rests_of_torn_log hm hbody ht
      rw [hq.name, htaken] at this
      rw [List.map_append, List.map_singleton]
      exact this
    · exact not_grown (recordOf_ne_nil _) hd (hd ▸ h.rests)

theorem checkpointRecord_ne_nil (taken : Nat) : Checkpoint.record taken ≠ [] := by
  apply List.ne_nil_of_length_pos
  rw [Checkpoint.length_record, Checkpoint.recordLength]
  omega

/-- Wherever taking a message out is stopped, the files are at rest, with one more message taken if the checkpoint was written. -/
theorem Tied.cut_dequeue (h : Tied F name life) (hqueue : life.queue = some q)
    (hcut : q.dequeue.Cut (Answers faults) FileOp.Torn life.disk d) :
    (life.disk.GrewBy d q.checkpointPath (Checkpoint.record (q.taken + 1)) →
        q.isClosed = false ∧ q.pending ≠ [] ∧
          AtRest F name (life.stored.map Message.bytes) (life.takes.length + 1) d) ∧
      (¬life.disk.GrewBy d q.checkpointPath (Checkpoint.record (q.taken + 1)) →
        AtRest F name (life.stored.map Message.bytes) life.takes.length d) := by
  have hq := h.queue q hqueue
  cases hclosed : q.isClosed with
  | true =>
    obtain ⟨e, heq⟩ := dequeue_of_closed (isClosed_eq_true_iff.1 hclosed)
    rw [heq] at hcut
    have hd := Program.Cut.of_pure hcut
    exact not_grown (checkpointRecord_ne_nil _) hd (hd ▸ h.rests)
  | false =>
    obtain ⟨htaken, c, hm⟩ := hq.working hclosed
    obtain ⟨checkpoint, ha, hwhole, hlast⟩ := hm.attached
    rcases torn_of_cut_dequeue ha hcut with ⟨hpending, ht⟩ | hd
    · obtain ⟨hgrown, hsame⟩ := rests_of_torn_checkpoint hm hpending ha hwhole hlast ht
      rw [hq.name, htaken] at hgrown hsame
      rw [htaken]
      exact ⟨fun hgrew => ⟨rfl, hpending, hgrown hgrew⟩, hsame⟩
    · exact not_grown (checkpointRecord_ne_nil _) hd (hd ▸ h.rests)

/-! ## Events -/

theorem Tied.opened (h : Tied F name life) (hvalid : Destination.fault? name = none) {durable : Bool}
    (hr : (openIn name F.path durable).run.Runs (Answers faults) life.disk (.ok q) d) :
    Tied F name { life with disk := d, queue := some q } := by
  obtain ⟨c, hrest⟩ := h.rests
  have hfound := hrest.found h.forall₂_drop
  rcases attains_openIn hrest.shows hrest.folder hvalid hfound hrest.short durable _ _ hr with
    ⟨q', heq, hname, -, -, htaken, -, c', -, hm⟩ | ⟨-, e, heq⟩
  · cases heq
    exact .of_mirrors h.read h.accounted rfl hname htaken hm
  · cases heq

theorem Tied.openingStopped (h : Tied F name life) (hqueue : life.queue = none) {durable : Bool}
    (hcut : (openIn name F.path durable).run.Cut (Answers faults) FileOp.Torn life.disk d) :
    Tied F name { life with disk := d } := by
  obtain ⟨c, hrest⟩ := h.rests
  refine .of_rests h.read h.accounted (hrest.keeps_openIn h.forall₂_drop durable d hcut) fun q hq => ?_
  rw [hqueue] at hq
  cases hq

/-- What was taken stays accounted for when more is stored. -/
theorem Tied.accounted_append (h : Tied F name life) (m : Message) :
    life.takes.map Take.message = (life.stored ++ [m]).take life.takes.length := by
  rw [List.take_append_of_le_length h.length_le]
  exact h.accounted

theorem Tied.read_append (h : Tied F name life) (hread : Message.ReadFrom m.bytes m) :
    ∀ m' ∈ life.stored ++ [m], Message.ReadFrom m'.bytes m' := by
  intro m' hm'
  rcases List.mem_append.1 hm' with hm' | hm'
  · exact h.read m' hm'
  · exact List.mem_singleton.1 hm' ▸ hread

/-- Another take is that of the oldest message. -/
theorem Tied.accounted_take (h : Tied F name life) {pending : List Message}
    (hpending : life.stored.drop life.takes.length = m :: pending) {t : Take} (ht : t.message = m) :
    (life.takes ++ [t]).map Take.message = life.stored.take (life.takes ++ [t]).length := by
  have hhead : life.stored[life.takes.length]? = some m := by
    rw [← List.head?_drop, hpending, List.head?_cons]
  rw [List.map_append, List.map_singleton, List.length_append, List.length_singleton, List.take_add_one, hhead, ht,
    ← h.accounted]
  rfl

/-- Nothing that a closed queue is asked for changes anything. -/
theorem Tied.of_closed_run {α : Type} (h : Tied F name life) (hqueue : life.queue = some q)
    {p : FileProgram (Except BrokerError α × DurableQueue)} (hp : ∃ e, p = pure (.error e, q)) {r : Except BrokerError α}
    (hr : p.Runs (Answers faults) life.disk (r, q') d) :
    Tied F name { life with disk := d, queue := some q' } ∧ ∃ e, r = .error e := by
  obtain ⟨e, rfl⟩ := hp
  obtain ⟨heq, rfl⟩ := Program.runs_pure_iff.1 hr
  obtain ⟨rfl, rfl⟩ := Prod.mk.inj heq
  refine ⟨?_, e, rfl⟩
  rw [← hqueue]
  exact h

theorem Tied.enqueued (h : Tied F name life) (hqueue : life.queue = some q) (hread : Message.ReadFrom m.bytes m)
    {r : Except BrokerError Unit} (hr : (q.enqueue m).Runs (Answers faults) life.disk (r, q') d) :
    (r = .ok () → Tied F name { life with disk := d, queue := some q', stored := life.stored ++ [m] }) ∧
      (r ≠ .ok () → q'.isClosed = q.isClosed → Tied F name { life with disk := d, queue := some q' }) := by
  have hq := h.queue q hqueue
  cases hclosed : q.isClosed with
  | true =>
    obtain ⟨htied, e, rfl⟩ := h.of_closed_run hqueue (enqueue_of_closed (isClosed_eq_true_iff.1 hclosed) m) hr
    exact ⟨fun heq => (nomatch heq), fun _ _ => htied⟩
  | false =>
    obtain ⟨htaken, c, hm⟩ := hq.working hclosed
    obtain ⟨hsame, hend⟩ := runs_enqueue hm hread hr
    have hname := hsame.name.trans hq.name
    cases hend with
    | @stored _ c' hpending ht _ _ hm' =>
      refine ⟨fun _ => ?_, fun hne => absurd rfl hne⟩
      have hm' : q'.Mirrors Message.ReadFrom F c' d ((life.stored ++ [m]).map Message.bytes) := by
        rw [List.map_append, List.map_singleton]
        exact hm'
      exact .of_mirrors (h.read_append hread) (h.accounted_append m) rfl hname (ht.trans htaken) hm'
    | refused _ hd =>
      subst hd
      exact ⟨fun heq => (nomatch heq), fun _ _ => .of_mirrors h.read h.accounted rfl hname htaken hm⟩
    | undone _ _ ht _ hm' =>
      exact ⟨fun heq => (nomatch heq), fun _ _ => .of_mirrors h.read h.accounted rfl hname (ht.trans htaken) hm'⟩
    | closed _ hfiles =>
      refine ⟨fun heq => (nomatch heq), fun _ hstill => ?_⟩
      rw [isClosed_eq_true_iff.2 hfiles] at hstill
      nomatch hstill

theorem Tied.enqueueInterrupted (h : Tied F name life) (hqueue : life.queue = some q) (hread : Message.ReadFrom m.bytes m)
    {left : Option DurableQueue} (hi : Interrupted faults q (q.enqueue m) life.disk left d) :
    (life.disk.GrewBy d q.logPath (Log.recordOf m.bytes) →
        Tied F name { life with disk := d, queue := left, stored := life.stored ++ [m] }) ∧
      (¬life.disk.GrewBy d q.logPath (Log.recordOf m.bytes) → Tied F name { life with disk := d, queue := left }) := by
  have hq := h.queue q hqueue
  obtain ⟨hgrown, hsame⟩ := h.cut_enqueue hqueue hi.cut
  have hleft : ∀ q', left = some q' → q'.name = name ∧ q'.storage = F.path ∧ q'.isClosed = true := by
    rw [← hq.name, ← hq.storage]
    refine hi.left_closed fun r q' d' hr hopen => ?_
    obtain ⟨-, c, hm⟩ := hq.working hopen
    exact (runs_enqueue hm hread hr).1
  exact ⟨fun hgrew => .of_rests (h.read_append hread) (h.accounted_append m) (hgrown hgrew) hleft,
    fun hnot => .of_rests h.read h.accounted (hsame hnot) hleft⟩

theorem Tied.dequeued (h : Tied F name life) (hqueue : life.queue = some q) {r : Except BrokerError (Option Message)}
    (hr : q.dequeue.Runs (Answers faults) life.disk (r, q') d) :
    (∀ m, r = .ok (some m) → Tied F name { life with disk := d, queue := some q', takes := life.takes ++ [.returned m] }) ∧
      ((∀ m, r ≠ .ok (some m)) → q'.isClosed = q.isClosed → Tied F name { life with disk := d, queue := some q' }) := by
  have hq := h.queue q hqueue
  cases hclosed : q.isClosed with
  | true =>
    obtain ⟨htied, e, rfl⟩ := h.of_closed_run hqueue (dequeue_of_closed (isClosed_eq_true_iff.1 hclosed)) hr
    exact ⟨fun m heq => (nomatch heq), fun _ _ => htied⟩
  | false =>
    obtain ⟨htaken, c, hm⟩ := hq.working hclosed
    obtain ⟨hsame, hend⟩ := runs_dequeue hm hr
    have hname := hsame.name.trans hq.name
    cases hend with
    | none _ hd =>
      subst hd
      exact ⟨fun m heq => (nomatch heq), fun _ _ => .of_mirrors h.read h.accounted rfl hname htaken hm⟩
    | @taken _ c' m hpending ht _ _ hm' =>
      refine ⟨fun m' heq => ?_, fun hne => absurd rfl (hne m)⟩
      cases heq
      rw [h.pending_eq hqueue hclosed] at hpending
      refine .of_mirrors h.read (h.accounted_take hpending rfl) rfl hname ?_ hm'
      rw [List.length_append, List.length_singleton, ht, htaken]
    | undone _ _ ht _ hm' =>
      exact ⟨fun m heq => (nomatch heq), fun _ _ => .of_mirrors h.read h.accounted rfl hname (ht.trans htaken) hm'⟩
    | closed _ hfiles =>
      refine ⟨fun m heq => (nomatch heq), fun _ hstill => ?_⟩
      rw [isClosed_eq_true_iff.2 hfiles] at hstill
      nomatch hstill

theorem Tied.dequeueInterrupted (h : Tied F name life) (hqueue : life.queue = some q) {left : Option DurableQueue}
    (hi : Interrupted faults q q.dequeue life.disk left d) :
    (life.disk.GrewBy d q.checkpointPath (Checkpoint.record (q.taken + 1)) →
        Tied F name { life with disk := d, queue := left, takes := life.takes ++ q.peek.toList.map .lost }) ∧
      (¬life.disk.GrewBy d q.checkpointPath (Checkpoint.record (q.taken + 1)) →
        Tied F name { life with disk := d, queue := left }) := by
  have hq := h.queue q hqueue
  obtain ⟨hgrown, hsame⟩ := h.cut_dequeue hqueue hi.cut
  have hleft : ∀ q', left = some q' → q'.name = name ∧ q'.storage = F.path ∧ q'.isClosed = true := by
    rw [← hq.name, ← hq.storage]
    refine hi.left_closed fun r q' d' hr hopen => ?_
    obtain ⟨-, c, hm⟩ := hq.working hopen
    exact (runs_dequeue hm hr).1
  refine ⟨fun hgrew => ?_, fun hnot => .of_rests h.read h.accounted (hsame hnot) hleft⟩
  obtain ⟨hopen, hne, hrest⟩ := hgrown hgrew
  have hdrop := h.pending_eq hqueue hopen
  cases hpending : q.pending with
  | nil => exact absurd hpending hne
  | cons m pending =>
    have hpeek : q.peek.toList.map Take.lost = [.lost m] := by
      rw [peek, hpending]
      rfl
    rw [hpeek]
    rw [hpending] at hdrop
    refine .of_rests h.read (h.accounted_take hdrop.symm rfl) ?_ hleft
    rw [List.length_append, List.length_singleton]
    exact hrest

theorem Tied.closed (h : Tied F name life) (hqueue : life.queue = some q) {r : Except BrokerError Unit}
    (hr : q.close.Runs (Answers faults) life.disk (r, q') d) : Tied F name { life with disk := d, queue := some q' } := by
  have hq := h.queue q hqueue
  cases hclosed : q.isClosed with
  | true => exact (h.of_closed_run hqueue (close_of_closed (isClosed_eq_true_iff.1 hclosed)) hr).1
  | false =>
    obtain ⟨-, c, hm⟩ := hq.working hclosed
    obtain ⟨rfl, rfl, -⟩ := runs_close hm hr
    refine .of_rests h.read h.accounted h.rests fun q' hq' => ?_
    cases hq'
    exact ⟨hq.name, hq.storage, rfl⟩

/-- Losing the queue leaves the files as they were. -/
theorem Tied.dropped (h : Tied F name life) : Tied F name { life with queue := none } :=
  .of_rests h.read h.accounted h.rests fun _ hq => nomatch hq

/-- Whatever happens, the files tell what was stored and taken. -/
theorem Tied.event (h : Tied F name life) (hvalid : Destination.fault? name = none) (hevent : Event faults name F.path life later) :
    Tied F name later := by
  cases hevent with
  | opened _ hr => exact h.opened hvalid hr
  | notOpened hqueue hr => exact h.openingStopped hqueue hr.cut
  | openingCrashed hqueue hcut => exact h.openingStopped hqueue hcut
  | stored hread hqueue hr => exact (h.enqueued hqueue hread hr).1 rfl
  | notStored hread hqueue hr hstill => exact (h.enqueued hqueue hread hr).2 (fun heq => nomatch heq) hstill
  | storedUntold hread hqueue hi hgrew => exact (h.enqueueInterrupted hqueue hread hi).1 hgrew
  | notStoredUntold hread hqueue hi hnot => exact (h.enqueueInterrupted hqueue hread hi).2 hnot
  | taken hqueue hr => exact (h.dequeued hqueue hr).1 _ rfl
  | notTaken hqueue hr hnone hstill => exact (h.dequeued hqueue hr).2 hnone hstill
  | takenUntold hqueue hi hgrew => exact (h.dequeueInterrupted hqueue hi).1 hgrew
  | notTakenUntold hqueue hi hnot => exact (h.dequeueInterrupted hqueue hi).2 hnot
  | closed hqueue hr => exact h.closed hqueue hr
  | closingCrashed hqueue hcut => exact eq_of_cut_close hcut ▸ h.dropped
  | dropped => exact h.dropped

theorem Tied.lives (h : Tied F name life) (hvalid : Destination.fault? name = none) (hlives : Lives faults name F.path life later) :
    Tied F name later := by
  induction hlives with
  | refl => exact h
  | tail _ hevent ih => exact ih.event hvalid hevent

/-! ## Every life -/

/-- A directory without the files of a queue. -/
structure Fresh (d : Disk) (storage : String) (place : Place) (name : String) : Prop where
  leads : d.LeadsTo storage place
  log : d.node? (place ++ [Destination.logName name]) = none
  checkpoint : d.node? (place ++ [Destination.checkpointName name]) = none

/-- The life of a queue that was never opened. -/
def Life.start (d : Disk) : Life :=
  ⟨d, none, [], []⟩

theorem Fresh.tied {place : Place} (h : Fresh d storage place name) (hvalid : Destination.fault? name = none) :
    Tied (Folder.ofDestinations storage place (· = name)) name (Life.start d) := by
  have hs : (Folder.ofDestinations storage place (· = name)).Shows (fun _ => none) d := by
    refine Folder.shows_none h.leads ?_
    rintro n ⟨other, rfl, -, rfl | rfl⟩
    · exact h.log
    · exact h.checkpoint
  refine .of_rests (List.forall_mem_nil _) rfl ?_ fun _ hq => nomatch hq
  exact ⟨_, Folder.hasQueue_ofDestinations rfl hvalid, hs, ⟨[], Log.incomplete_nil, rfl⟩, Nat.zero_le _, List.forall_mem_nil _,
    rfl, Nat.zero_le _⟩

/-- Events only add to what was stored and taken. -/
theorem Event.extends (h : Event faults name storage life later) :
    life.stored <+: later.stored ∧ life.takes <+: later.takes := by
  cases h with
  | stored => exact ⟨List.prefix_append _ _, List.prefix_refl _⟩
  | storedUntold => exact ⟨List.prefix_append _ _, List.prefix_refl _⟩
  | taken => exact ⟨List.prefix_refl _, List.prefix_append _ _⟩
  | takenUntold => exact ⟨List.prefix_refl _, List.prefix_append _ _⟩
  | _ => exact ⟨List.prefix_refl _, List.prefix_refl _⟩

theorem Lives.extends (h : Lives faults name storage life later) :
    life.stored <+: later.stored ∧ life.takes <+: later.takes := by
  induction h with
  | refl => exact ⟨List.prefix_refl _, List.prefix_refl _⟩
  | tail _ hevent ih => exact ⟨ih.1.trans hevent.extends.1, ih.2.trans hevent.extends.2⟩

/-- What is safe at a point of a life. -/
structure Life.Safe (faults : Prop) (name storage : String) (life : Life) : Prop where
  /-- Whoever opens the queue finds what was stored and not taken, and how much was taken. -/
  opens : ∀ durable r d, (openIn name storage durable).run.Runs (Answers faults) life.disk r d →
    (∃ q, r = .ok q ∧ q.pending = life.stored.drop life.takes.length ∧ q.taken = life.takes.length) ∨ (faults ∧ ∃ e, r = .error e)
  /-- So does who has it open. -/
  working : ∀ q, life.queue = some q → q.isClosed = false →
    q.pending = life.stored.drop life.takes.length ∧ q.taken = life.takes.length
  /-- What was taken are the first messages stored, each of them once. -/
  accounted : life.takes.map Take.message = life.stored.take life.takes.length

theorem Tied.safe (h : Tied F name life) (hvalid : Destination.fault? name = none) : life.Safe faults name F.path := by
  refine ⟨fun durable r d hr => ?_, fun q hqueue hopen => ?_, h.accounted⟩
  · obtain ⟨c, hrest⟩ := h.rests
    rcases attains_openIn hrest.shows hrest.folder hvalid (hrest.found h.forall₂_drop) hrest.short durable r d hr with
      ⟨q, heq, -, -, hpending, htaken, -⟩ | herror
    · exact Or.inl ⟨q, heq, hpending, htaken⟩
    · exact Or.inr herror
  · exact ⟨h.pending_eq hqueue hopen, ((h.queue q hqueue).working hopen).1⟩

/-- Crashes do no harm: at every point of every life that begins without files, who opens the queue finds the messages stored so far
but for the first ones, and those that are missing were taken. Later nothing of that is forgotten. -/
theorem crash_safe {place : Place} (hvalid : Destination.fault? name = none) (hfresh : Fresh d storage place name)
    (hlife : Lives faults name storage (.start d) life) (hlater : Lives faults name storage life later) :
    later.Safe faults name storage ∧ life.stored <+: later.stored ∧ life.takes <+: later.takes :=
  ⟨((hfresh.tied hvalid).lives hvalid (hlife.trans hlater)).safe hvalid, hlater.extends⟩

/-- A message that is put in and whose taking is interrupted by a crash. -/
def lostMessage : Message :=
  ⟨"q", .boolean true⟩

theorem event_opened : Event False "q" "" (.start (Disk.empty "home")) ⟨diskOf [] [], some (queueOf [] 0 0 0), [], []⟩ :=
  .opened rfl runs_openIn_new

theorem event_stored : Event False "q" "" ⟨diskOf [] [], some (queueOf [] 0 0 0), [], []⟩
    ⟨diskOf (Log.recordOf lostMessage.bytes) [], some (queueOf [lostMessage] 0 38 0), [lostMessage], []⟩ := by
  have hread : Message.ReadFrom lostMessage.bytes lostMessage :=
    Message.parse_bytes ⟨rfl, True.intro⟩ True.intro (by decide)
  have hrun : ((queueOf [] 0 0 0).enqueue lostMessage).Runs (Answers False) (diskOf [] [])
      (.ok (), queueOf [lostMessage] 0 38 0) (diskOf (Log.recordOf lostMessage.bytes) []) :=
    FileProgram.Undisturbed.runs_of_eq (by decide +kernel) rfl
  exact .stored hread rfl hrun

theorem event_takenUntold : Event False "q" ""
    ⟨diskOf (Log.recordOf lostMessage.bytes) [], some (queueOf [lostMessage] 0 38 0), [lostMessage], []⟩
    ⟨diskOf (Log.recordOf lostMessage.bytes) (Checkpoint.record 1), none, [lostMessage], [.lost lostMessage]⟩ := by
  have hrun : (queueOf [lostMessage] 0 38 0).dequeue.Runs (Answers False) (diskOf (Log.recordOf lostMessage.bytes) [])
      (.ok (some lostMessage), queueOf [] 1 38 8) (diskOf (Log.recordOf lostMessage.bytes) (Checkpoint.record 1)) :=
    FileProgram.Undisturbed.runs_of_eq (by decide +kernel) rfl
  have hgrew : (diskOf (Log.recordOf lostMessage.bytes) []).GrewBy (diskOf (Log.recordOf lostMessage.bytes) (Checkpoint.record 1))
      (queueOf [lostMessage] 0 38 0).checkpointPath (Checkpoint.record 1) := ⟨[], rfl, rfl⟩
  exact .takenUntold (q := queueOf [lostMessage] 0 38 0) rfl (.crashed hrun.cut) hgrew

/-- A life in which a message is lost, because its taking was recorded and then a crash came. -/
theorem crash_safe_lost : ∃ life later, Lives False "q" "" (.start (Disk.empty "home")) life ∧ Lives False "q" "" life later ∧
    life.stored = [lostMessage] ∧ later.takes = [.lost lostMessage] ∧ later.Safe False "q" "" := by
  have hfresh : Fresh (Disk.empty "home") "" ["home"] "q" := ⟨rfl, by decide, by decide⟩
  have hlife := (Relation.ReflTransGen.single event_opened).tail event_stored
  have hlater := Relation.ReflTransGen.single event_takenUntold
  exact ⟨_, _, hlife, hlater, rfl, rfl, (crash_safe (by decide) hfresh hlife hlater).1⟩

end DurableQueue

end QueueBroker

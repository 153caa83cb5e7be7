import QueueBroker.Proofs.Queue.Stopping

/-!
# Opening a queue again

The pending messages of an open queue were read from its log or put in since. Of those put in, the log gives back the ones whose
payloads nest no deeper than payloads are read, and nothing from the first on that nests deeper.
-/

namespace QueueBroker

open FileOp

variable {F : Folder} {c : Contents} {d d' : Disk}

/-- Whether a payload nests no deeper than payloads are read. -/
def Message.isShallow (m : Message) : Bool :=
  m.payload.depth ≤ maxPayloadDepth

theorem Message.isShallow_iff {m : Message} : m.isShallow = true ↔ m.payload.depth ≤ maxPayloadDepth :=
  decide_eq_true_iff

/-- Whether a body is that of a message: it was read from it, or it was written for it. -/
def Message.Spells (body : Bytes) (m : Message) : Prop :=
  Message.ReadFrom body m ∨ body = m.bytes ∧ m.payload.Held ∧ m.payload.NoReals

theorem Message.Spells.tells {body : Bytes} {m : Message} (h : Message.Spells body m) : Log.Tells Message.isShallow body m := by
  rw [Log.Tells]
  rcases h with hread | ⟨rfl, hheld, hreals⟩
  · have hdepth := (Message.held_of_parse hread).2
    rw [if_pos (isShallow_iff.2 hdepth)]
    exact hread
  · by_cases hdepth : m.payload.depth ≤ maxPayloadDepth
    · rw [if_pos (isShallow_iff.2 hdepth)]
      exact Message.parse_bytes hheld hreals hdepth
    · rw [if_neg (fun h => hdepth (isShallow_iff.1 h))]
      exact Message.parse_bytes_error hheld hreals (Nat.lt_of_not_le hdepth)

namespace DurableQueue

variable {q q' : DurableQueue} {m : Message} {ms : List Message} {bodies : List Bytes}

/-- The queues that opening leads to, whatever the files held, and work with messages without real numbers, whether or not it
succeeds. -/
inductive Reached (F : Folder) : DurableQueue → Disk → Prop where
  | opened {c : Contents} {d d' : Disk} {name : String} {durable : Bool} {q : DurableQueue} : F.Shows c d → F.HasQueue name →
      ((c (Destination.logName name)).getD []).length ≤ Disk.maxFile →
      (openIn name F.path durable).run.Runs (Answers True) d (.ok q) d' → Reached F q d'
  | enqueued {d d' : Disk} {q q' : DurableQueue} {m : Message} {r : Except BrokerError Unit} : Reached F q d →
      m.payload.Held → m.payload.NoReals → (q.enqueue m).Runs (Answers True) d (r, q') d' → Reached F q' d'
  | dequeued {d d' : Disk} {q q' : DurableQueue} {r : Except BrokerError (Option Message)} : Reached F q d →
      q.dequeue.Runs (Answers True) d (r, q') d' → Reached F q' d'

/-- An open queue that was reached is one of a valid destination and mirrors its files. -/
theorem Reached.mirrored (h : Reached F q d) : q.Mirrored Message.Spells F d := by
  induction h with
  | opened hs hq hshort hr => exact (mirrored_of_runs_openIn hs hq hshort hr).mono fun _ _ => Or.inl
  | enqueued _ hheld hreals hr ih => exact ih.enqueue (Or.inr ⟨rfl, hheld, hreals⟩) hr
  | dequeued _ hr ih => exact ih.dequeue hr

/-- Messages that are put in one after the other, all of them with success. -/
inductive Accepts : DurableQueue → Disk → List Message → DurableQueue → Disk → Prop where
  | nil {q : DurableQueue} {d : Disk} : Accepts q d [] q d
  | cons {q q₁ q' : DurableQueue} {d d₁ d' : Disk} {m : Message} {ms : List Message} :
      (q.enqueue m).Runs (Answers True) d (.ok (), q₁) d₁ → Accepts q₁ d₁ ms q' d' → Accepts q d (m :: ms) q' d'

/-- Messages that are put in with success are pending after those that were. -/
theorem Accepts.pending_eq (ha : Accepts q d ms q' d') (hms : ∀ m ∈ ms, m.payload.Held ∧ m.payload.NoReals)
    (h : Reached F q d) (hopen : q.isClosed = false) :
    Reached F q' d' ∧ q'.isClosed = false ∧ q'.pending = q.pending ++ ms := by
  induction ha with
  | nil => exact ⟨h, hopen, (List.append_nil _).symm⟩
  | @cons q q₁ q' d d₁ d' m ms hr _ ih =>
    obtain ⟨⟨hheld, hreals⟩, hms⟩ := List.forall_mem_cons.1 hms
    obtain ⟨-, c, bodies, hm⟩ := h.mirrored hopen
    obtain ⟨hopen₁, hpending⟩ := hm.accepted (Or.inr ⟨rfl, hheld, hreals⟩) hr
    obtain ⟨h', hopen', hpending'⟩ := ih hms (h.enqueued hheld hreals hr) hopen₁
    refine ⟨h', hopen', ?_⟩
    rw [hpending', hpending, List.append_assoc, List.singleton_append]

/-- A list is what begins it as long as `p` holds exactly when `p` holds throughout. -/
theorem takeWhile_isShallow_eq_iff : ms.takeWhile Message.isShallow = ms ↔ ∀ m ∈ ms, m.payload.depth ≤ maxPayloadDepth := by
  rw [List.takeWhile_eq_self_iff]
  exact forall₂_congr fun _ _ => Message.isShallow_iff

/-- What opening a queue again finds: the pending messages before the first that nests too deep. -/
theorem Reached.reopen (h : Reached F q d) (hopen : q.isClosed = false) {durable : Bool} {r : Except BrokerError DurableQueue}
    (hr : (openIn q.name q.storage durable).run.Runs (Answers False) d r d') :
    ∃ q', r = .ok q' ∧ q'.pending = q.pending.takeWhile Message.isShallow := by
  obtain ⟨hvalid, c, bodies, hm⟩ := h.mirrored hopen
  obtain ⟨checkpoint, ha, -, -⟩ := hm.attached
  have hrest := hm.rests
  have hfound := hrest.found_of_tells (hm.pending.imp fun _ _ hspells => hspells.tells)
  rw [ha.storage] at hr
  obtain ⟨q', heq, -, -, hpending, -⟩ :=
    (attains_openIn hrest.shows hrest.folder hvalid hfound hrest.short durable).exists_of_not id hr
  exact ⟨q', heq, hpending⟩

/-- What survives when messages were put in, all of them with success, and the queue is opened again without a failure: the pending
messages before the first that nests too deep, and so all of them exactly when none does. -/
theorem reopen_after_accepts (h : Reached F q d) (hopen : q.isClosed = false)
    (hms : ∀ m ∈ ms, m.payload.Held ∧ m.payload.NoReals) (ha : Accepts q d ms q' d') {durable : Bool}
    {r : Except BrokerError DurableQueue} {d'' : Disk}
    (hr : (openIn q'.name q'.storage durable).run.Runs (Answers False) d' r d'') :
    q'.pending = q.pending ++ ms ∧ ∃ reopened, r = .ok reopened ∧
      reopened.pending = q'.pending.takeWhile (fun m => m.payload.depth ≤ maxPayloadDepth) ∧
      (reopened.pending = q'.pending ↔ ∀ m ∈ q'.pending, m.payload.depth ≤ maxPayloadDepth) := by
  obtain ⟨h', hopen', hpending⟩ := ha.pending_eq hms h hopen
  obtain ⟨reopened, heq, hreopened⟩ := h'.reopen hopen' hr
  refine ⟨hpending, reopened, heq, hreopened, ?_⟩
  rw [hreopened]
  exact takeWhile_isShallow_eq_iff

/-- Lists inside one another. -/
def nestedLists : Nat → Json
  | 0 => .null
  | depth + 1 => .list [nestedLists depth]

theorem nestedLists_held (depth : Nat) : (nestedLists depth).Held ∧ (nestedLists depth).NoReals := by
  induction depth with
  | zero => exact ⟨⟨rfl, True.intro⟩, True.intro⟩
  | succ depth ih =>
    obtain ⟨⟨hcanonical, hrange⟩, hreals⟩ := ih
    refine ⟨⟨?_, hrange, True.intro⟩, hreals, True.intro⟩
    rw [nestedLists, Json.canonical, Json.canonicalItems, Json.canonicalItems, hcanonical]

theorem depth_nestedLists (depth : Nat) : (nestedLists depth).depth = depth := by
  induction depth with
  | zero => rfl
  | succ depth ih => rw [nestedLists, Json.depth, Json.depthOfItems, Json.depthOfItems, ih, Nat.max_eq_left (Nat.zero_le _)]

/-- A message whose payload nests one level too deep. -/
@[irreducible] def deepMessage : Message :=
  ⟨"q", nestedLists (maxPayloadDepth + 1)⟩

theorem payload_deepMessage : deepMessage.payload = nestedLists (maxPayloadDepth + 1) := by
  rw [deepMessage]

theorem reached_new : Reached (Folder.ofDestinations "" ["home"] (· = "q")) (queueOf [] 0 0 0) (diskOf [] []) :=
  .opened shows_empty hasQueue_q (Nat.zero_le _) (runs_openIn_new.mono fun _ _ _ _ h => h.of_false)

theorem accepts_deepMessage : ∃ q' d', Accepts (queueOf [] 0 0 0) (diskOf [] []) [deepMessage] q' d' ∧
    (openIn q'.name q'.storage false).run.Undisturbed d' := by
  have hgood : ((queueOf [] 0 0 0).enqueue deepMessage).Undisturbed (diskOf [] []) := by decide +kernel
  have hok : (((queueOf [] 0 0 0).enqueue deepMessage).run (diskOf [] [])).1.1.isOk = true := by decide +kernel
  have hagain : (openIn (((queueOf [] 0 0 0).enqueue deepMessage).run (diskOf [] [])).1.2.name
      (((queueOf [] 0 0 0).enqueue deepMessage).run (diskOf [] [])).1.2.storage false).run.Undisturbed
      (((queueOf [] 0 0 0).enqueue deepMessage).run (diskOf [] [])).2 := by decide +kernel
  have hr := hgood.runs
  generalize ((queueOf [] 0 0 0).enqueue deepMessage).run (diskOf [] []) = ended at hok hagain hr
  obtain ⟨⟨r, q'⟩, d'⟩ := ended
  cases r with
  | error e => cases hok
  | ok u => exact ⟨q', d', .cons (hr.mono fun _ _ _ _ h => h.of_false) .nil, hagain⟩

/-- A message that nests one level too deep is accepted and then gone. -/
theorem reopen_after_accepts_deep : ∃ q' d' reopened d'', Accepts (queueOf [] 0 0 0) (diskOf [] []) [deepMessage] q' d' ∧
    (openIn q'.name q'.storage false).run.Runs (Answers False) d' (.ok reopened) d'' ∧
    q'.pending = [deepMessage] ∧ reopened.pending = [] := by
  obtain ⟨q', d', ha, hagain⟩ := accepts_deepMessage
  have hr := hagain.runs
  have hms : ∀ m ∈ [deepMessage], m.payload.Held ∧ m.payload.NoReals := by
    intro m hm
    rw [List.mem_singleton.1 hm, payload_deepMessage]
    exact nestedLists_held _
  obtain ⟨hpending, reopened, heq, hreopened, -⟩ := reopen_after_accepts reached_new rfl hms ha hr
  rw [heq] at hr
  refine ⟨q', d', reopened, _, ha, hr, hpending, ?_⟩
  have hdeep : ¬deepMessage.payload.depth ≤ maxPayloadDepth := by
    rw [payload_deepMessage, depth_nestedLists]
    omega
  rw [hreopened, hpending, queueOf, List.nil_append, List.takeWhile_cons_of_neg (by simpa using hdeep)]

end DurableQueue

end QueueBroker

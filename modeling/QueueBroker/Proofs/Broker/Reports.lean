import QueueBroker.Proofs.Broker.Isolation
import QueueBroker.Proofs.Queue.Reports

/-!
# What error replies tell

A request fails for one of few reasons: it asks for something to be put in where there can be no destination, it asks for work on a
closed queue, no record can hold its message, or an operation on files failed. `Explains` says that the reply tells which, and that
nothing else is told as a failure. `Sought`, `Provided` and their like are what the programs of requests come to, step by step.
-/

namespace QueueBroker

open DurableQueue FileAttempt

variable {α β : Type} {storage name : String} {id : QueueId} {q : DurableQueue} {m : Message} {d d' : Disk} {failed failed' : Bool}

namespace Shared

variable {s s' : Shared} {op : RegistryOp} {Q : α → Shared → Disk → Bool → Prop}

/-! ## Programs that are watched -/

/-- Every run of a program, with failing file operations or without, ends with a result, with shared things and with a disk that
satisfy `Q`, given whether an operation failed so far. -/
def Watches (p : RegistryProgram α) (s : Shared) (d : Disk) (failed : Bool) (Q : α → Shared → Disk → Bool → Prop) : Prop :=
  (execute p s).Watches d failed fun r d' failed' => Q r.1 r.2 d' failed'

theorem Watches.pure {a : α} (h : Q a s d failed) : Watches (pure a) s d failed Q :=
  h

theorem Watches.mono {p : RegistryProgram α} {R : α → Shared → Disk → Bool → Prop} (h : Watches p s d failed R)
    (hsub : ∀ a s' d' failed', R a s' d' failed' → Q a s' d' failed') : Watches p s d failed Q :=
  FileProgram.Watches.mono h fun r d' failed' => hsub r.1 r.2 d' failed'

theorem Watches.bind {p : RegistryProgram β} {f : β → RegistryProgram α}
    (h : Watches p s d failed fun b s' d' failed' => Watches (f b) s' d' failed' Q) : Watches (p >>= f) s d failed Q := by
  change Watches (p.bind f) s d failed Q
  induction p generalizing s d failed with
  | done b => exact h
  | ask op next ih =>
    have hstep := FileProgram.watches_bind_iff.1 h
    exact FileProgram.Watches.bind (hstep.mono fun r d' failed' hnext => ih r.1 hnext)

/-- A step comes to what it is performed as. -/
theorem Watches.request {Q : op.Reply → Shared → Disk → Bool → Prop}
    (h : (s.perform op).Watches d failed fun r d' failed' => Q r.1 r.2 d' failed') : Watches (Program.request op) s d failed Q :=
  FileProgram.Watches.bind (h.mono fun _ _ _ hq => FileProgram.Watches.pure hq)

/-- Taking and releasing a lock is nothing to a program alone. -/
theorem Watches.whileOpening {p : RegistryProgram α}
    (h : Watches p { s with opening := true } d failed fun a s' d' failed' => Q a { s' with opening := false } d' failed') :
    Watches (Registry.whileOpening p) s d failed Q := by
  refine .bind (.request (FileProgram.Watches.pure (.bind (h.mono fun a s' d' failed' hq => ?_))))
  exact .bind (.request (FileProgram.Watches.pure (.pure hq)))

theorem Watches.whileHolding {p : RegistryProgram α}
    (h : Watches p { s with busy := id :: s.busy } d failed fun a s' d' failed' =>
      Q a { s' with busy := s'.busy.erase id } d' failed') :
    Watches (Registry.whileHolding id p) s d failed Q := by
  refine .bind (.request (FileProgram.Watches.pure (.bind (h.mono fun a s' d' failed' hq => ?_))))
  exact .bind (.request (FileProgram.Watches.pure (.pure hq)))

/-! ## Queues of a destination -/

/-- The queue that is entered for a name. -/
def Entered (s : Shared) (name : String) (id : QueueId) (q : DurableQueue) : Prop :=
  s.registry.lookup name = some id ∧ s.queues[id]? = some q

/-- Whether the queue that is entered for a name is closed. -/
def ClosedFor (s : Shared) (name : String) : Prop :=
  ∃ id q, s.Entered name id q ∧ q.isClosed = true

theorem Entered.closedFor_iff (h : s.Entered name id q) : s.ClosedFor name ↔ q.isClosed = true := by
  refine ⟨?_, fun hclosed => ⟨id, q, h, hclosed⟩⟩
  rintro ⟨id', q', ⟨hlookup, hq⟩, hclosed⟩
  obtain rfl := Option.some.inj (h.1.symm.trans hlookup)
  obtain rfl := Option.some.inj (h.2.symm.trans hq)
  exact hclosed

theorem not_closedFor_of_lookup (h : s.registry.lookup name = none) : ¬s.ClosedFor name := by
  rintro ⟨id, q, ⟨hlookup, -⟩, -⟩
  rw [h] at hlookup
  cases hlookup

/-- The queue that is found for a name is entered, and there is none for a name that is not that of a destination. -/
theorem Orderly.exists_entered (h : s.Orderly storage) (hlookup : s.registry.lookup name = some id) :
    Destination.fault? name = none ∧ ∃ q, s.Entered name id q := by
  obtain ⟨q, hq, rfl⟩ := named_iff.1 (h.entries name id hlookup)
  exact ⟨(h.queues q (List.mem_of_getElem? hq)).1, q, hlookup, hq⟩

/-- What comes of opening the queue of a destination and entering it. -/
inductive Opened (name : String) : Except BrokerError QueueId → Shared → Bool → Prop where
  | opened {s : Shared} {id : QueueId} {q : DurableQueue} : s.Entered name id q → q.isClosed = false → Opened name (.ok id) s false
  | failed {s : Shared} {e : BrokerError} : OfStorage e → Opened name (.error e) s true

theorem Opened.locks {r : Except BrokerError QueueId} (h : Opened name r s failed) (opening : Bool) (busy : List QueueId) :
    Opened name r { s with opening, busy } failed := by
  cases h with
  | opened hentered hopen => exact .opened hentered hopen
  | failed he => exact .failed he

theorem watches_openAndInsert (hvalid : Destination.fault? name = none) :
    Watches (Registry.openAndInsert name) s d false fun r s' _ failed => Opened name r s' failed := by
  refine .bind (.request (FileProgram.Watches.bind ?_))
  refine FileProgram.Watches.mono (reports_openIn hvalid s.registry.storage s.registry.durable) fun r d' failed hr => ?_
  cases hr with
  | failure he => exact FileProgram.Watches.pure (.pure (.failed he))
  | result hq =>
    refine FileProgram.Watches.pure (.bind (.request (FileProgram.Watches.pure (.pure ?_))))
    exact .opened ⟨Registry.lookup_insert_self, List.getElem?_concat_length⟩ hq.2

/-- What comes of asking for the queue of a destination. -/
inductive Sought (s : Shared) (d : Disk) (name : String) : Except BrokerError (Option QueueId) → Shared → Disk → Bool → Prop where
  | found {id : QueueId} {q : DurableQueue} : Destination.fault? name = none → s.Entered name id q →
      Sought s d name (.ok (some id)) s d false
  | unnamed : s.registry.lookup name = none → Destination.fault? name ≠ none → Sought s d name (.ok none) s d false
  | absent : s.registry.lookup name = none → d.pathExists (logPathOf s.registry.storage name) = .ok false →
      Sought s d name (.ok none) s d false
  | opened {s' : Shared} {d' : Disk} {r : Except BrokerError QueueId} {failed : Bool} : s.registry.lookup name = none →
      Destination.fault? name = none → d.pathExists (logPathOf s.registry.storage name) = .ok true → Opened name r s' failed →
      Sought s d name (r.map some) s' d' failed
  | unknown {s' : Shared} {d' : Disk} {e : BrokerError} : s.registry.lookup name = none → Destination.fault? name = none →
      OfStorage e → Sought s d name (.error e) s' d' true

theorem Orderly.watches_get (h : s.Orderly storage) (name : String) (d : Disk) :
    Watches (Registry.get name) s d false (Sought s d name) := by
  refine .bind (.request (FileProgram.Watches.pure ?_))
  cases hlookup : s.registry.lookup name with
  | some id =>
    obtain ⟨hvalid, q, hentered⟩ := h.exists_entered hlookup
    exact .pure (.found hvalid hentered)
  | none =>
    dsimp only
    cases hfault : Destination.fault? name with
    | some fault =>
      rw [Destination.validate, hfault]
      exact .pure (.unnamed hlookup (by rw [hfault]; exact Option.some_ne_none fault))
    | none =>
      rw [validate_eq_ok hfault]
      refine .bind (.request (FileProgram.Watches.bind ?_))
      refine FileProgram.Watches.mono (reports_pathExists _).storage fun found d₁ failed hfound => FileProgram.Watches.pure ?_
      cases hfound with
      | failure he => exact .pure (.unknown hlookup hfault he)
      | @result found _ hfound =>
        obtain ⟨rfl, hfound⟩ := hfound
        cases found with
        | false => exact .pure (.absent hlookup hfound)
        | true =>
          refine .whileOpening (.bind (.request (FileProgram.Watches.pure ?_)))
          dsimp only
          rw [hlookup]
          refine .bind ((watches_openAndInsert hfault).mono fun r s' d' failed hr => ?_)
          have hsought : Sought s d₁ name (r.map some) { s' with opening := false } d' failed :=
            .opened hlookup hfault hfound (hr.locks false s'.busy)
          cases r with
          | error e => exact .pure hsought
          | ok id => exact .pure hsought

/-- What comes of asking for a queue that is to be made if need be. -/
inductive Provided (s : Shared) (name : String) : Except BrokerError QueueId → Shared → Bool → Prop where
  | found {id : QueueId} {q : DurableQueue} : Destination.fault? name = none → s.Entered name id q → Provided s name (.ok id) s false
  | unnamed {fault : NameFault} : s.registry.lookup name = none → Destination.fault? name = some fault →
      Provided s name (.error (.destination (.refused name fault))) s false
  | opened {s' : Shared} {r : Except BrokerError QueueId} {failed : Bool} : s.registry.lookup name = none →
      Destination.fault? name = none → Opened name r s' failed → Provided s name r s' failed

theorem Orderly.watches_getOrCreate (h : s.Orderly storage) (name : String) (d : Disk) :
    Watches (Registry.getOrCreate name) s d false fun r s' _ failed => Provided s name r s' failed := by
  refine .bind (.request (FileProgram.Watches.pure ?_))
  cases hlookup : s.registry.lookup name with
  | some id =>
    obtain ⟨hvalid, q, hentered⟩ := h.exists_entered hlookup
    exact .pure (.found hvalid hentered)
  | none =>
    dsimp only
    cases hfault : Destination.fault? name with
    | some fault =>
      rw [Destination.validate, hfault]
      exact .pure (.unnamed hlookup hfault)
    | none =>
      rw [validate_eq_ok hfault]
      refine .whileOpening (.bind (.request (FileProgram.Watches.pure ?_)))
      dsimp only
      rw [hlookup]
      refine .bind (.request (FileProgram.Watches.bind ?_))
      refine FileProgram.Watches.mono (reports_makeDirectories _).storage fun made d' failed hmade => FileProgram.Watches.pure ?_
      cases hmade with
      | failure he => exact .pure (.opened hlookup hfault (.failed he))
      | result =>
        refine (watches_openAndInsert hfault).mono fun r s' _ failed hr => ?_
        exact .opened hlookup hfault (hr.locks false s'.busy)

/-- A queue that was found is entered, and it is closed only if it was found so. -/
theorem Sought.exists_entered (h : Sought s d name (.ok (some id)) s' d' failed) :
    ∃ q, s'.Entered name id q ∧ Destination.fault? name = none ∧ failed = false ∧ (s.ClosedFor name ↔ q.isClosed = true) := by
  generalize hr : Except.ok (some id) = r at h
  cases h with
  | @found id' q hvalid hentered =>
    obtain rfl := Option.some.inj (Except.ok.inj hr)
    exact ⟨q, hentered, hvalid, rfl, hentered.closedFor_iff⟩
  | opened hlookup hvalid _ hopened =>
    cases hopened with
    | failed => cases hr
    | @opened _ id' q hentered hopen =>
      obtain rfl := Option.some.inj (Except.ok.inj hr)
      exact ⟨q, hentered, hvalid, rfl, iff_of_false (not_closedFor_of_lookup hlookup) (by rw [hopen]; exact Bool.false_ne_true)⟩
  | unnamed | absent | unknown => cases hr

/-- If there is no queue none is entered, and nothing was done. -/
theorem Sought.nothing (h : Sought s d name (.ok none) s' d' failed) :
    s.registry.lookup name = none ∧ s' = s ∧ d' = d ∧ failed = false ∧
      (Destination.fault? name ≠ none ∨ d.pathExists (logPathOf s.registry.storage name) = .ok false) := by
  generalize hr : Except.ok none = r at h
  cases h with
  | unnamed hlookup hfault => exact ⟨hlookup, rfl, rfl, rfl, Or.inl hfault⟩
  | absent hlookup hfound => exact ⟨hlookup, rfl, rfl, rfl, Or.inr hfound⟩
  | opened _ _ _ hopened => cases hopened <;> cases hr
  | found | unknown => cases hr

/-- That the queue of a destination cannot be told is a failure of its files. -/
theorem Sought.error {e : BrokerError} (h : Sought s d name (.error e) s' d' failed) :
    s.registry.lookup name = none ∧ Destination.fault? name = none ∧ OfStorage e ∧ failed = true := by
  generalize hr : Except.error e = r at h
  cases h with
  | unknown hlookup hvalid he =>
    obtain rfl := Except.error.inj hr
    exact ⟨hlookup, hvalid, he, rfl⟩
  | opened hlookup hvalid _ hopened =>
    cases hopened with
    | opened => cases hr
    | failed he =>
      obtain rfl := Except.error.inj hr
      exact ⟨hlookup, hvalid, he, rfl⟩
  | found | unnamed | absent => cases hr

/-- A queue that is provided is entered, and it is closed only if it was found so. -/
theorem Provided.exists_entered (h : Provided s name (.ok id) s' failed) :
    ∃ q, s'.Entered name id q ∧ Destination.fault? name = none ∧ failed = false ∧ (s.ClosedFor name ↔ q.isClosed = true) := by
  cases h with
  | found hvalid hentered => exact ⟨_, hentered, hvalid, rfl, hentered.closedFor_iff⟩
  | opened hlookup hvalid hopened =>
    cases hopened with
    | opened hentered hopen =>
      exact ⟨_, hentered, hvalid, rfl, iff_of_false (not_closedFor_of_lookup hlookup) (by rw [hopen]; exact Bool.false_ne_true)⟩

/-! ## What requests come to -/

/-- Work on a queue comes to what the queue makes of it. -/
theorem watches_use (op : RegistryOp) {work : DurableQueue → FileProgram (op.Reply × DurableQueue)} {missing : op.Reply}
    (hperform : ∀ s : Shared, s.perform op = s.onQueue id missing work) (hq : s.queues[id]? = some q) {R : op.Reply → Bool → Prop}
    (h : (work q).Watches d failed fun r _ failed' => R r.1 failed') :
    Watches (Registry.whileHolding id (Program.request op)) s d failed fun r _ _ failed' => R r failed' := by
  refine .whileHolding (.request ?_)
  rw [hperform, onQueue]
  dsimp only
  rw [hq]
  exact FileProgram.Watches.bind (h.mono fun _ _ _ hr => FileProgram.Watches.pure hr)

/-- What comes of asking whether a message is waiting. -/
inductive Checked (s : Shared) (d : Disk) (name : String) : Except BrokerError Response → Shared → Disk → Bool → Prop where
  | nothing {s' : Shared} {d' : Disk} {failed : Bool} : Sought s d name (.ok none) s' d' failed →
      Checked s d name (.ok (.available false)) s' d' failed
  | asked {s' : Shared} {d' : Disk} {failed : Bool} {id : QueueId} {q : DurableQueue} : Sought s d name (.ok (some id)) s' d' failed →
      s'.Entered name id q → Checked s d name (.ok (.available !q.isEmpty)) s' d' failed
  | failed {s' : Shared} {d' : Disk} {failed : Bool} {e : BrokerError} : Sought s d name (.error e) s' d' failed →
      Checked s d name (.error e) s' d' failed

/-- What the answer to a `RECEIVE` makes of what was taken. -/
def takenReply : Option Message → Response
  | none => .empty
  | some m => .message m

/-- What comes of asking for the oldest message. -/
inductive Received (s : Shared) (d : Disk) (name : String) : Except BrokerError Response → Bool → Prop where
  | nothing {s' : Shared} {d' : Disk} {failed : Bool} : Sought s d name (.ok none) s' d' failed →
      Received s d name (.ok .empty) failed
  | taken {s' : Shared} {d' : Disk} {failed : Bool} {id : QueueId} {q : DurableQueue} {r : Except BrokerError (Option Message)} :
      Sought s d name (.ok (some id)) s' d' false → s'.Entered name id q → q.Takes r failed →
      Received s d name (r.map takenReply) failed
  | failed {s' : Shared} {d' : Disk} {failed : Bool} {e : BrokerError} : Sought s d name (.error e) s' d' failed →
      Received s d name (.error e) failed

/-- What comes of putting a message in. -/
inductive Sent (s : Shared) (m : Message) : Except BrokerError Response → Bool → Prop where
  | put {s' : Shared} {failed : Bool} {id : QueueId} {q : DurableQueue} {r : Except BrokerError Unit} :
      Provided s m.destination (.ok id) s' false → s'.Entered m.destination id q → q.Puts m r failed →
      Sent s m (r.map fun _ => .ack) failed
  | failed {s' : Shared} {failed : Bool} {e : BrokerError} : Provided s m.destination (.error e) s' failed →
      Sent s m (.error e) failed

theorem Orderly.watches_handleCheck (h : s.Orderly storage) (name : String) (d : Disk) :
    Watches (Request.handleCheck name) s d false (Checked s d name) := by
  refine .bind ((h.watches_get name d).mono fun found s' d' failed hfound => ?_)
  match found with
  | .error e => exact .pure (.failed hfound)
  | .ok none => exact .pure (.nothing hfound)
  | .ok (some id) =>
    obtain ⟨q, hentered, -⟩ := hfound.exists_entered
    refine .bind (.whileHolding (.request (FileProgram.Watches.pure (.pure ?_))))
    dsimp only
    rw [List.erase_cons_head, hentered.2]
    exact .asked hfound hentered

theorem Orderly.watches_handleReceive (h : s.Orderly storage) (name : String) (d : Disk) :
    Watches (Request.handleReceive name) s d false fun r _ _ failed => Received s d name r failed := by
  refine .bind ((h.watches_get name d).mono fun found s' d' failed hfound => ?_)
  match found with
  | .error e => exact .pure (.failed hfound)
  | .ok none => exact .pure (.nothing hfound)
  | .ok (some id) =>
    obtain ⟨q, hentered, -, rfl, -⟩ := hfound.exists_entered
    have huse := watches_use (.dequeue id) (fun _ => rfl) hentered.2 (watches_dequeue q d')
    refine .bind (huse.mono fun r _ _ failed hr => ?_)
    have hreceived : Received s d name (r.map takenReply) failed := .taken hfound hentered hr
    rcases r with e | _ | m
    · exact .pure hreceived
    · exact .pure hreceived
    · exact .pure hreceived

theorem Orderly.watches_handleSend (h : s.Orderly storage) (m : Message) (d : Disk) :
    Watches (Request.handleSend m) s d false fun r _ _ failed => Sent s m r failed := by
  refine .bind ((h.watches_getOrCreate m.destination d).mono fun found s' d' failed hfound => ?_)
  cases found with
  | error e => exact .pure (.failed hfound)
  | ok id =>
    obtain ⟨q, hentered, -, rfl, -⟩ := hfound.exists_entered
    have huse := watches_use (.enqueue id m) (fun _ => rfl) hentered.2 (watches_enqueue q m d')
    refine .bind (huse.mono fun r _ _ failed hr => ?_)
    have hsent : Sent s m (r.map fun _ => .ack) failed := .put hfound hentered hr
    cases r with
    | error e => exact .pure hsent
    | ok _ => exact .pure hsent

end Shared

/-! ## Why requests fail -/

namespace Response

/-- The category of the failure that is answered, if it is one. -/
def errorKind? : Response → Option ErrorKind
  | error reply => some reply.kind
  | ack | available _ | message _ | empty => none

/-- What is answered, given what came of the request. -/
def telling : Except BrokerError Response → Response
  | .ok response => response
  | .error e => .error (.ofError e)

end Response

namespace Request

/-- Whether something is to be put in where there can be no destination. -/
def Misaddressed : Request → Prop
  | send m => ∃ e, Destination.validate m.destination = .error e
  | check _ | receive _ => False

/-- Whether something is to be put in that no record can hold. -/
def Oversized : Request → Prop
  | send m => Log.maxBody < m.bytes.length
  | check _ | receive _ => False

theorem misaddressed_send_iff : (send m).Misaddressed ↔ Destination.fault? m.destination ≠ none := by
  change (∃ e, Destination.validate m.destination = .error e) ↔ _
  rw [Destination.validate]
  cases Destination.fault? m.destination with
  | none => exact iff_of_false (by rintro ⟨_, ⟨⟩⟩) fun h => h rfl
  | some fault => exact iff_of_true ⟨_, rfl⟩ (Option.some_ne_none fault)

end Request

namespace Shared

variable {s s' : Shared} {r : Request} {kind : Option ErrorKind} {result : Except BrokerError Response}

/-- Whether a request wants to work on a closed queue. One that asks whether a message is waiting does not work on the queue. -/
def Refuses (s : Shared) : Request → Prop
  | .send m => s.ClosedFor m.destination ∧ m.bytes.length ≤ Log.maxBody
  | .check _ => False
  | .receive name => s.ClosedFor name

/-- How a request ends, and of which category the failure is that is answered. -/
inductive Ends (s : Shared) (r : Request) : Option ErrorKind → Bool → Prop where
  | served : ¬r.Misaddressed → ¬s.Refuses r → ¬r.Oversized → Ends s r none false
  | misaddressed {failed : Bool} : r.Misaddressed → ¬s.Refuses r → Ends s r (some .invalidDestination) failed
  | refused {failed : Bool} : ¬r.Misaddressed → s.Refuses r → Ends s r (some .illegalState) failed
  | failed {failed : Bool} : ¬r.Misaddressed → ¬s.Refuses r → failed = true ∨ r.Oversized → Ends s r (some .storageFailure) failed

/-- What a request is answered tells how it ended. -/
structure Explains (s : Shared) (r : Request) (failed : Bool) (response : Response) : Prop where
  /-- Something is to be put in where there can be no destination, -/
  invalidDestination : response.errorKind? = some .invalidDestination ↔ r.Misaddressed
  /-- the queue is closed that the request wants to work on, -/
  illegalState : response.errorKind? = some .illegalState ↔ s.Refuses r
  /-- or, if it is neither, an operation on the files failed or no record can hold the message. -/
  storageFailure : response.errorKind? = some .storageFailure ↔ ¬r.Misaddressed ∧ ¬s.Refuses r ∧ (failed = true ∨ r.Oversized)
  /-- There is no other failure. -/
  internal : response.errorKind? ≠ some .internal
  /-- Where there can be no destination nothing is waiting, -/
  check : ∀ name, r = .check name → Destination.fault? name ≠ none → response = .available false
  /-- and nothing is taken. -/
  receive : ∀ name, r = .receive name → Destination.fault? name ≠ none → response = .empty

theorem Ends.invalidDestination (h : s.Ends r kind failed) : kind = some .invalidDestination ↔ r.Misaddressed := by
  cases h with
  | misaddressed hm _ => exact iff_of_true rfl hm
  | served hm _ _ | refused hm _ | failed hm _ _ => exact iff_of_false nofun hm

theorem Ends.illegalState (h : s.Ends r kind failed) : kind = some .illegalState ↔ s.Refuses r := by
  cases h with
  | refused _ hr => exact iff_of_true rfl hr
  | served _ hr _ | misaddressed _ hr | failed _ hr _ => exact iff_of_false nofun hr

theorem Ends.storageFailure (h : s.Ends r kind failed) :
    kind = some .storageFailure ↔ ¬r.Misaddressed ∧ ¬s.Refuses r ∧ (failed = true ∨ r.Oversized) := by
  cases h with
  | failed hm hr hfailed => exact iff_of_true rfl ⟨hm, hr, hfailed⟩
  | misaddressed hm _ => exact iff_of_false nofun fun hall => hall.1 hm
  | refused _ hr => exact iff_of_false nofun fun hall => hall.2.1 hr
  | served _ _ ho => exact iff_of_false nofun fun hall => hall.2.2.elim nofun ho

theorem Ends.internal (h : s.Ends r kind failed) : kind ≠ some .internal := by
  cases h <;> exact nofun

/-! ## Requests one by one -/

/-- That the files failed is told as such. -/
theorem errorKind?_of_storage {e : BrokerError} (h : OfStorage e) :
    (Response.telling (.error e)).errorKind? = some .storageFailure := by
  obtain ⟨fault, rfl⟩ := h
  rfl

theorem Checked.ends (h : Checked s d name result s' d' failed) : s.Ends (.check name) (Response.telling result).errorKind? failed := by
  cases h with
  | nothing hfound =>
    obtain ⟨-, -, -, rfl, -⟩ := hfound.nothing
    exact .served id id id
  | asked hfound _ =>
    obtain ⟨-, -, -, rfl, -⟩ := hfound.exists_entered
    exact .served id id id
  | failed hfound =>
    obtain ⟨-, -, he, rfl⟩ := hfound.error
    rw [errorKind?_of_storage he]
    exact .failed id id (Or.inl rfl)

theorem Received.ends (h : Received s d name result failed) : s.Ends (.receive name) (Response.telling result).errorKind? failed := by
  cases h with
  | nothing hfound =>
    obtain ⟨hlookup, -, -, rfl, -⟩ := hfound.nothing
    exact .served id (not_closedFor_of_lookup hlookup) id
  | failed hfound =>
    obtain ⟨hlookup, -, he, rfl⟩ := hfound.error
    rw [errorKind?_of_storage he]
    exact .failed id (not_closedFor_of_lookup hlookup) (Or.inl rfl)
  | taken hfound hentered htakes =>
    obtain ⟨q, hentered', -, -, hclosed⟩ := hfound.exists_entered
    obtain rfl := Option.some.inj (hentered'.2.symm.trans hentered.2)
    have hserves (hopen : q.isClosed = false) : ¬s.Refuses (.receive name) := by
      change ¬s.ClosedFor name
      rw [hclosed, hopen]
      exact Bool.false_ne_true
    cases htakes with
    | refused hq => exact .refused id (hclosed.2 hq)
    | nothing hopen _ => exact .served id (hserves hopen) id
    | message hopen _ _ => exact .served id (hserves hopen) id
    | failed hopen _ he =>
      change s.Ends _ (Response.telling (.error _)).errorKind? true
      rw [errorKind?_of_storage he]
      exact .failed id (hserves hopen) (Or.inl rfl)

theorem Sent.ends (h : Sent s m result failed) : s.Ends (.send m) (Response.telling result).errorKind? failed := by
  cases h with
  | failed hfound =>
    cases hfound with
    | unnamed hlookup hfault =>
      have hname : Destination.fault? m.destination ≠ none := by rw [hfault]; exact nofun
      exact .misaddressed (Request.misaddressed_send_iff.2 hname) fun hr => not_closedFor_of_lookup hlookup hr.1
    | opened hlookup hvalid hopened =>
      cases hopened with
      | failed he =>
        rw [errorKind?_of_storage he]
        exact .failed (fun hm => Request.misaddressed_send_iff.1 hm hvalid) (fun hr => not_closedFor_of_lookup hlookup hr.1) (Or.inl rfl)
  | put hfound hentered hputs =>
    obtain ⟨q, hentered', hvalid, -, hclosed⟩ := hfound.exists_entered
    obtain rfl := Option.some.inj (hentered'.2.symm.trans hentered.2)
    have hname : ¬(Request.send m).Misaddressed := fun hm => Request.misaddressed_send_iff.1 hm hvalid
    have hserves (hopen : q.isClosed = false) : ¬s.Refuses (.send m) := by
      rintro ⟨hr, -⟩
      rw [hclosed, hopen] at hr
      exact Bool.false_ne_true hr
    cases hputs with
    | oversized hlong => exact .failed hname (fun hr => Nat.not_le_of_lt hlong hr.2) (Or.inr hlong)
    | refused hfits hq => exact .refused hname ⟨hclosed.2 hq, hfits⟩
    | done hfits hopen => exact .served hname (hserves hopen) (Nat.not_lt_of_le hfits)
    | failed _ hopen he =>
      change s.Ends _ (Response.telling (.error _)).errorKind? true
      rw [errorKind?_of_storage he]
      exact .failed hname (hserves hopen) (Or.inl rfl)

theorem Checked.unnamed (h : Checked s d name result s' d' failed) (hname : Destination.fault? name ≠ none) :
    result = .ok (.available false) := by
  cases h with
  | nothing _ => rfl
  | asked hfound _ => exact absurd hfound.exists_entered.choose_spec.2.1 hname
  | failed hfound => exact absurd hfound.error.2.1 hname

theorem Received.unnamed (h : Received s d name result failed) (hname : Destination.fault? name ≠ none) : result = .ok .empty := by
  cases h with
  | nothing _ => rfl
  | taken hfound _ _ => exact absurd hfound.exists_entered.choose_spec.2.1 hname
  | failed hfound => exact absurd hfound.error.2.1 hname

/-- What is answered to a request tells what came of it. -/
theorem Watches.handle {Q : Response → Shared → Disk → Bool → Prop}
    (h : Watches r.attempt s d failed fun result s' d' failed' => Q (.telling result) s' d' failed') : Watches r.handle s d failed Q := by
  refine .bind (h.mono fun result _ _ _ hq => ?_)
  cases result with
  | ok response => exact .pure hq
  | error e => exact .pure hq

theorem Ends.explains {response : Response} (h : s.Ends r response.errorKind? failed)
    (hcheck : ∀ name, r = .check name → Destination.fault? name ≠ none → response = .available false)
    (hreceive : ∀ name, r = .receive name → Destination.fault? name ≠ none → response = .empty) : s.Explains r failed response :=
  ⟨h.invalidDestination, h.illegalState, h.storageFailure, h.internal, hcheck, hreceive⟩

/-- Whatever operations on files are answered, the answer to a request tells how it ended. -/
theorem Orderly.watches_handle (h : s.Orderly storage) (r : Request) (d : Disk) :
    Watches r.handle s d false fun response _ _ failed => s.Explains r failed response := by
  have hattempt : Watches r.attempt s d false fun result _ _ failed => s.Explains r failed (.telling result) := by
    cases r with
    | send m => exact (h.watches_handleSend m d).mono fun _ _ _ _ hsent => hsent.ends.explains nofun nofun
    | check name =>
      refine (h.watches_handleCheck name d).mono fun _ _ _ _ hchecked => hchecked.ends.explains ?_ nofun
      rintro _ ⟨⟩ hname
      rw [hchecked.unnamed hname, Response.telling]
    | receive name =>
      refine (h.watches_handleReceive name d).mono fun _ _ _ _ hreceived => hreceived.ends.explains nofun ?_
      rintro _ ⟨⟩ hname
      rw [hreceived.unnamed hname, Response.telling]
  exact .handle hattempt

end Shared

/-- What a program comes to on a disk that keeps its promises is one of the things that it may come to. -/
theorem Store.runs_run (p : RegistryProgram α) (s : Store) :
    (Shared.execute p s.shared).Runs (FileOp.Answers True) s.disk ((s.run p).1, (s.run p).2.shared) (s.run p).2.disk := by
  refine (Store.run_eq_iff.1 rfl).mono fun op d reply d' hperform => ?_
  have hanswers := FileOp.answers_perform op d
  rwa [hperform] at hanswers

namespace Traffic

variable {durable : Bool} {files : Openings} {t : Traffic} {s' : Shared} {r : Request} {response : Response}

/-- Whatever requests there were before, whatever became of the files and whichever operations fail, the answer to a request tells why
it failed, if it did. -/
theorem failures_told (h : Reached storage durable files t)
    (hr : (Shared.execute r.handle t.store.shared).Runs FileOp.Watched (t.store.disk, false) (response, s') (d', failed)) :
    t.store.shared.Explains r failed response :=
  (h.separate.orderly.watches_handle r t.store.disk).of_runs hr

/-- A directory with the log of a destination, in which there is a message, and with a full device as its checkpoint file. -/
def fullDisk : Disk :=
  let (log, d) := (Disk.empty "home").create ["home", "q"]
  ((d.append log (Log.recordOf emptyMessage.bytes)).2.makeLink "q-checkpoint" "/dev/full").2

/-- That the message is taken cannot be written down, and this is what is told. -/
theorem failures_told_full :
    ((Store.begin "" false fullDisk).run (Request.receive "q").handle).1.errorKind? = some .storageFailure ∧
      (Store.begin "" false fullDisk).shared.Explains (.receive "q") true
        ((Store.begin "" false fullDisk).run (Request.receive "q").handle).1 := by
  have hkind : ((Store.begin "" false fullDisk).run (Request.receive "q").handle).1.errorKind? = some .storageFailure := by
    decide +kernel
  obtain ⟨failed, hwatched⟩ := FileProgram.exists_watched
    (Store.runs_run (Request.receive "q").handle (Store.begin "" false fullDisk)) false
  have hexplains := failures_told (.start fullDisk) hwatched
  obtain ⟨-, -, rfl | hlong⟩ := hexplains.storageFailure.1 hkind
  · exact ⟨hkind, hexplains⟩
  · exact hlong.elim

end Traffic

end QueueBroker

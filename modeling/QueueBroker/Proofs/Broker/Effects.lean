import QueueBroker.Proofs.Broker.Isolation
import QueueBroker.Proofs.Queue.Failure

/-!
# What a step on the registry does

`Shared.Effect` says, for every step on the registry, what it makes of the queues and the entries when any operation on files may fail.
`Store.Grounded` is what all queues know of the disk at any moment, whatever calls there are: each goes by the paths of its destination,
and has the files open that these lead to.
-/

namespace QueueBroker

open FileOp DurableQueue

variable {storage name : String} {id : QueueId} {q q' : DurableQueue} {d d' : Disk}

/-- What may be done with a queue by somebody who has it. -/
def RegistryOp.IsUse : RegistryOp → Prop
  | lockQueue _ | unlockQueue _ | isClosed _ | isEmpty _ | enqueue _ _ | dequeue _ | close _ => True
  | _ => False

namespace Shared

variable {s s' : Shared}

/-- Whether a queue is open, and for which name. -/
def Active (s : Shared) (id : QueueId) (name : String) : Prop :=
  ∃ q, s.queues[id]? = some q ∧ q.name = name ∧ q.isClosed = false

/-- What work on a queue makes of it: a queue of the same name, which is not open if it was closed. -/
def Alters (s : Shared) (id : QueueId) (s' : Shared) : Prop :=
  ∃ q q', s.queues[id]? = some q ∧ q'.name = q.name ∧ (q.isClosed = true → q'.isClosed = true) ∧
    s' = { s with queues := s.queues.set id q' }

/-- What a step makes of what is shared, when it is answered so. -/
def Effect (s : Shared) : (op : RegistryOp) → op.Reply → Shared → Prop
  | .lookup name, reply, s' => s' = s ∧ reply = s.registry.lookup name
  | .hasLog _, _, s' => s' = s
  | .lockOpening, _, s' => s' = { s with opening := true }
  | .unlockOpening, _, s' => s' = { s with opening := false }
  | .makeStorage, _, s' => s' = s
  | .openQueue _, .error _, s' => s' = s
  | .openQueue name, .ok id, s' =>
    id = s.queues.length ∧ ∃ q : DurableQueue, q.name = name ∧ s' = { s with queues := s.queues ++ [q] }
  | .insert name id, _, s' => s' = { s with registry := s.registry.insert name id }
  | .entries, reply, s' => s' = s ∧ reply = s.registry.entries
  | .clear, _, s' => s' = { s with registry := s.registry.clear }
  | .lockQueue id, _, s' => s' = { s with busy := id :: s.busy }
  | .unlockQueue id, _, s' => s' = { s with busy := s.busy.erase id }
  | .isClosed id, reply, s' => s' = s ∧ reply = (s.queues[id]?).all (·.isClosed)
  | .isEmpty _, _, s' => s' = s
  | .enqueue id _, _, s' => s' = s ∨ s.Alters id s'
  | .dequeue id, _, s' => s' = s ∨ s.Alters id s'
  | .close id, _, s' => (s' = s ∨ s.Alters id s') ∧ ∀ name, ¬s'.Active id name

theorem Alters.active (h : s.Alters id s') {other : QueueId} (ha : s'.Active other name) : s.Active other name := by
  obtain ⟨q, q', hq, hname, hclosed, rfl⟩ := h
  obtain ⟨q₁, hq₁, rfl, hopen⟩ := ha
  by_cases heq : id = other
  · subst heq
    rw [List.getElem?_set_self (List.getElem?_eq_some_iff.1 hq).1] at hq₁
    cases hq₁
    refine ⟨q, hq, hname.symm, ?_⟩
    rw [← Bool.not_eq_true] at hopen ⊢
    exact fun h => hopen (hclosed h)
  · rw [List.getElem?_set_ne heq] at hq₁
    exact ⟨q₁, hq₁, rfl, hopen⟩

theorem active_append_iff {other : QueueId} :
    Active { s with queues := s.queues ++ [q] } other name ↔
      s.Active other name ∨ other = s.queues.length ∧ q.name = name ∧ q.isClosed = false := by
  constructor
  · rintro ⟨q₁, hq₁, hname, hopen⟩
    rw [List.getElem?_append] at hq₁
    split at hq₁
    · exact Or.inl ⟨q₁, hq₁, hname, hopen⟩
    · rename_i hge
      obtain ⟨hlt, heq⟩ := List.getElem?_eq_some_iff.1 hq₁
      have hother : other = s.queues.length :=
        Nat.le_antisymm (Nat.sub_eq_zero_iff_le.1 (Nat.lt_one_iff.1 hlt)) (Nat.le_of_not_lt hge)
      rw [List.getElem_singleton] at heq
      exact Or.inr ⟨hother, heq ▸ hname, heq ▸ hopen⟩
  · rintro (⟨q₁, hq₁, hname, hopen⟩ | ⟨rfl, hname, hopen⟩)
    · exact ⟨q₁, (List.getElem?_append_left (List.getElem?_eq_some_iff.1 hq₁).1).trans hq₁, hname, hopen⟩
    · exact ⟨q, List.getElem?_concat_length, hname, hopen⟩

/-- Entries and locks are as they were, no queue was added, and none is open that was not. -/
structure Leaves (s s' : Shared) : Prop where
  registry : s'.registry = s.registry
  opening : s'.opening = s.opening
  length : s'.queues.length = s.queues.length
  active : ∀ id name, s'.Active id name → s.Active id name

theorem Leaves.refl (s : Shared) : s.Leaves s :=
  ⟨rfl, rfl, rfl, fun _ _ ha => ha⟩

theorem Alters.leaves (h : s.Alters id s') : s.Leaves s' := by
  have hactive (other : QueueId) (name : String) (ha : s'.Active other name) : s.Active other name := h.active ha
  obtain ⟨_, _, -, -, -, rfl⟩ := h
  exact ⟨rfl, rfl, List.length_set, hactive⟩

/-- What may be done with a queue by somebody who has it opens no queue and leaves entries and locks. -/
theorem Effect.leaves {op : RegistryOp} {reply : op.Reply} (h : s.Effect op reply s') (huse : op.IsUse) : s.Leaves s' := by
  have hworked {id : QueueId} (h : s' = s ∨ s.Alters id s') : s.Leaves s' := by
    rcases h with rfl | halters
    · exact .refl s'
    · exact halters.leaves
  cases op with
  | isClosed id =>
    obtain ⟨rfl, -⟩ := h
    exact .refl s'
  | isEmpty id | lockQueue id | unlockQueue id =>
    obtain rfl := h
    exact ⟨rfl, rfl, rfl, fun _ _ ha => ha⟩
  | enqueue id m | dequeue id => exact hworked h
  | close id => exact hworked h.1
  | _ => exact huse.elim

end Shared

/-! ## What queues know of the disk -/

namespace DurableQueue

theorem Tracked.grows (h : q.Tracked False d) (hgrows : d.Grows d') : q.Tracked False d' := by
  intro files hfiles
  have hq := h files hfiles
  exact ⟨hgrows.tree, hq.log.mono hgrows.entries, hq.checkpoint.mono hgrows.entries, fun hsole => hsole.elim⟩

/-- What a queue has open is what the paths of its destination lead to. -/
theorem Tracked.of_mem_held {sole : Prop} (h : q.Tracked sole d) {path : String} {file : Handle} (hmem : (path, file) ∈ q.held) :
    q.isClosed = false ∧ (path = q.logPath ∨ path = q.checkpointPath) ∧ d.Opens path file := by
  rw [held] at hmem
  cases hfiles : q.files with
  | none =>
    rw [hfiles] at hmem
    cases hmem
  | some files =>
    rw [hfiles] at hmem
    have hopen : q.isClosed = false := by
      rw [isClosed, hfiles]
      rfl
    rcases List.mem_cons.1 hmem with heq | hmem
    · cases heq
      exact ⟨hopen, Or.inl rfl, (h files hfiles).log⟩
    · cases List.mem_singleton.1 hmem
      exact ⟨hopen, Or.inr rfl, (h files hfiles).checkpoint⟩

/-- Open queues of one destination have the same files open. -/
theorem Tracked.held_eq {sole : Prop} (h : q.Tracked sole d) (h' : q'.Tracked sole d) (hstorage : q.storage = q'.storage)
    (hname : q.name = q'.name) (hopen : q.isClosed = false) (hopen' : q'.isClosed = false) : q.held = q'.held := by
  obtain ⟨files, hfiles⟩ := Option.isSome_iff_exists.1 (Option.isNone_eq_false_iff.1 hopen)
  obtain ⟨files', hfiles'⟩ := Option.isSome_iff_exists.1 (Option.isNone_eq_false_iff.1 hopen')
  have hlog : q.logPath = q'.logPath := by rw [logPath, logPath, hstorage, hname]
  have hcheckpoint : q.checkpointPath = q'.checkpointPath := by rw [checkpointPath, checkpointPath, hstorage, hname]
  have hsame : files.log = files'.log := (hlog ▸ (h files hfiles).log).unique (h' files' hfiles').log
  have hsame' : files.checkpoint = files'.checkpoint := (hcheckpoint ▸ (h files hfiles).checkpoint).unique (h' files' hfiles').checkpoint
  simp only [held, hfiles, hfiles', hlog, hcheckpoint, hsame, hsame']

/-- Whatever is done with a queue is done within the scope of its destination. -/
theorem confined_use (hvalid : Destination.fault? q.name = none) (u : Use) :
    FileProgram.Confined (scopeOf q.storage q.name) (q.use u) q.held fun r files => q.Becomes r.2 files := by
  cases u with
  | enqueue m =>
    refine Program.Guarded.bind ((confined_enqueue hvalid (List.Subset.refl _) m).mono fun _ _ h => ?_)
    exact Program.Guarded.pure h
  | dequeue => exact confined_dequeue hvalid (List.Subset.refl _)
  | close =>
    refine Program.Guarded.bind ((confined_close hvalid (List.Subset.refl _)).mono fun _ _ h => ?_)
    exact Program.Guarded.pure h

/-- Whatever is done with a queue leaves the bytes alone to which a path leads that is apart from its scope. -/
theorem Tracked.use_leaves {sole : Prop} (h : q.Tracked sole d) (hvalid : Destination.fault? q.name = none) {u : Use}
    {r : Except BrokerError (Option Message) × DurableQueue} (hr : (q.use u).Runs (FileOp.Answers True) d r d') {path : String}
    (hapart : d.Apart (scopeOf q.storage q.name) q.held path) (bytes : Bytes) :
    d'.contentsAt path = .ok bytes ↔ d.contentsAt path = .ok bytes := by
  cases hfiles : q.files with
  | none =>
    rw [use_of_closed hfiles] at hr
    rw [(Program.runs_pure_iff.1 hr).2]
  | some files =>
    have hfolders : ∀ path, (scopeOf q.storage q.name).folders path → ∃ place, d.LeadsTo path place := by
      rintro _ ⟨-, rfl⟩
      obtain ⟨_, _, hnode, -⟩ := (h files hfiles).log
      exact Disk.exists_leadsTo_of_resolve (Destination.valid_of_fault? hvalid).isFileName_logName hnode
    obtain ⟨files', hnoted⟩ := FileProgram.exists_noted hr q.held
    exact (((confined_use hvalid u).leaves hfolders hnoted).2 path hapart).2 bytes

end DurableQueue

namespace Store

/-- The queues of a store were opened for valid destinations in its directory, and have open what their paths lead to. -/
structure Grounded (storage : String) (s : Store) : Prop where
  tree : s.disk.IsTree
  directory : s.shared.registry.storage = storage
  queues : ∀ q ∈ s.shared.queues, Destination.fault? q.name = none ∧ q.storage = storage ∧ q.Tracked False s.disk

theorem grounded_begin (ht : d.IsTree) (storage : String) (durable : Bool) : (Store.begin storage durable d).Grounded storage :=
  ⟨ht, rfl, fun _ hq => absurd hq List.not_mem_nil⟩

variable {s s' : Store} {op : RegistryOp} {reply : op.Reply}

/-- A step that opens no queue and works on none. -/
theorem Grounded.of_same (h : s.Grounded storage) (hgrows : s.disk.Grows s'.disk) (hqueues : s'.shared.queues = s.shared.queues)
    (hdirectory : s'.shared.registry.storage = s.shared.registry.storage) : s'.Grounded storage := by
  refine ⟨hgrows.tree, hdirectory.trans h.directory, fun q hq => ?_⟩
  rw [hqueues] at hq
  obtain ⟨hvalid, hstorage, htracked⟩ := h.queues q hq
  exact ⟨hvalid, hstorage, htracked.grows hgrows⟩

/-- What work on a queue comes to: nothing if the queue was never opened, and else what the queue makes of it. -/
theorem Grounded.onQueue (h : s.Grounded storage) {α : Type} {missing result : Except BrokerError α}
    {work : DurableQueue → FileProgram (Except BrokerError α × DurableQueue)}
    (hserved : ∀ q q' d', q.Tracked False s.disk → (work q).Runs (FileOp.Answers True) s.disk (result, q') d' →
      q.Served False s.disk result q' d')
    (hr : (s.shared.onQueue id missing work).Runs (FileOp.Answers True) s.disk (result, s'.shared) s'.disk) :
    s'.Grounded storage ∧ (s.shared.queues[id]? = none ∧ s'.shared = s.shared ∨
      s.shared.Alters id s'.shared ∧ ∃ q q', s.shared.queues[id]? = some q ∧ s'.shared.queues[id]? = some q' ∧
        (work q).Runs (FileOp.Answers True) s.disk (result, q') s'.disk) := by
  have hgrows := FileProgram.grows h.tree hr
  rw [Shared.onQueue] at hr
  cases hq : s.shared.queues[id]? with
  | none =>
    rw [hq] at hr
    have hsame := (Prod.mk.inj (Program.runs_pure_iff.1 hr).1).2
    exact ⟨h.of_same hgrows (by rw [hsame]) (by rw [hsame]), Or.inl ⟨rfl, hsame⟩⟩
  | some q =>
    rw [hq] at hr
    obtain ⟨⟨result', q'⟩, d₁, hwork, hr⟩ := Program.runs_bind_iff.1 hr
    obtain ⟨heq, rfl⟩ := Program.runs_pure_iff.1 hr
    obtain ⟨rfl, hshared⟩ := Prod.mk.inj heq
    obtain ⟨hvalid, hstorage, htracked⟩ := h.queues q (List.mem_of_getElem? hq)
    have hs := hserved q q' s'.disk htracked hwork
    have hset : s'.shared.queues[id]? = some q' := by
      rw [hshared]
      exact List.getElem?_set_self (List.getElem?_eq_some_iff.1 hq).1
    refine ⟨⟨hgrows.tree, ?_, fun q₁ hq₁ => ?_⟩, Or.inr ⟨⟨q, q', hq, hs.same.name, fun hclosed => ?_, hshared⟩, q, q', rfl, hset, hwork⟩⟩
    · rw [hshared]
      exact h.directory
    · rw [hshared] at hq₁
      rcases List.mem_or_eq_of_mem_set hq₁ with hq₁ | rfl
      · obtain ⟨hvalid₁, hstorage₁, htracked₁⟩ := h.queues q₁ hq₁
        exact ⟨hvalid₁, hstorage₁, htracked₁.grows hgrows⟩
      · rw [hs.same.name, hs.same.storage]
        exact ⟨hvalid, hstorage, hs.tracked⟩
    · rw [hs.closed (Option.isNone_iff_eq_none.1 hclosed)]
      exact hclosed

/-- Opening a queue adds one of its name, or nothing. -/
theorem Grounded.openQueue (h : s.Grounded storage) {result : Except BrokerError QueueId}
    (hr : (s.shared.openQueue name).Runs (FileOp.Answers True) s.disk (result, s'.shared) s'.disk) :
    s.shared.Effect (.openQueue name) result s'.shared ∧ s'.Grounded storage := by
  have hgrows := FileProgram.grows h.tree hr
  obtain ⟨opened, d₁, hopen, hr⟩ := Program.runs_bind_iff.1 hr
  cases opened with
  | error e =>
    obtain ⟨heq, rfl⟩ := Program.runs_pure_iff.1 hr
    obtain ⟨rfl, hsame⟩ := Prod.mk.inj heq
    exact ⟨hsame, h.of_same hgrows (by rw [hsame]) (by rw [hsame])⟩
  | ok q =>
    obtain ⟨heq, rfl⟩ := Program.runs_pure_iff.1 hr
    obtain ⟨rfl, hshared⟩ := Prod.mk.inj heq
    have htracked : q.Tracked False s'.disk := FileAttempt.attains_true_iff.1 (attains_openIn_tracked h.tree _ _ _) _ _ hopen
    obtain ⟨files, hnoted⟩ := FileProgram.exists_noted hopen []
    obtain ⟨-, hconfined⟩ := FileProgram.Confined.of_runs (confined_openIn name s.shared.registry.storage s.shared.registry.durable) hnoted
    obtain ⟨hvalid, rfl, hstorage, -⟩ := hconfined q rfl
    refine ⟨⟨rfl, q, rfl, hshared⟩, hgrows.tree, ?_, fun q₁ hq₁ => ?_⟩
    · rw [hshared]
      exact h.directory
    · rw [hshared] at hq₁
      rcases List.mem_append.1 hq₁ with hq₁ | hq₁
      · obtain ⟨hvalid₁, hstorage₁, htracked₁⟩ := h.queues q₁ hq₁
        exact ⟨hvalid₁, hstorage₁, htracked₁.grows hgrows⟩
      · obtain rfl := List.mem_singleton.1 hq₁
        exact ⟨hvalid, hstorage.trans h.directory, htracked⟩

/-- Whatever operations on files are answered, a step does what it should to what is shared, and leaves the queues their files. -/
theorem Grounded.step (h : s.Grounded storage) (hans : Answers (FileOp.Answers True) op s reply s') :
    s.shared.Effect op reply s'.shared ∧ s'.Grounded storage := by
  have hgrows := FileProgram.grows h.tree hans
  have hpure {α : Type} {a b : α} {shared : Shared} {d d' : Disk}
      (hr : Program.Runs (FileOp.Answers True) (pure (a, shared)) d (b, s'.shared) d') : b = a ∧ s'.shared = shared :=
    Prod.mk.inj (Program.runs_pure_iff.1 hr).1
  cases op with
  | openQueue name => exact h.openQueue hans
  | hasLog name | makeStorage =>
    obtain ⟨_, _, -, hr⟩ := Program.runs_bind_iff.1 hans
    obtain ⟨-, hsame⟩ := hpure hr
    exact ⟨hsame, h.of_same hgrows (by rw [hsame]) (by rw [hsame])⟩
  | lookup name | entries | isClosed id =>
    obtain ⟨hreply, hsame⟩ := hpure hans
    exact ⟨⟨hsame, hreply⟩, h.of_same hgrows (by rw [hsame]) (by rw [hsame])⟩
  | lockOpening | unlockOpening | lockQueue id | unlockQueue id | isEmpty id =>
    obtain ⟨-, hsame⟩ := hpure hans
    exact ⟨hsame, h.of_same hgrows (by rw [hsame]) (by rw [hsame])⟩
  | insert name id | clear =>
    obtain ⟨-, hsame⟩ := hpure hans
    exact ⟨hsame, h.of_same hgrows (by rw [hsame]) (by rw [hsame]; rfl)⟩
  | enqueue id m =>
    obtain ⟨hgrounded, ⟨-, hsame⟩ | ⟨halters, -⟩⟩ := h.onQueue (fun _ _ _ ht hr => ht.served_enqueue hr) hans
    · exact ⟨Or.inl hsame, hgrounded⟩
    · exact ⟨Or.inr halters, hgrounded⟩
  | dequeue id =>
    obtain ⟨hgrounded, ⟨-, hsame⟩ | ⟨halters, -⟩⟩ := h.onQueue (fun _ _ _ ht hr => ht.served_dequeue hr) hans
    · exact ⟨Or.inl hsame, hgrounded⟩
    · exact ⟨Or.inr halters, hgrounded⟩
  | close id =>
    obtain ⟨hgrounded, ⟨hnone, hsame⟩ | ⟨halters, q, q', -, hq', hclose⟩⟩ := h.onQueue (fun _ _ _ _ hr => served_close hr) hans
    · refine ⟨⟨Or.inl hsame, ?_⟩, hgrounded⟩
      rintro name ⟨q, hq, -, -⟩
      rw [hsame, hnone] at hq
      cases hq
    · refine ⟨⟨Or.inr halters, ?_⟩, hgrounded⟩
      rintro name ⟨q₁, hq₁, -, hopen⟩
      obtain rfl := Option.some.inj (hq'.symm.trans hq₁)
      rw [closed_of_runs_close hclose] at hopen
      cases hopen

end Store

end QueueBroker

import QueueBroker.Proofs.Broker.Traffic
import QueueBroker.Proofs.Queue.Confinement

/-!
# Requests on different destinations

A request asks for steps on its own destination only, and each of these stays within the scope of that destination: `KeepsTo` says
the first, `Orderly.confined_perform` the second. So whatever the files hold and whichever operations fail, all other destinations
stay as they are, as far as no link leads from one to another.
-/

namespace QueueBroker

open DurableQueue

variable {α β : Type} {name other storage : String} {known known' : List QueueId} {op : RegistryOp} {files files' : Openings}
  {s s' s'' : Shared} {q q' : DurableQueue} {id : QueueId}

/-! ## Steps for a destination -/

namespace RegistryOp

/-- Whether a step is one for a destination: by its name, or on a queue that is known to be its. -/
def For (name : String) (known : List QueueId) : RegistryOp → Prop
  | lookup other => other = name
  | hasLog other => other = name ∧ Destination.fault? name = none
  | lockOpening => True
  | unlockOpening => True
  | makeStorage => Destination.fault? name = none
  | openQueue other => other = name
  | insert other id => other = name ∧ id ∈ known
  | lockQueue id => id ∈ known
  | unlockQueue id => id ∈ known
  | isEmpty id => id ∈ known
  | enqueue id _ => id ∈ known
  | dequeue id => id ∈ known
  | entries => False
  | clear => False
  | isClosed _ => False
  | close _ => False

/-- The queue that a step tells of, if there is one. -/
def tells : (op : RegistryOp) → op.Reply → List QueueId
  | lookup _, reply => reply.toList
  | openQueue _, reply => reply.toOption.toList
  | _, _ => []

end RegistryOp

namespace RegistryProgram

variable {Q : α → List QueueId → Prop}

/-- Whatever it is answered, a program makes only steps for a destination, and ends with a result and known queues that satisfy `Q`. -/
def KeepsTo (name : String) (p : RegistryProgram α) (known : List QueueId) (Q : α → List QueueId → Prop) : Prop :=
  p.Guarded (fun known op => op.For name known) (fun known op reply known' => known' = op.tells reply ++ known) known Q

theorem KeepsTo.pure {a : α} (h : Q a known) : KeepsTo name (pure a) known Q :=
  h

theorem KeepsTo.mono {p : RegistryProgram α} {R : α → List QueueId → Prop} (h : KeepsTo name p known R)
    (hsub : ∀ a known', R a known' → Q a known') : KeepsTo name p known Q :=
  Program.Guarded.mono h hsub

theorem KeepsTo.bind {p : RegistryProgram β} {f : β → RegistryProgram α}
    (h : KeepsTo name p known fun b known' => KeepsTo name (f b) known' Q) : KeepsTo name (p >>= f) known Q :=
  Program.Guarded.bind h

theorem KeepsTo.request {Q : op.Reply → List QueueId → Prop} (hop : op.For name known)
    (h : ∀ reply, Q reply (op.tells reply ++ known)) : KeepsTo name (Program.request op) known Q :=
  Program.Guarded.request hop fun reply _ hknown => hknown ▸ h reply

theorem KeepsTo.whileOpening {p : RegistryProgram α} (h : KeepsTo name p known Q) :
    KeepsTo name (Registry.whileOpening p) known Q :=
  .bind (.request trivial fun _ => .bind (h.mono fun _ _ hq => .bind (.request trivial fun _ => .pure hq)))

/-- What is done to a queue that is known, while nobody else works on it. -/
theorem KeepsTo.whileHolding (hop : op.For name known) (hid : id ∈ known) :
    KeepsTo name (Registry.whileHolding id (Program.request op)) known fun _ _ => True := by
  refine .bind (.request hid fun _ => .bind (.request hop fun reply => ?_))
  exact .bind (.request (List.mem_append_right _ hid) fun _ => .pure trivial)

theorem keepsTo_openAndInsert (name : String) (known : List QueueId) :
    KeepsTo name (Registry.openAndInsert name) known fun r known' => ∀ id, r = .ok id → id ∈ known' := by
  refine .bind (.request rfl fun reply => ?_)
  cases reply with
  | error e => exact .pure (by simp)
  | ok id =>
    refine .bind (.request ⟨rfl, List.mem_cons_self⟩ fun _ => .pure fun id' heq => ?_)
    exact Except.ok.inj heq ▸ List.mem_cons_self

/-- The queue that is found or made for a destination is known. -/
theorem keepsTo_getOrCreate (name : String) (known : List QueueId) :
    KeepsTo name (Registry.getOrCreate name) known fun r known' => ∀ id, r = .ok id → id ∈ known' := by
  refine .bind (.request rfl fun reply => ?_)
  cases reply with
  | some id => exact .pure fun id' heq => Except.ok.inj heq ▸ List.mem_cons_self
  | none =>
    dsimp only
    rw [Destination.validate]
    cases hvalid : Destination.fault? name with
    | some fault => exact .pure (by simp)
    | none =>
      refine .whileOpening (.bind (.request rfl fun reply => ?_))
      cases reply with
      | some id => exact .pure fun id' heq => Except.ok.inj heq ▸ List.mem_cons_self
      | none =>
        refine .bind (.request hvalid fun made => ?_)
        cases made with
        | error e => exact .pure (by simp)
        | ok _ => exact keepsTo_openAndInsert name _

/-- The queue that is found for a destination is known. -/
theorem keepsTo_get (name : String) (known : List QueueId) :
    KeepsTo name (Registry.get name) known fun r known' => ∀ id, r = .ok (some id) → id ∈ known' := by
  refine .bind (.request rfl fun reply => ?_)
  cases reply with
  | some id => exact .pure fun id' heq => Option.some.inj (Except.ok.inj heq) ▸ List.mem_cons_self
  | none =>
    dsimp only
    rw [Destination.validate]
    cases hvalid : Destination.fault? name with
    | some fault => exact .pure (by simp)
    | none =>
      refine .bind (.request ⟨rfl, hvalid⟩ fun found => ?_)
      cases found with
      | error e => exact .pure (by simp)
      | ok found =>
        cases found with
        | false => exact .pure (by simp)
        | true =>
          refine .whileOpening (.bind (.request rfl fun reply => ?_))
          cases reply with
          | some id => exact .pure fun id' heq => Option.some.inj (Except.ok.inj heq) ▸ List.mem_cons_self
          | none =>
            refine .bind ((keepsTo_openAndInsert name _).mono fun r known' hr => ?_)
            cases r with
            | error e => exact .pure (by simp)
            | ok id => exact .pure fun id' heq => Option.some.inj (Except.ok.inj heq) ▸ hr id rfl

theorem keepsTo_attempt (r : Request) : KeepsTo r.destination r.attempt [] fun _ _ => True := by
  cases r with
  | send m =>
    refine .bind ((keepsTo_getOrCreate m.destination []).mono fun found known hknown => ?_)
    cases found with
    | error e => exact .pure trivial
    | ok id =>
      have hput : (RegistryOp.enqueue id m).For m.destination known := hknown id rfl
      refine .bind ((KeepsTo.whileHolding hput hput).mono fun result _ _ => ?_)
      cases result with
      | error e => exact .pure trivial
      | ok _ => exact .pure trivial
  | check name =>
    refine .bind ((keepsTo_get name []).mono fun found known hknown => ?_)
    rcases found with e | _ | id
    · exact .pure trivial
    · exact .pure trivial
    · have hcheck : (RegistryOp.isEmpty id).For name known := hknown id rfl
      exact .bind ((KeepsTo.whileHolding hcheck hcheck).mono fun _ _ _ => .pure trivial)
  | receive name =>
    refine .bind ((keepsTo_get name []).mono fun found known hknown => ?_)
    rcases found with e | _ | id
    · exact .pure trivial
    · exact .pure trivial
    · have htake : (RegistryOp.dequeue id).For name known := hknown id rfl
      refine .bind ((KeepsTo.whileHolding htake htake).mono fun result _ _ => ?_)
      rcases result with e | _ | m
      · exact .pure trivial
      · exact .pure trivial
      · exact .pure trivial

/-- A request makes only steps for its destination. -/
theorem keepsTo_handle (r : Request) : KeepsTo r.destination r.handle [] fun _ _ => True := by
  refine .bind ((keepsTo_attempt r).mono fun result _ _ => ?_)
  cases result with
  | ok response => exact .pure trivial
  | error e => exact .pure trivial

end RegistryProgram

/-! ## What steps for a destination do -/

namespace Shared

/-- The open files of a destination, with their paths. -/
def held (s : Shared) (name : String) : Openings :=
  (s.queues.filter (·.name = name)).flatMap DurableQueue.held

/-- What a registry keeps: an entry stands for a queue of its name, and queues were opened for valid destinations in its directory. -/
structure Orderly (storage : String) (s : Shared) : Prop where
  directory : s.registry.storage = storage
  entries : ∀ name id, s.registry.lookup name = some id → s.Named id name
  queues : ∀ q ∈ s.queues, Destination.fault? q.name = none ∧ q.storage = storage

/-- All destinations but one have the entries and the queues that they had, these with the same messages and in the same state. -/
structure Untouched (name : String) (s s' : Shared) : Prop where
  lookup : ∀ other, other ≠ name → s'.registry.lookup other = s.registry.lookup other
  queues : ∀ (id : QueueId) (q : DurableQueue), q.name ≠ name → (s'.queues[id]? = some q ↔ s.queues[id]? = some q)

/-- What work for a destination makes of what is shared, with what is open then. -/
structure Works (storage name : String) (s s' : Shared) (files : Openings) : Prop where
  orderly : s'.Orderly storage
  untouched : s.Untouched name s'
  named : ∀ id other, s.Named id other → s'.Named id other
  held : s'.held name ⊆ files

theorem mem_held_iff {entry : String × Handle} : entry ∈ s.held name ↔ ∃ q ∈ s.queues, q.name = name ∧ entry ∈ q.held := by
  simp [held, and_assoc]

theorem Untouched.refl (name : String) (s : Shared) : s.Untouched name s :=
  ⟨fun _ _ => rfl, fun _ _ _ => Iff.rfl⟩

theorem Untouched.trans (h : s.Untouched name s') (h' : s'.Untouched name s'') : s.Untouched name s'' :=
  ⟨fun other hne => (h'.lookup other hne).trans (h.lookup other hne), fun id q hne => (h'.queues id q hne).trans (h.queues id q hne)⟩

theorem Untouched.held_subset (h : s.Untouched name s') (hne : other ≠ name) : s'.held other ⊆ s.held other := by
  intro entry hentry
  obtain ⟨q, hq, rfl, hheld⟩ := mem_held_iff.1 hentry
  obtain ⟨id, hid⟩ := List.mem_iff_getElem?.1 hq
  exact mem_held_iff.2 ⟨q, List.mem_of_getElem? ((h.queues id q hne).1 hid), rfl, hheld⟩

theorem Works.trans (h : s.Works storage name s' files) (h' : s'.Works storage name s'' files') : s.Works storage name s'' files' :=
  ⟨h'.orderly, h.untouched.trans h'.untouched, fun id other hid => h'.named id other (h.named id other hid), h'.held⟩

namespace Orderly

/-- Locks are nothing to any destination. -/
theorem works_locks (h : s.Orderly storage) (hheld : s.held name ⊆ files) (opening : Bool) (busy : List QueueId) :
    s.Works storage name { s with opening, busy } files :=
  ⟨⟨h.directory, h.entries, h.queues⟩, ⟨fun _ _ => rfl, fun _ _ _ => Iff.rfl⟩, fun _ _ hid => hid, hheld⟩

theorem works_insert (h : s.Orderly storage) (hheld : s.held name ⊆ files) (hid : s.Named id name) :
    s.Works storage name { s with registry := s.registry.insert name id } files := by
  refine ⟨⟨h.directory, fun other id' hlookup => ?_, h.queues⟩, ⟨fun other hne => Registry.lookup_insert_of_ne hne, fun _ _ _ => Iff.rfl⟩,
    fun _ _ hnamed => hnamed, hheld⟩
  by_cases hne : other = name
  · subst hne
    rw [Registry.lookup_insert_self] at hlookup
    exact Option.some.inj hlookup ▸ hid
  · rw [Registry.lookup_insert_of_ne hne] at hlookup
    exact h.entries other id' hlookup

/-- Opening a queue for a destination. -/
theorem works_append (h : s.Orderly storage) (hheld : s.held name ⊆ files) (hvalid : Destination.fault? name = none)
    (hname : q.name = name) (hstorage : q.storage = storage) (hq : q.held ⊆ files) :
    s.Works storage name { s with queues := s.queues ++ [q] } files ∧
      Shared.Named { s with queues := s.queues ++ [q] } s.queues.length name := by
  have hnamed : ∀ id other, s.Named id other → Shared.Named { s with queues := s.queues ++ [q] } id other := by
    intro id other hid
    obtain ⟨q₁, hq₁, hname₁⟩ := named_iff.1 hid
    refine named_iff.2 ⟨q₁, ?_, hname₁⟩
    exact (List.getElem?_append_left (List.getElem?_eq_some_iff.1 hq₁).1).trans hq₁
  refine ⟨⟨⟨h.directory, fun other id hlookup => hnamed _ _ (h.entries other id hlookup), fun q₁ hq₁ => ?_⟩,
    ⟨fun _ _ => rfl, fun id q₁ hne => ?_⟩, hnamed, fun entry hentry => ?_⟩, named_iff.2 ⟨q, List.getElem?_concat_length, hname⟩⟩
  · rcases List.mem_append.1 hq₁ with hq₁ | hq₁
    · exact h.queues q₁ hq₁
    · obtain rfl := List.mem_singleton.1 hq₁
      exact ⟨hname ▸ hvalid, hstorage⟩
  · rw [List.getElem?_append]
    split
    · exact Iff.rfl
    · rename_i hge
      rw [List.getElem?_eq_none (Nat.le_of_not_lt hge)]
      refine ⟨fun heq => ?_, nofun⟩
      obtain rfl := List.mem_singleton.1 (List.mem_of_getElem? heq)
      exact absurd hname hne
  · obtain ⟨q₁, hq₁, hname₁, hopen⟩ := mem_held_iff.1 hentry
    rcases List.mem_append.1 hq₁ with hq₁ | hq₁
    · exact hheld (mem_held_iff.2 ⟨q₁, hq₁, hname₁, hopen⟩)
    · obtain rfl := List.mem_singleton.1 hq₁
      exact hq hopen

/-- Working on a queue of a destination. -/
theorem works_set (h : s.Orderly storage) (hheld : s.held q.name ⊆ files) (hq : s.queues[id]? = some q) (hb : q.Becomes q' files) :
    s.Works storage q.name { s with queues := s.queues.set id q' } files := by
  have hset {q₁ : DurableQueue} (hq₁ : q₁ ∈ s.queues.set id q') : q₁ = q' ∨ q₁ ∈ s.queues := (List.mem_or_eq_of_mem_set hq₁).symm
  have hnames := names_set hq hb.name
  have hnamed : ∀ id' other, s.Named id' other → Shared.Named { s with queues := s.queues.set id q' } id' other := by
    intro id' other hid
    rw [Named, names, hnames]
    exact hid
  refine ⟨⟨h.directory, fun other id' hlookup => hnamed _ _ (h.entries other id' hlookup), fun q₁ hq₁ => ?_⟩,
    ⟨fun _ _ => rfl, fun id' q₁ hne => ?_⟩, hnamed, fun entry hentry => ?_⟩
  · rcases hset hq₁ with rfl | hq₁
    · rw [hb.name, hb.storage]
      exact h.queues q (List.mem_of_getElem? hq)
    · exact h.queues q₁ hq₁
  · by_cases hid : id = id'
    · subst hid
      rw [List.getElem?_set_self (List.getElem?_eq_some_iff.1 hq).1, hq]
      constructor
      · intro heq
        exact absurd (Option.some.inj heq ▸ hb.name) hne
      · intro heq
        exact absurd (Option.some.inj heq ▸ rfl) hne
    · rw [List.getElem?_set_ne hid]
  · obtain ⟨q₁, hq₁, hname₁, hopen⟩ := mem_held_iff.1 hentry
    rcases hset hq₁ with rfl | hq₁
    · exact hb.held hopen
    · exact hheld (mem_held_iff.2 ⟨q₁, hq₁, hname₁, hopen⟩)

/-- Nothing is done. -/
theorem works_same (h : s.Orderly storage) (hheld : s.held name ⊆ files) : s.Works storage name s files :=
  h.works_locks hheld s.opening s.busy

theorem confined_onQueue {α : Type} (h : s.Orderly storage) (hid : s.Named id name) (hheld : s.held name ⊆ files) (missing : α)
    {work : DurableQueue → FileProgram (α × DurableQueue)}
    (hwork : ∀ q ∈ s.queues, q.name = name → q.held ⊆ files → FileProgram.Confined (scopeOf q.storage q.name) (work q) files
      fun r files' => q.Becomes r.2 files') :
    FileProgram.Confined (scopeOf storage name) (s.onQueue id missing work) files fun r files' => s.Works storage name r.2 files' := by
  obtain ⟨q, hq, rfl⟩ := named_iff.1 hid
  have hmem := List.mem_of_getElem? hq
  have hconfined := hwork q hmem rfl fun entry hentry => hheld (mem_held_iff.2 ⟨q, hmem, rfl, hentry⟩)
  rw [(h.queues q hmem).2] at hconfined
  rw [onQueue, hq]
  refine Program.Guarded.bind (hconfined.grows.mono fun r files' hr => Program.Guarded.pure ?_)
  exact h.works_set (List.Subset.trans hheld hr.1) hq hr.2

/-- A step for a destination stays within its scope, whatever its operations on files are answered. -/
theorem confined_perform (h : s.Orderly storage) (hop : op.For name known) (hknown : ∀ id ∈ known, s.Named id name)
    (hheld : s.held name ⊆ files) :
    FileProgram.Confined (scopeOf storage name) (s.perform op) files fun r files' =>
      s.Works storage name r.2 files' ∧ ∀ id ∈ op.tells r.1, r.2.Named id name := by
  have hnone {s' : Shared} : ∀ id ∈ ([] : List QueueId), s'.Named id name := fun _ hid => absurd hid List.not_mem_nil
  cases op with
  | lookup other =>
    obtain rfl : other = name := hop
    refine Program.Guarded.pure ⟨h.works_same hheld, fun id hid => ?_⟩
    exact h.entries _ id (Option.mem_toList.1 hid)
  | hasLog other =>
    obtain ⟨rfl, hvalid⟩ := hop
    have hpath : (scopeOf storage other).paths (logPathOf s.registry.storage other) := ⟨hvalid, Or.inl (by rw [h.directory])⟩
    refine Program.Guarded.bind (Program.Guarded.mono (FileAttempt.confined_pathExists hpath).storage fun r files' hr => ?_)
    exact Program.Guarded.pure ⟨h.works_same (List.Subset.trans hheld hr.1), hnone⟩
  | lockOpening => exact Program.Guarded.pure ⟨h.works_locks hheld _ _, hnone⟩
  | unlockOpening => exact Program.Guarded.pure ⟨h.works_locks hheld _ _, hnone⟩
  | lockQueue id => exact Program.Guarded.pure ⟨h.works_locks hheld _ _, hnone⟩
  | unlockQueue id => exact Program.Guarded.pure ⟨h.works_locks hheld _ _, hnone⟩
  | isEmpty id => exact Program.Guarded.pure ⟨h.works_same hheld, hnone⟩
  | makeStorage =>
    have hfolder : (scopeOf storage name).folders s.registry.storage := ⟨hop, h.directory⟩
    refine Program.Guarded.bind (Program.Guarded.mono (FileAttempt.confined_makeDirectories hfolder).storage fun r files' hr => ?_)
    exact Program.Guarded.pure ⟨h.works_same (List.Subset.trans hheld hr.1), hnone⟩
  | openQueue other =>
    obtain rfl : other = name := hop
    have hopen : FileAttempt.Confined _ _ files _ := confined_openIn other storage s.registry.durable
    rw [perform, openQueue, h.directory]
    refine Program.Guarded.bind (Program.Guarded.mono hopen fun r files' hr => ?_)
    obtain ⟨hsub, hr⟩ := hr
    cases r with
    | error e => exact Program.Guarded.pure ⟨h.works_same (List.Subset.trans hheld hsub), hnone⟩
    | ok q =>
      obtain ⟨hvalid, hname, hstorage, hq⟩ := hr q rfl
      obtain ⟨hworks, hnamed⟩ := h.works_append (List.Subset.trans hheld hsub) hvalid hname hstorage hq
      exact Program.Guarded.pure ⟨hworks, fun id hid => List.mem_singleton.1 hid ▸ hnamed⟩
  | insert other id =>
    obtain ⟨rfl, hid⟩ := hop
    exact Program.Guarded.pure ⟨h.works_insert hheld (hknown id hid), hnone⟩
  | enqueue id m =>
    refine Program.Guarded.mono (h.confined_onQueue (hknown id hop) hheld _ fun q hq hname hopen => ?_) fun _ _ hr => ⟨hr, hnone⟩
    exact confined_enqueue (h.queues q hq).1 hopen m
  | dequeue id =>
    refine Program.Guarded.mono (h.confined_onQueue (hknown id hop) hheld _ fun q hq hname hopen => ?_) fun _ _ hr => ⟨hr, hnone⟩
    exact confined_dequeue (h.queues q hq).1 hopen
  | entries => exact hop.elim
  | clear => exact hop.elim
  | isClosed id => exact hop.elim
  | close id => exact hop.elim

/-- A program that keeps to a destination stays within its scope. -/
theorem confined_execute {p : RegistryProgram α} {Q : α → List QueueId → Prop} (h : s.Orderly storage)
    (hp : RegistryProgram.KeepsTo name p known Q) (hknown : ∀ id ∈ known, s.Named id name) (hheld : s.held name ⊆ files) :
    FileProgram.Confined (scopeOf storage name) (execute p s) files fun r files' => s.Works storage name r.2 files' := by
  induction p generalizing s known files with
  | done a => exact Program.Guarded.pure (h.works_same hheld)
  | ask op next ih =>
    refine Program.Guarded.bind ((h.confined_perform hp.1 hknown hheld).mono fun r files' hr => ?_)
    obtain ⟨hworks, htells⟩ := hr
    refine (ih r.1 hworks.orderly (hp.2 r.1 _ rfl) (fun id hid => ?_) hworks.held).mono fun _ _ hnext => hworks.trans hnext
    rcases List.mem_append.1 hid with hid | hid
    · exact htells id hid
    · exact hworks.named id name (hknown id hid)

end Orderly

end Shared

/-! ## Files of other destinations -/

/-- The file of a plain name in a directory is there only if the directory is. -/
theorem Disk.exists_leadsTo_of_resolve {d : Disk} {n : String} (hn : Disk.IsFileName n) {place : Place} {node : Node}
    (hnode : d.resolve true (Disk.join storage n) = .ok (.node place node)) : ∃ place, d.LeadsTo storage place := by
  rw [resolve] at hnode
  split at hnode
  · cases hnode
  · rw [names_join storage hn, origin, isAbsolute_join storage hn] at hnode
    exact walk_prefix _ _ _ hnode

theorem Disk.exists_leadsTo_of_contentsAt {d : Disk} {n : String} (hn : Disk.IsFileName n) {bytes : Bytes}
    (h : d.contentsAt (Disk.join storage n) = .ok bytes) : ∃ place, d.LeadsTo storage place := by
  rw [contentsAt] at h
  cases hfound : d.resolve true (join storage n) with
  | error e => rw [hfound] at h; cases h
  | ok found =>
    cases found with
    | missing place => rw [hfound] at h; cases h
    | node place node => exact exists_leadsTo_of_resolve hn hfound

theorem Disk.Apart.mono {d : Disk} {S : Scope} {path : String} (h : d.Apart S files path) (hsub : files' ⊆ files) :
    d.Apart S files' path :=
  ⟨h.tree, h.places, h.linked, fun opened id hpath hmem => h.opened opened id hpath (hsub hmem)⟩

/-- A path in the scope of a destination is that of a plain name in the directory. -/
theorem DurableQueue.exists_isFileName {path : String} (h : (scopeOf storage name).paths path) :
    ∃ n, Disk.IsFileName n ∧ path = Disk.join storage n := by
  obtain ⟨hvalid, rfl | rfl⟩ := h
  · exact ⟨_, (Destination.valid_of_fault? hvalid).isFileName_logName, rfl⟩
  · exact ⟨_, (Destination.valid_of_fault? hvalid).isFileName_checkpointName, rfl⟩

/-- The scopes of two destinations have no path in common. -/
theorem DurableQueue.scopeOf_disjoint {path : String} (hne : other ≠ name) (h : (scopeOf storage name).paths path) :
    ¬(scopeOf storage other).paths path := by
  obtain ⟨hname, hpath⟩ := h
  rintro ⟨hother, hpath'⟩
  have hv := Destination.valid_of_fault? hname
  have ho := Destination.valid_of_fault? hother
  rcases hpath with rfl | rfl
  · rcases hpath' with heq | heq
    · exact hne (Disk.join_injective hv.isFileName_logName ho.isFileName_logName heq).symm
    · exact hv.logName_ne_checkpointName other (Disk.join_injective hv.isFileName_logName ho.isFileName_checkpointName heq)
  · rcases hpath' with heq | heq
    · exact ho.logName_ne_checkpointName name (Disk.join_injective hv.isFileName_checkpointName ho.isFileName_logName heq).symm
    · have heq := Disk.join_injective hv.isFileName_checkpointName ho.isFileName_checkpointName heq
      exact hne (Destination.checkpointName_injective heq).symm

namespace Store

/-- The answers to steps on a store when any operation on files may fail. -/
abbrev Fails (op : RegistryOp) : Store → op.Reply → Store → Prop :=
  Answers (FileOp.Answers True) op

/-- Wherever a program that keeps to a destination has come to, it left all other destinations alone. -/
theorem leaves_of_keepsTo {p : RegistryProgram α} {Q : α → List QueueId → Prop} {s s' : Store} (h : s.shared.Orderly storage)
    (hp : RegistryProgram.KeepsTo name p known Q) (hknown : ∀ id ∈ known, s.shared.Named id name)
    (hcut : p.Cut Fails (fun _ _ _ => False) s s') :
    s.shared.Untouched name s'.shared ∧ ((∃ place, s.disk.LeadsTo storage place) → ∀ path,
      s.disk.Apart (scopeOf storage name) (s.shared.held name) path →
        ∀ bytes, s'.disk.contentsAt path = .ok bytes ↔ s.disk.contentsAt path = .ok bytes) := by
  induction hcut generalizing known with
  | before p s => exact ⟨.refl name s.shared, fun _ _ _ _ => Iff.rfl⟩
  | within htorn => exact htorn.elim
  | @after op next s mid s' reply hans _ ih =>
    obtain ⟨files', hnoted⟩ := FileProgram.exists_noted hans (s.shared.held name)
    have hconfined := h.confined_perform hp.1 hknown (List.Subset.refl _)
    obtain ⟨hworks, htells⟩ := hconfined.of_runs hnoted
    have hknown' : ∀ id ∈ op.tells reply ++ known, mid.shared.Named id name := by
      intro id hid
      rcases List.mem_append.1 hid with hid | hid
      · exact htells id hid
      · exact hworks.named id name (hknown id hid)
    obtain ⟨huntouched, hcontents⟩ := ih hworks.orderly (hp.2 reply _ rfl) hknown'
    refine ⟨hworks.untouched.trans huntouched, fun hfolder path hapart bytes => ?_⟩
    have hfolders : ∀ path, (scopeOf storage name).folders path → ∃ place, s.disk.LeadsTo path place := by
      rintro _ ⟨-, rfl⟩
      exact hfolder
    obtain ⟨hextends, hleaves⟩ := hconfined.leaves hfolders hnoted
    obtain ⟨hapart', hsame⟩ := hleaves path hapart
    exact (hcontents (hfolder.imp fun _ hl => hl.mono hextends) path (hapart'.mono hworks.held) bytes).trans (hsame bytes)

end Store

/-- In a directory of regular files, each under one name, the files of different destinations are apart. -/
theorem DurableQueue.apart_of_shows {place : Place} {c : Contents} {d : Disk} (ht : d.IsTree)
    (hs : (Folder.ofDestinations storage place fun _ => True).Shows c d)
    (hopen : ∀ path h, (path, h) ∈ files → ∃ n, (Folder.ofDestinations storage place fun _ => True).names n ∧
      path = Disk.join storage n ∧ (Folder.ofDestinations storage place fun _ => True).Opens d n h)
    (hne : other ≠ name) {path : String} (hpath : (scopeOf storage other).paths path) :
    d.Apart (scopeOf storage name) files path := by
  have hnamed {name path : String} (hscope : (scopeOf storage name).paths path) :
      ∃ n, (Folder.ofDestinations storage place fun _ => True).names n ∧ path = Disk.join storage n := by
    obtain ⟨hvalid, rfl | rfl⟩ := hscope
    · exact ⟨_, ⟨name, trivial, hvalid, Or.inl rfl⟩, rfl⟩
    · exact ⟨_, ⟨name, trivial, hvalid, Or.inr rfl⟩, rfl⟩
  obtain ⟨n, hn, rfl⟩ := hnamed hpath
  refine hs.apart_join ht (fun path hscope => ?_) hopen hn
  obtain ⟨m, hm, rfl⟩ := hnamed hscope
  refine ⟨m, hm, ?_, rfl⟩
  rintro rfl
  exact scopeOf_disjoint hne hscope hpath

/-! ## Requests under way -/

namespace Traffic

/-- What can be reached when any operation on files may fail and the files may be changed by others at any time, and what was opened
on the way. -/
inductive Reached (storage : String) (durable : Bool) : Openings → Traffic → Prop where
  | start (d : Disk) : Reached storage durable [] (start (Store.begin storage durable d))
  | called {files : Openings} {t : Traffic} {session : Nat} (request : Request) : Reached storage durable files t →
      t.calls session = none → Reached storage durable files (t.called session request)
  | answered {files : Openings} {t : Traffic} {session place : Nat} {request : Request} {response : Response} :
      Reached storage durable files t → t.calls session = some ⟨place, request, .done response⟩ →
      Reached storage durable files (t.answered session place response)
  | worked {files files' : Openings} {t : Traffic} {session place : Nat} {request : Request} {op : RegistryOp}
      {next : op.Reply → RegistryProgram Response} {reply : op.Reply} {store : Store} : Reached storage durable files t →
      t.calls session = some ⟨place, request, .ask op next⟩ → t.store.shared.ready op = true →
      (t.store.shared.perform op).Runs (FileOp.Noted (FileOp.Answers True)) (t.store.disk, files) (reply, store.shared)
        (store.disk, files') →
      Reached storage durable files' (t.worked session ⟨place, request, .ask op next⟩ (next reply) store)
  | disturbed {files : Openings} {t : Traffic} (d : Disk) : Reached storage durable files t →
      Reached storage durable files { t with store := ⟨t.store.shared, d⟩ }

/-- What is kept throughout: the registry is orderly, what queues have open was opened, and what is left of a request keeps to its
destination. -/
structure Separate (storage : String) (files : Openings) (t : Traffic) : Prop where
  orderly : t.store.shared.Orderly storage
  opened : ∀ name, t.store.shared.held name ⊆ files
  keeps : ∀ session call, t.calls session = some call → ∃ known,
    RegistryProgram.KeepsTo call.request.destination call.left known (fun _ _ => True) ∧
      ∀ id ∈ known, t.store.shared.Named id call.request.destination

variable {t : Traffic} {session : Nat} {durable : Bool}

theorem Separate.called (h : t.Separate storage files) (request : Request) : (t.called session request).Separate storage files := by
  refine ⟨h.orderly, h.opened, fun other call hcall => ?_⟩
  rw [calls_called] at hcall
  split at hcall
  · obtain rfl := Option.some.inj hcall
    exact ⟨[], RegistryProgram.keepsTo_handle request, nofun⟩
  · exact h.keeps other call hcall

theorem Separate.answered (h : t.Separate storage files) (place : Nat) (response : Response) :
    (t.answered session place response).Separate storage files := by
  refine ⟨h.orderly, h.opened, fun other call hcall => ?_⟩
  rw [calls_answered] at hcall
  split at hcall
  · cases hcall
  · exact h.keeps other call hcall

theorem Separate.worked (h : t.Separate storage files) {place : Nat} {request : Request} {next : op.Reply → RegistryProgram Response}
    {reply : op.Reply} {store : Store} (hcall : t.calls session = some ⟨place, request, .ask op next⟩)
    (hr : (t.store.shared.perform op).Runs (FileOp.Noted (FileOp.Answers True)) (t.store.disk, files) (reply, store.shared)
      (store.disk, files')) :
    (t.worked session ⟨place, request, .ask op next⟩ (next reply) store).Separate storage files' := by
  obtain ⟨known, hkeeps, hknown⟩ := h.keeps session _ hcall
  obtain ⟨hsub, hworks, htells⟩ := (h.orderly.confined_perform hkeeps.1 hknown (h.opened request.destination)).grows.of_runs hr
  refine ⟨hworks.orderly, fun name => ?_, fun other call hother => ?_⟩
  · by_cases hname : name = request.destination
    · exact hname ▸ hworks.held
    · exact List.Subset.trans (hworks.untouched.held_subset hname) (List.Subset.trans (h.opened name) hsub)
  · rw [calls_worked] at hother
    split at hother
    · obtain rfl := Option.some.inj hother
      refine ⟨_, hkeeps.2 reply _ rfl, fun id hid => ?_⟩
      rcases List.mem_append.1 hid with hid | hid
      · exact htells id hid
      · exact hworks.named id _ (hknown id hid)
    · obtain ⟨known', hkeeps', hknown'⟩ := h.keeps other call hother
      exact ⟨known', hkeeps', fun id hid => hworks.named id _ (hknown' id hid)⟩

theorem Reached.separate (h : Reached storage durable files t) : t.Separate storage files := by
  induction h with
  | start d => exact ⟨⟨rfl, nofun, nofun⟩, fun _ => List.Subset.refl _, nofun⟩
  | called request _ _ ih => exact ih.called request
  | answered _ _ ih => exact ih.answered _ _
  | worked _ hcall _ hr ih => exact ih.worked hcall hr
  | disturbed d _ ih => exact ⟨ih.orderly, ih.opened, ih.keeps⟩

/-- What is left of a request leaves all other destinations alone. -/
structure Isolated (storage : String) (files : Openings) (s : Store) (call : Call) : Prop where
  /-- Whatever operations on files are answered, only the two paths of the destination are gone by, and what was opened by them; for
  a destination that is not valid there are none, -/
  confined : FileProgram.Confined (scopeOf storage call.request.destination) (Shared.execute call.left s.shared) files fun _ _ => True
  /-- they are those of plain names in the directory, -/
  plain : ∀ path, (scopeOf storage call.request.destination).paths path → ∃ n, Disk.IsFileName n ∧ path = Disk.join storage n
  /-- and not those of another destination. -/
  disjoint : ∀ other path, other ≠ call.request.destination → (scopeOf storage call.request.destination).paths path →
    ¬(scopeOf storage other).paths path
  /-- Wherever it has come to, other destinations have the queues that they had, -/
  untouched : ∀ s', call.left.Cut Store.Fails (fun _ _ _ => False) s s' → s.shared.Untouched call.request.destination s'.shared
  /-- and the contents of their files, unless a link leads from one destination to the other. -/
  contents : ∀ s', call.left.Cut Store.Fails (fun _ _ _ => False) s s' → ∀ other path, (scopeOf storage other).paths path →
    s.disk.Apart (scopeOf storage call.request.destination) (s.shared.held call.request.destination) path →
    ∀ bytes, (s.disk.contentsAt path = .ok bytes → s'.disk.contentsAt path = .ok bytes) ∧
      ((∃ place, s.disk.LeadsTo storage place) → s'.disk.contentsAt path = .ok bytes → s.disk.contentsAt path = .ok bytes)

/-- Whatever other sessions do and whatever becomes of the files, a request leaves all other destinations alone. -/
theorem isolated (h : Reached storage durable files t) {call : Call} (hcall : t.calls session = some call) :
    Isolated storage files t.store call := by
  have hseparate := h.separate
  obtain ⟨known, hkeeps, hknown⟩ := hseparate.keeps session call hcall
  refine ⟨?_, fun path => exists_isFileName, fun other path => scopeOf_disjoint, fun s' hcut => ?_, fun s' hcut other path hpath hapart bytes => ?_⟩
  · exact (hseparate.orderly.confined_execute hkeeps hknown (hseparate.opened _)).mono fun _ _ _ => trivial
  · exact (Store.leaves_of_keepsTo hseparate.orderly hkeeps hknown hcut).1
  · obtain ⟨-, hleaves⟩ := Store.leaves_of_keepsTo hseparate.orderly hkeeps hknown hcut
    refine ⟨fun hbytes => ?_, fun hfolder => (hleaves hfolder path hapart bytes).1⟩
    obtain ⟨n, hn, rfl⟩ := exists_isFileName hpath
    exact (hleaves (Disk.exists_leadsTo_of_contentsAt hn hbytes) _ hapart bytes).2 hbytes

/-- A directory that holds the log of one destination, which is empty. -/
def besideDisk : Disk :=
  ((Disk.empty "home").create ["home", "b"]).2

/-- A message to another destination leaves it so. -/
theorem isolated_beside :
    Isolated "" [] (Store.begin "" false besideDisk) ⟨0, .send ⟨"a", .null⟩, (Request.send ⟨"a", .null⟩).handle⟩ ∧
      besideDisk.Apart (scopeOf "" "a") [] "b" := by
  have hreached : Reached "" false [] ((start (Store.begin "" false besideDisk)).called 0 (.send ⟨"a", .null⟩)) :=
    .called _ (.start besideDisk) rfl
  have htree : besideDisk.IsTree :=
    (Disk.isTree_empty "home").create (Disk.Lacks.mk rfl (by decide) (by decide) rfl : Disk.Lacks _ ["home"] "b")
  have hnone : (Folder.ofDestinations "" ["home"] fun _ => True).Shows (fun _ => none) (Disk.empty "home") :=
    Folder.shows_none rfl fun n _ => by simp [Folder.ofDestinations, Disk.empty, Disk.node?]
  have hshows := hnone.create ⟨"b", trivial, by decide, Or.inl rfl⟩ rfl
  have hcall : ((start (Store.begin "" false besideDisk)).called 0 (.send ⟨"a", .null⟩)).calls 0 =
      some ⟨0, .send ⟨"a", .null⟩, (Request.send ⟨"a", .null⟩).handle⟩ := rfl
  refine ⟨isolated hreached hcall, apart_of_shows htree hshows ?_ (by decide) ⟨by decide, Or.inl rfl⟩⟩
  exact fun _ _ hmem => absurd hmem List.not_mem_nil

/-- A directory in which the log of one destination is a link to that of another. -/
def linkedDisk : Disk :=
  (besideDisk.makeLink "a" "b").2

/-- Where a link leads from one destination to another, a message to the first is written into the log of the second. -/
theorem not_forall_contents_kept :
    ¬∀ (storage : String) (d : Disk) (m : Message) (other : String), other ≠ m.destination →
      Destination.fault? other = none → ∀ bytes, d.contentsAt (logPathOf storage other) = .ok bytes →
        ((Store.begin storage false d).run (Request.send m).handle).2.disk.contentsAt (logPathOf storage other) = .ok bytes := by
  intro h
  have hkept := h "" linkedDisk ⟨"a", .null⟩ "b" (by decide) (by decide) [] rfl
  revert hkept
  decide +kernel

end Traffic

end QueueBroker

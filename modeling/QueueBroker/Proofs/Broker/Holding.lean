import QueueBroker.Proofs.Broker.Programs
import QueueBroker.Proofs.Queue.Opening

/-!
# The queues of a broker

`Shared.Holds` ties a registry and the files of all destinations to one list of messages for each of them, in memory where a queue
is open and at rest where none is. Every step of work on the registry keeps this, and what it does to the lists is said here.
-/

namespace QueueBroker

open FileOp DurableQueue

variable {F : Folder} {c c' : Contents} {d d' : Disk} {name other : String} {id : QueueId}

/-! ## Entries -/

namespace Registry

variable {r : Registry}

theorem lookup_filter (entries : List (String × QueueId)) (name other : String) :
    (entries.filter (·.1 != name)).lookup other = if other = name then none else entries.lookup other := by
  induction entries with
  | nil => simp
  | cons entry entries ih =>
    obtain ⟨key, value⟩ := entry
    rw [List.filter_cons]
    by_cases hother : other = key
    · subst hother
      by_cases hkey : other = name
      · rw [if_neg (by simpa using hkey), ih, if_pos hkey, if_pos hkey]
      · rw [if_pos (by simpa using hkey), List.lookup_cons_self, List.lookup_cons_self, if_neg hkey]
    · have hne : (other == key) = false := beq_false_of_ne hother
      by_cases hkey : key = name
      · rw [if_neg (by simpa using hkey), ih, List.lookup_cons, hne]
      · rw [if_pos (by simpa using hkey), List.lookup_cons, ih, List.lookup_cons, hne]

theorem lookup_insert_self : (r.insert name id).lookup name = some id := by
  rw [lookup, insert, List.lookup_append, lookup_filter, if_pos rfl, Option.none_or, List.lookup_cons_self]

theorem lookup_insert_of_ne (hne : other ≠ name) : (r.insert name id).lookup other = r.lookup other := by
  have hother : (other == name) = false := by simpa using hne
  rw [lookup, insert, List.lookup_append, lookup_filter, if_neg hne, lookup, List.lookup_cons, hother]
  exact Option.or_none

end Registry

namespace Shared

/-! ## Lists for destinations -/

/-- The queue of a destination that is open, and what it holds. -/
structure OpenFor (F : Folder) (c : Contents) (d : Disk) (name : String) (pending : List Message) (q : DurableQueue) : Prop where
  valid : Destination.fault? name = none
  name : q.name = name
  mirrors : ∃ bodies, q.Mirrors Message.ReadFrom F c d bodies
  pending : q.pending = pending

/-- The files of a destination that has no open queue, and what they hold. -/
def RestsFor (F : Folder) (c : Contents) (d : Disk) (name : String) (pending : List Message) : Prop :=
  ∃ bodies taken, Rests F name c d bodies taken ∧ List.Forall₂ Message.ReadFrom (bodies.drop taken) pending

/-- What is shared and the disk hold one list of messages for each valid destination. -/
structure Holds (F : Folder) (lists : String → List Message) (c : Contents) (s : Shared) (d : Disk) : Prop where
  storage : s.registry.storage = F.path
  shows : F.Shows c d
  queues : ∀ name, Destination.fault? name = none → F.HasQueue name
  opened : ∀ name id, s.registry.lookup name = some id → ∃ q, s.queues[id]? = some q ∧ OpenFor F c d name (lists name) q
  resting : ∀ name, Destination.fault? name = none → s.registry.lookup name = none → RestsFor F c d name (lists name)

variable {lists : String → List Message} {s : Shared} {pending : List Message} {q q' : DurableQueue}

theorem OpenFor.elsewhere (h : OpenFor F c d other pending q) (hsame : SameElsewhere name c c')
    (hvalid : Destination.fault? name = none) (hne : other ≠ name) (hext : d.Extends d') (hs : F.Shows c' d') :
    OpenFor F c' d' other pending q := by
  obtain ⟨bodies, hm⟩ := h.mirrors
  have hsame' := hsame.of_ne hvalid h.valid hne
  rw [← h.name] at hsame'
  exact ⟨h.valid, h.name, ⟨bodies, hm.elsewhere hext hs hsame'⟩, h.pending⟩

theorem RestsFor.elsewhere (h : RestsFor F c d other pending) (hsame : SameElsewhere name c c')
    (hvalid : Destination.fault? name = none) (hother : Destination.fault? other = none) (hne : other ≠ name)
    (hs : F.Shows c' d') : RestsFor F c' d' other pending := by
  obtain ⟨bodies, taken, hrest, hread⟩ := h
  exact ⟨bodies, taken, hrest.elsewhere hs (hsame.of_ne hvalid hother hne), hread⟩

/-- An open queue may be left to its files. -/
theorem OpenFor.rests (h : OpenFor F c d name pending q) : RestsFor F c d name pending := by
  obtain ⟨bodies, hm⟩ := h.mirrors
  have hrest := hm.rests
  have hread := hm.pending
  rw [h.name] at hrest
  rw [h.pending] at hread
  exact ⟨bodies, q.taken, hrest, hread⟩

/-- Locks do not matter to what is held. -/
theorem Holds.locks (h : Holds F lists c s d) (opening : Bool) (busy : List QueueId) :
    Holds F lists c { s with opening, busy } d :=
  ⟨h.storage, h.shows, h.queues, h.opened, h.resting⟩

/-- When the open queue of a destination works on its files, all other destinations keep what they have. -/
theorem Holds.update (h : Holds F lists c s d) (hlookup : s.registry.lookup name = some id)
    (hsame : SameElsewhere name c c') (hext : d.Extends d') (hopen : OpenFor F c' d' name pending q') :
    Holds F (Function.update lists name pending) c' { s with queues := s.queues.set id q' } d' := by
  obtain ⟨q, hq, hqopen⟩ := h.opened name id hlookup
  obtain ⟨bodies, hm⟩ := hopen.mirrors
  obtain ⟨checkpoint, ha, -, -⟩ := hm.attached
  refine ⟨h.storage, ha.shows, h.queues, fun other id' hlookup' => ?_, fun other hother hlookup' => ?_⟩
  · by_cases hne : other = name
    · subst hne
      obtain rfl : id = id' := Option.some.inj (hlookup.symm.trans hlookup')
      rw [Function.update_self]
      exact ⟨q', List.getElem?_set_self (List.getElem?_eq_some_iff.1 hq).1, hopen⟩
    · obtain ⟨q₁, hq₁, hopen₁⟩ := h.opened other id' hlookup'
      have hid : id ≠ id' := by
        rintro rfl
        obtain rfl := Option.some.inj (hq.symm.trans hq₁)
        exact hne (hopen₁.name.symm.trans hqopen.name)
      rw [Function.update_of_ne hne]
      refine ⟨q₁, ?_, hopen₁.elsewhere hsame hopen.valid hne hext ha.shows⟩
      rw [List.getElem?_set_ne hid]
      exact hq₁
  · have hne : other ≠ name := by
      rintro rfl
      rw [hlookup] at hlookup'
      cases hlookup'
    rw [Function.update_of_ne hne]
    exact (h.resting other hother hlookup').elsewhere hsame hopen.valid hother hne ha.shows

/-- When the queue of a destination is opened and entered, it holds what its files did. -/
theorem Holds.insert (h : Holds F lists c s d) (hlookup : s.registry.lookup name = none)
    (hsame : SameElsewhere name c c') (hext : d.Extends d') (hopen : OpenFor F c' d' name (lists name) q') :
    Holds F lists c' { s with queues := s.queues ++ [q'], registry := s.registry.insert name s.queues.length } d' := by
  obtain ⟨bodies, hm⟩ := hopen.mirrors
  obtain ⟨checkpoint, ha, -, -⟩ := hm.attached
  refine ⟨h.storage, ha.shows, h.queues, fun other id' hlookup' => ?_, fun other hother hlookup' => ?_⟩
  · by_cases hne : other = name
    · subst hne
      rw [Registry.lookup_insert_self] at hlookup'
      obtain rfl := Option.some.inj hlookup'
      exact ⟨q', List.getElem?_concat_length, hopen⟩
    · rw [Registry.lookup_insert_of_ne hne] at hlookup'
      obtain ⟨q₁, hq₁, hopen₁⟩ := h.opened other id' hlookup'
      refine ⟨q₁, ?_, hopen₁.elsewhere hsame hopen.valid hne hext ha.shows⟩
      rw [List.getElem?_append_left (List.getElem?_eq_some_iff.1 hq₁).1]
      exact hq₁
  · by_cases hne : other = name
    · subst hne
      rw [Registry.lookup_insert_self] at hlookup'
      cases hlookup'
    · rw [Registry.lookup_insert_of_ne hne] at hlookup'
      exact (h.resting other hother hlookup').elsewhere hsame hopen.valid hother hne ha.shows

/-! ## Finding queues -/

/-- What is held, with the queue of a destination open under a number. -/
def HoldsOpen (F : Folder) (lists : String → List Message) (name : String) (id : QueueId) (s : Shared) (d : Disk) : Prop :=
  s.registry.lookup name = some id ∧ ∃ c, Holds F lists c s d

theorem HoldsOpen.locks (h : HoldsOpen F lists name id s d) (opening : Bool) (busy : List QueueId) :
    HoldsOpen F lists name id { s with opening, busy } d := by
  obtain ⟨hlookup, c, h⟩ := h
  exact ⟨hlookup, c, h.locks opening busy⟩

/-- The directory of the files is there. -/
theorem runs_makeStorage (hstorage : s.registry.storage = F.path) (hs : F.Shows c d) {r : Except BrokerError Unit} {s' : Shared}
    (hr : (s.perform .makeStorage).Runs (Answers False) d (r, s') d') : r = .ok () ∧ s' = s ∧ d' = d := by
  change Program.Runs _ (((FileAttempt.makeDirectories s.registry.storage).storage .create s.registry.storage).run >>=
    fun made => pure (made, s)) _ _ _ at hr
  rw [hstorage] at hr
  obtain ⟨made, d₂, hmake, hr⟩ := Program.runs_bind_iff.1 hr
  obtain ⟨u, rfl, hd⟩ := (hs.attains_makeDirectories.storage).exists_of_not id hmake
  obtain ⟨heq, rfl⟩ := Program.runs_pure_iff.1 hr
  obtain ⟨rfl, rfl⟩ := Prod.mk.inj heq
  exact ⟨rfl, rfl, hd⟩

theorem Holds.comes_makeStorage (h : Holds F lists c s d) :
    Comes False (Program.request RegistryOp.makeStorage) s d fun r s' d' => r = Except.ok () ∧ s' = s ∧ d' = d :=
  Comes.request fun _ _ _ hr => runs_makeStorage h.storage h.shows hr

/-- Looking for a log finds it exactly when there is one. -/
theorem runs_hasLog (hstorage : s.registry.storage = F.path) (hs : F.Shows c d) (hq : F.HasQueue name) {r : Except BrokerError Bool}
    {s' : Shared} (hr : (s.perform (.hasLog name)).Runs (Answers False) d (r, s') d') :
    r = .ok (c (Destination.logName name)).isSome ∧ s' = s ∧ d' = d := by
  change Program.Runs _ (((FileAttempt.pathExists (logPathOf s.registry.storage name)).storage .stat
    (logPathOf s.registry.storage name)).run >>= fun found => pure (found, s)) _ _ _ at hr
  rw [hstorage] at hr
  obtain ⟨found, d₂, hfind, hr⟩ := Program.runs_bind_iff.1 hr
  obtain ⟨b, rfl, hd, rfl⟩ := ((hs.attains_pathExists hq.log).storage).exists_of_not id hfind
  obtain ⟨heq, rfl⟩ := Program.runs_pure_iff.1 hr
  obtain ⟨rfl, rfl⟩ := Prod.mk.inj heq
  exact ⟨rfl, rfl, hd⟩

theorem Holds.comes_hasLog (h : Holds F lists c s d) (hvalid : Destination.fault? name = none) :
    Comes False (Program.request (RegistryOp.hasLog name)) s d fun r s' d' =>
      r = Except.ok (c (Destination.logName name)).isSome ∧ s' = s ∧ d' = d :=
  Comes.request fun _ _ _ hr => runs_hasLog h.storage h.shows (h.queues name hvalid) hr

/-- A queue that is opened holds what its files do. -/
theorem runs_openQueue (hstorage : s.registry.storage = F.path) (hs : F.Shows c d) (hq : F.HasQueue name)
    (hvalid : Destination.fault? name = none) {bodies : List Bytes} {taken : Nat} {stale : Bool}
    (hfound : Found (c (Destination.logName name)) (c (Destination.checkpointName name)) bodies pending taken stale)
    (hshort : ((c (Destination.logName name)).getD []).length ≤ Disk.maxFile) {r : Except BrokerError QueueId} {s' : Shared}
    (hr : (s.perform (.openQueue name)).Runs (Answers False) d (r, s') d') :
    ∃ q c', r = .ok s.queues.length ∧ s' = { s with queues := s.queues ++ [q] } ∧ q.name = name ∧ q.pending = pending ∧
      d.Extends d' ∧ SameElsewhere name c c' ∧ q.Mirrors Message.ReadFrom F c' d' bodies := by
  change Program.Runs _ (s.openQueue name) _ _ _ at hr
  rw [openQueue, hstorage] at hr
  obtain ⟨opened, d₂, hopen, hr⟩ := Program.runs_bind_iff.1 hr
  have hattains : FileAttempt.Attains False _ _ _ := attains_openIn hs hq hvalid hfound hshort s.registry.durable
  obtain ⟨q, rfl, hname, -, hpending, -, hext, c', hsame, hm⟩ := hattains.exists_of_not id hopen
  obtain ⟨heq, rfl⟩ := Program.runs_pure_iff.1 hr
  obtain ⟨rfl, rfl⟩ := Prod.mk.inj heq
  exact ⟨q, c', rfl, rfl, hname, hpending, hext, hsame, hm⟩

/-- Opening the queue of a destination and entering it. -/
theorem Holds.comes_openAndInsert (h : Holds F lists c s d) (hvalid : Destination.fault? name = none)
    (hlookup : s.registry.lookup name = none) :
    Comes False (Registry.openAndInsert name) s d fun r s' d' => ∃ id, r = .ok id ∧ HoldsOpen F lists name id s' d' := by
  obtain ⟨bodies, taken, hrest, hread⟩ := h.resting name hvalid hlookup
  refine Comes.bind (Comes.request fun r s₁ d₁ hr => ?_)
  obtain ⟨q, c', rfl, rfl, hname, hpending, hext, hsame, hm⟩ :=
    runs_openQueue h.storage hrest.shows hrest.folder hvalid (hrest.found hread) hrest.short hr
  refine Comes.bind (Comes.request_pure rfl (Comes.pure ⟨_, rfl, Registry.lookup_insert_self, c', ?_⟩))
  exact h.insert hlookup hsame hext ⟨hvalid, hname, ⟨bodies, hm⟩, hpending⟩

/-- A destination with an open queue is valid. -/
theorem Holds.valid_of_lookup (h : Holds F lists c s d) (hlookup : s.registry.lookup name = some id) :
    Destination.fault? name = none := by
  obtain ⟨q, -, hopen⟩ := h.opened name id hlookup
  exact hopen.valid

theorem Holds.lookup_eq_none (h : Holds F lists c s d) {fault : NameFault} (hfault : Destination.fault? name = some fault) :
    s.registry.lookup name = none := by
  cases hlookup : s.registry.lookup name with
  | none => rfl
  | some id =>
    rw [h.valid_of_lookup hlookup] at hfault
    cases hfault

/-- Finding the queue of a valid destination, or making it. -/
theorem Holds.comes_getOrCreate (h : Holds F lists c s d) (hvalid : Destination.fault? name = none) :
    Comes False (Registry.getOrCreate name) s d fun r s' d' => ∃ id, r = .ok id ∧ HoldsOpen F lists name id s' d' := by
  refine Comes.bind (Comes.request_pure rfl ?_)
  cases hlookup : s.registry.lookup name with
  | some id => exact Comes.pure ⟨id, rfl, hlookup, c, h⟩
  | none =>
    dsimp only
    rw [validate_eq_ok hvalid]
    refine Comes.whileOpening (Comes.bind (Comes.request_pure rfl ?_))
    simp only [hlookup]
    refine Comes.bind ((h.locks true s.busy).comes_makeStorage.mono ?_)
    rintro _ _ _ ⟨rfl, rfl, rfl⟩
    refine ((h.locks true s.busy).comes_openAndInsert hvalid hlookup).mono ?_
    rintro _ s' d' ⟨id, rfl, hopen⟩
    exact ⟨id, rfl, hopen.locks false s'.busy⟩

/-- Looking for the queue of an invalid destination, or trying to make it. -/
theorem Holds.comes_getOrCreate_invalid (h : Holds F lists c s d) {fault : NameFault}
    (hfault : Destination.fault? name = some fault) :
    Comes False (Registry.getOrCreate name) s d fun r s' d' => r = .error (.destination (.refused name fault)) ∧ s' = s ∧ d' = d := by
  refine Comes.bind (Comes.request_pure rfl ?_)
  rw [h.lookup_eq_none hfault]
  dsimp only
  rw [Destination.validate, hfault]
  exact Comes.pure ⟨rfl, rfl, rfl⟩

theorem Holds.comes_get_invalid (h : Holds F lists c s d) {fault : NameFault} (hfault : Destination.fault? name = some fault) :
    Comes False (Registry.get name) s d fun r s' d' => r = .ok none ∧ s' = s ∧ d' = d := by
  refine Comes.bind (Comes.request_pure rfl ?_)
  rw [h.lookup_eq_none hfault]
  dsimp only
  rw [Destination.validate, hfault]
  exact Comes.pure ⟨rfl, rfl, rfl⟩

/-- Without a log a destination has no messages. -/
theorem RestsFor.eq_nil (h : RestsFor F c d name pending) (hlog : c (Destination.logName name) = none) : pending = [] := by
  obtain ⟨bodies, taken, hrest, hread⟩ := h
  have hfound := hrest.found hread
  rw [hlog] at hfound
  exact hfound.pending_eq_nil

/-- Finding the queue of a valid destination: if there is none, nothing is pending. -/
theorem Holds.comes_get (h : Holds F lists c s d) (hvalid : Destination.fault? name = none) :
    Comes False (Registry.get name) s d fun r s' d' => (r = .ok none ∧ lists name = [] ∧ s' = s ∧ d' = d) ∨
      ∃ id, r = .ok (some id) ∧ HoldsOpen F lists name id s' d' := by
  refine Comes.bind (Comes.request_pure rfl ?_)
  cases hlookup : s.registry.lookup name with
  | some id => exact Comes.pure (Or.inr ⟨id, rfl, hlookup, c, h⟩)
  | none =>
    dsimp only
    rw [validate_eq_ok hvalid]
    refine Comes.bind ((h.comes_hasLog hvalid).mono ?_)
    rintro _ _ _ ⟨rfl, rfl, rfl⟩
    cases hlog : c (Destination.logName name) with
    | none => exact Comes.pure (Or.inl ⟨rfl, (h.resting name hvalid hlookup).eq_nil hlog, rfl, rfl⟩)
    | some bytes =>
      refine Comes.whileOpening (Comes.bind (Comes.request_pure rfl ?_))
      simp only [hlookup]
      refine Comes.bind (((h.locks true _).comes_openAndInsert hvalid hlookup).mono ?_)
      rintro _ s' d' ⟨id, rfl, hopen⟩
      exact Comes.pure (Or.inr ⟨id, rfl, hopen.locks false s'.busy⟩)

/-! ## Working on queues -/

theorem runs_onQueue {α : Type} {missing r : α} {work : DurableQueue → FileProgram (α × DurableQueue)} {s' : Shared}
    (hq : s.queues[id]? = some q) (hr : (s.onQueue id missing work).Runs (Answers False) d (r, s') d') :
    ∃ q', (work q).Runs (Answers False) d (r, q') d' ∧ s' = { s with queues := s.queues.set id q' } := by
  rw [onQueue, hq] at hr
  obtain ⟨⟨r₁, q'⟩, d₁, hwork, hr⟩ := Program.runs_bind_iff.1 hr
  obtain ⟨heq, rfl⟩ := Program.runs_pure_iff.1 hr
  obtain ⟨rfl, rfl⟩ := Prod.mk.inj heq
  exact ⟨q', hwork, rfl⟩

/-- A message that is put in is the last of its destination. -/
theorem HoldsOpen.comes_enqueue (h : HoldsOpen F lists name id s d) {m : Message} (hread : Message.ReadFrom m.bytes m)
    (hbody : m.bytes.length ≤ Log.maxBody) :
    Comes False (Registry.whileHolding id (Program.request (RegistryOp.enqueue id m))) s d fun r s' d' =>
      r = Except.ok () ∧ ∃ c', Holds F (Function.update lists name (lists name ++ [m])) c' s' d' := by
  obtain ⟨hlookup, c, h⟩ := h
  obtain ⟨q, hq, hopen⟩ := h.opened name id hlookup
  obtain ⟨bodies, hm⟩ := hopen.mirrors
  have hq : ({ s with busy := id :: s.busy } : Shared).queues[id]? = some q := hq
  refine Comes.whileHolding (Comes.request fun r s₁ d₁ hr => ?_)
  obtain ⟨q', hwork, rfl⟩ := runs_onQueue hq hr
  obtain ⟨rfl, hname, hpending, c', hext, helse, hm'⟩ := hm.stores hread hbody hwork
  rw [hopen.name] at helse hname
  rw [hopen.pending] at hpending
  exact ⟨rfl, c', (h.update hlookup helse hext ⟨hopen.valid, hname, ⟨_, hm'⟩, hpending⟩).locks s.opening _⟩

/-- The message that is taken is the first of its destination. -/
theorem HoldsOpen.comes_dequeue (h : HoldsOpen F lists name id s d) :
    Comes False (Registry.whileHolding id (Program.request (RegistryOp.dequeue id))) s d fun r s' d' =>
      r = Except.ok (lists name).head? ∧ ∃ c', Holds F (Function.update lists name (lists name).tail) c' s' d' := by
  obtain ⟨hlookup, c, h⟩ := h
  obtain ⟨q, hq, hopen⟩ := h.opened name id hlookup
  obtain ⟨bodies, hm⟩ := hopen.mirrors
  have hq : ({ s with busy := id :: s.busy } : Shared).queues[id]? = some q := hq
  refine Comes.whileHolding (Comes.request fun r s₁ d₁ hr => ?_)
  obtain ⟨q', hwork, rfl⟩ := runs_onQueue hq hr
  obtain ⟨rfl, hname, hpending, c', hext, helse, hm'⟩ := hm.delivers hwork
  rw [hopen.name] at helse hname
  rw [hopen.pending] at hpending ⊢
  exact ⟨rfl, c', (h.update hlookup helse hext ⟨hopen.valid, hname, ⟨_, hm'⟩, hpending⟩).locks s.opening _⟩

/-- An open queue is empty when its destination has no messages. -/
theorem HoldsOpen.comes_isEmpty (h : HoldsOpen F lists name id s d) :
    Comes False (Registry.whileHolding id (Program.request (RegistryOp.isEmpty id))) s d fun r s' d' =>
      r = (lists name).isEmpty ∧ ∃ c', Holds F lists c' s' d' := by
  obtain ⟨hlookup, c, h⟩ := h
  obtain ⟨q, hq, hopen⟩ := h.opened name id hlookup
  refine Comes.whileHolding (Comes.request_pure rfl ⟨?_, c, h.locks s.opening _⟩)
  rw [hq, Option.all_some, isEmpty, hopen.pending]

/-! ## Restarting -/

/-- Closing queues changes no file. -/
theorem comes_closeEach (entries : List (String × QueueId)) (s : Shared) (d : Disk) :
    Comes False (Registry.closeEach entries) s d fun _ _ d' => d' = d := by
  induction entries generalizing s with
  | nil => exact Comes.pure rfl
  | cons entry entries ih =>
    obtain ⟨key, id⟩ := entry
    have hclose : Comes False (Registry.whileHolding id do
        if ← Program.request (RegistryOp.isClosed id) then pure (.ok ())
        else Program.request (RegistryOp.close id)) s d fun _ _ d' => d' = d := by
      refine Comes.whileHolding (Comes.bind (Comes.request_pure rfl ?_))
      split
      · exact Comes.pure rfl
      · refine Comes.request fun r s₁ d₁ hr => ?_
        cases hq : ({ s with busy := id :: s.busy } : Shared).queues[id]? with
        | none =>
          rw [perform, onQueue, hq] at hr
          exact (Program.runs_pure_iff.1 hr).2
        | some q =>
          obtain ⟨q', hclose, -⟩ := runs_onQueue hq hr
          exact eq_of_cut_close hclose.cut
    refine Comes.bind (hclose.mono ?_)
    rintro closed s₁ _ rfl
    refine Comes.bind ((ih s₁).mono ?_)
    rintro rest s₂ _ rfl
    cases closed with
    | error e => exact Comes.pure rfl
    | ok u => exact Comes.pure rfl

theorem comes_closeAll (s : Shared) (d : Disk) : Comes False Registry.closeAll s d fun _ _ d' => d' = d :=
  Comes.bind (Comes.request_pure rfl (Comes.bind (Comes.request_pure rfl (comes_closeEach _ _ _))))

/-- A new registry on the same directory holds what the old one did. -/
theorem Holds.restart (h : Holds F lists c s d) (durable : Bool) :
    Holds F lists c (start (Registry.new F.path durable)) d := by
  refine ⟨rfl, h.shows, h.queues, fun name id hlookup => (nomatch hlookup), fun name hvalid _ => ?_⟩
  cases hlookup : s.registry.lookup name with
  | none => exact h.resting name hvalid hlookup
  | some id =>
    obtain ⟨q, -, hopen⟩ := h.opened name id hlookup
    exact hopen.rests

end Shared

end QueueBroker

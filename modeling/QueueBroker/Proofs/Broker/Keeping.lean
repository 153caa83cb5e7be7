import QueueBroker.Proofs.Broker.Fifo

/-!
# What a store keeps between steps

`Store.Keeps` ties a store to one list of messages for each destination at any moment, also while sessions are in the middle of
requests: every queue that was opened mirrors its files and holds the list of its destination, whether it was entered yet or not, and
the files of all other destinations are as they were found. Each step on the registry keeps this.
-/

namespace QueueBroker

open FileOp DurableQueue

variable {F : Folder} {lists : Fifo} {c c' : Contents} {d d' : Disk} {name other : String} {id : QueueId} {q q' : DurableQueue}
  {s s' : Store} {m : Message}

/-! ## Names of queues -/

namespace Shared

/-- The names of all queues that were ever opened. -/
def names (s : Shared) : List String :=
  s.queues.map DurableQueue.name

/-- Whether a queue was opened for a destination. -/
def Named (s : Shared) (id : QueueId) (name : String) : Prop :=
  s.names[id]? = some name

theorem named_iff {s : Shared} : s.Named id name ↔ ∃ q, s.queues[id]? = some q ∧ q.name = name := by
  rw [Named, names, List.getElem?_map, Option.map_eq_some_iff]

theorem names_set {s : Shared} (hq : s.queues[id]? = some q) (hname : q'.name = q.name) :
    (s.queues.set id q').map DurableQueue.name = s.names := by
  rw [List.map_set, hname, names]
  refine List.ext_getElem? fun i => ?_
  rw [List.getElem?_set]
  split
  · rename_i heq
    subst heq
    have hlt := (List.getElem?_eq_some_iff.1 hq).1
    rw [List.length_map, if_pos hlt, List.getElem?_map, hq, Option.map_some]
  · rfl

end Shared

/-! ## Lists for destinations -/

/-- What the files of a destination come to. -/
def Recovers (c : Contents) (name : String) (pending : List Message) : Prop :=
  ((c (Destination.logName name)).getD []).length ≤ Disk.maxFile ∧
    ∃ bodies taken stale, Found (c (Destination.logName name)) (c (Destination.checkpointName name)) bodies pending taken stale

/-- The messages that are read in the files of every destination: those of its log that its checkpoint does not count as taken. -/
def recovered (c : Contents) : Fifo :=
  fun name =>
    match Destination.fault? name, c (Destination.logName name) with
    | none, some log => (Log.scan (takenIn (c (Destination.checkpointName name))) log).pending
    | _, _ => []

theorem recovers_recovered (hvalid : Destination.fault? name = none)
    (hshort : ((c (Destination.logName name)).getD []).length ≤ Disk.maxFile) : Recovers c name (recovered c name) := by
  refine ⟨hshort, ?_⟩
  unfold recovered
  rw [hvalid]
  cases hlog : c (Destination.logName name) with
  | none => exact ⟨_, _, _, .nothing rfl⟩
  | some log =>
    obtain ⟨bodies, pending, left, hscan⟩ := Log.exists_scanned (takenIn (c (Destination.checkpointName name))) log
    dsimp only
    rw [Log.scan_eq hscan]
    exact ⟨_, _, _, .scanned rfl hscan⟩

/-- A queue that was opened holds the list of its destination. -/
structure DurableQueue.Keeps (F : Folder) (lists : Fifo) (c : Contents) (d : Disk) (q : DurableQueue) : Prop where
  valid : Destination.fault? q.name = none
  mirrors : ∃ bodies, q.Mirrors (fun _ _ => True) F c d bodies
  pending : q.pending = lists q.name

/-- What a store keeps: one list of messages for each destination, in its queue or in its files. -/
structure Store.Keeps (F : Folder) (lists : Fifo) (c : Contents) (s : Store) : Prop where
  storage : s.shared.registry.storage = F.path
  shows : F.Shows c s.disk
  folder : ∀ name, Destination.fault? name = none → F.HasQueue name
  opened : ∀ q ∈ s.shared.queues, q.Keeps F lists c s.disk
  single : s.shared.names.Nodup
  entries : ∀ name id, s.shared.registry.lookup name = some id → s.shared.Named id name
  resting : ∀ name, Destination.fault? name = none → name ∉ s.shared.names → Recovers c name (lists name)
  invalid : ∀ name, Destination.fault? name ≠ none → lists name = []

theorem Recovers.elsewhere {pending : List Message} (h : Recovers c other pending) (hsame : SameElsewhere name c c')
    (hvalid : Destination.fault? name = none) (hother : Destination.fault? other = none) (hne : other ≠ name) :
    Recovers c' other pending := by
  obtain ⟨hlog, hcheckpoint⟩ := hsame.of_ne hvalid hother hne
  rw [Recovers, hlog, hcheckpoint]
  exact h

theorem DurableQueue.Keeps.elsewhere (h : q.Keeps F lists c d) (hsame : SameElsewhere name c c')
    (hvalid : Destination.fault? name = none) (hne : q.name ≠ name) (hext : d.Extends d') (hs : F.Shows c' d')
    (pending : List Message) : q.Keeps F (Function.update lists name pending) c' d' := by
  obtain ⟨bodies, hm⟩ := h.mirrors
  refine ⟨h.valid, ⟨bodies, hm.elsewhere hext hs (hsame.of_ne hvalid h.valid hne)⟩, ?_⟩
  rw [Function.update_of_ne hne]
  exact h.pending

namespace Store

theorem Keeps.valid_of_named (h : s.Keeps F lists c) (hnamed : s.shared.Named id name) : Destination.fault? name = none := by
  obtain ⟨q, hq, rfl⟩ := Shared.named_iff.1 hnamed
  exact (h.opened q (List.mem_of_getElem? hq)).valid

theorem Keeps.named_unique (h : s.Keeps F lists c) {id' : QueueId} (hid : s.shared.Named id name) (hid' : s.shared.Named id' name) :
    id = id' :=
  (List.getElem?_inj (List.getElem?_eq_some_iff.1 hid).1 h.single).1 (hid.trans hid'.symm)

/-- A destination without a log has no messages. -/
theorem Keeps.eq_nil (h : s.Keeps F lists c) (hvalid : Destination.fault? name = none) (hlog : c (Destination.logName name) = none) :
    lists name = [] := by
  by_cases hmem : name ∈ s.shared.names
  · obtain ⟨q, hq, rfl⟩ := List.mem_map.1 hmem
    obtain ⟨bodies, hm⟩ := (h.opened q hq).mirrors
    obtain ⟨checkpoint, ha, -, -⟩ := hm.attached
    rw [ha.log] at hlog
    cases hlog
  · obtain ⟨-, bodies, taken, stale, hfound⟩ := h.resting name hvalid hmem
    rw [hlog] at hfound
    exact hfound.pending_eq_nil

/-- A broker that begins keeps what is read in the files of all destinations. -/
theorem keeps_begin {storage : String} {place : Place} {d : Disk}
    (hs : (Folder.ofDestinations storage place fun _ => True).Shows c d)
    (hshort : ∀ name, Destination.fault? name = none → ((c (Destination.logName name)).getD []).length ≤ Disk.maxFile)
    (durable : Bool) : (begin storage durable d).Keeps (Folder.ofDestinations storage place fun _ => True) (recovered c) c where
  storage := rfl
  shows := hs
  folder name hvalid := Folder.hasQueue_ofDestinations trivial hvalid
  opened := nofun
  single := .nil
  entries := nofun
  resting name hvalid _ := recovers_recovered hvalid (hshort name hvalid)
  invalid name hinvalid := by
    unfold recovered
    cases hfault : Destination.fault? name with
    | none => exact absurd hfault hinvalid
    | some fault => rfl

/-! ## Changes -/

/-- When a queue works on its files, all other destinations keep what they have. -/
theorem Keeps.update (h : s.Keeps F lists c) (hq : s.shared.queues[id]? = some q) (hname : q'.name = q.name)
    (hsame : SameElsewhere q.name c c') (hext : s.disk.Extends d') {bodies : List Bytes}
    (hm : q'.Mirrors (fun _ _ => True) F c' d' bodies) :
    Keeps F (Function.update lists q.name q'.pending) c' ⟨{ s.shared with queues := s.shared.queues.set id q' }, d'⟩ := by
  obtain ⟨checkpoint, ha, -, -⟩ := hm.attached
  have hvalid := (h.opened q (List.mem_of_getElem? hq)).valid
  have hnames := Shared.names_set hq hname
  refine ⟨h.storage, ha.shows, h.folder, fun q₁ hq₁ => ?_, ?_, fun name id hlookup => ?_, fun other hother hrest => ?_,
    fun other hother => ?_⟩
  · obtain ⟨i, hi⟩ := List.mem_iff_getElem?.1 hq₁
    rw [List.getElem?_set] at hi
    split at hi
    · split at hi
      · cases hi
        refine ⟨hname ▸ hvalid, ⟨bodies, hm⟩, ?_⟩
        rw [hname, Function.update_self]
      · cases hi
    · rename_i hne
      -- Names are unique, so a queue with another number works on other files.
      have hne' : q₁.name ≠ q.name := by
        intro heq
        exact hne (h.named_unique (Shared.named_iff.2 ⟨q, hq, rfl⟩) (Shared.named_iff.2 ⟨q₁, hi, heq⟩))
      exact (h.opened q₁ (List.mem_of_getElem? hi)).elsewhere hsame hvalid hne' hext ha.shows _
  · rw [Shared.names, hnames]
    exact h.single
  · rw [Shared.Named, Shared.names, hnames]
    exact h.entries name id hlookup
  · rw [Shared.names, hnames] at hrest
    have hne : other ≠ q.name := by
      rintro rfl
      exact hrest (List.mem_map.2 ⟨q, List.mem_of_getElem? hq, rfl⟩)
    rw [Function.update_of_ne hne]
    exact (h.resting other hother hrest).elsewhere hsame hvalid hother hne
  · have hne : other ≠ q.name := by
      rintro rfl
      exact hother hvalid
    rw [Function.update_of_ne hne]
    exact h.invalid other hother

/-- When a queue is opened it holds what its files did. -/
theorem Keeps.append (h : s.Keeps F lists c) (hrest : q.name ∉ s.shared.names) (hvalid : Destination.fault? q.name = none)
    (hpending : q.pending = lists q.name) (hsame : SameElsewhere q.name c c') (hext : s.disk.Extends d') {bodies : List Bytes}
    (hm : q.Mirrors (fun _ _ => True) F c' d' bodies) :
    Keeps F lists c' ⟨{ s.shared with queues := s.shared.queues ++ [q] }, d'⟩ := by
  obtain ⟨checkpoint, ha, -, -⟩ := hm.attached
  have hnames : (s.shared.queues ++ [q]).map DurableQueue.name = s.shared.names ++ [q.name] := List.map_append
  refine ⟨h.storage, ha.shows, h.folder, fun q₁ hq₁ => ?_, ?_, fun name id hlookup => ?_, fun other hother hrest' => ?_, h.invalid⟩
  · rcases List.mem_append.1 hq₁ with hq₁ | hq₁
    · have hne : q₁.name ≠ q.name := by
        intro heq
        exact hrest (heq ▸ List.mem_map.2 ⟨q₁, hq₁, rfl⟩)
      have hkept := (h.opened q₁ hq₁).elsewhere hsame hvalid hne hext ha.shows (lists q.name)
      rwa [Function.update_eq_self] at hkept
    · obtain rfl := List.mem_singleton.1 hq₁
      exact ⟨hvalid, ⟨bodies, hm⟩, hpending⟩
  · rw [Shared.names, hnames]
    refine List.nodup_append.2 ⟨h.single, by simp, fun a ha b hb heq => ?_⟩
    exact hrest (List.mem_singleton.1 hb ▸ heq ▸ ha)
  · have hnamed := h.entries name id hlookup
    rw [Shared.Named, Shared.names, hnames, List.getElem?_append_left (List.getElem?_eq_some_iff.1 hnamed).1]
    exact hnamed
  · rw [Shared.names, hnames, List.mem_append, not_or] at hrest'
    have hne : other ≠ q.name := fun heq => hrest'.2 (List.mem_singleton.2 heq)
    exact (h.resting other hother hrest'.1).elsewhere hsame hvalid hother hne

/-- When a queue is entered under its name nothing becomes of any message. -/
theorem Keeps.insert (h : s.Keeps F lists c) (hnamed : s.shared.Named id name) :
    Keeps F lists c ⟨{ s.shared with registry := s.shared.registry.insert name id }, s.disk⟩ := by
  refine ⟨h.storage, h.shows, h.folder, h.opened, h.single, fun other id' hlookup => ?_, h.resting, h.invalid⟩
  by_cases hne : other = name
  · subst hne
    rw [Registry.lookup_insert_self] at hlookup
    exact Option.some.inj hlookup ▸ hnamed
  · rw [Registry.lookup_insert_of_ne hne] at hlookup
    exact h.entries other id' hlookup

/-- Locks do not matter to what is kept. -/
theorem Keeps.locks (h : s.Keeps F lists c) (opening : Bool) (busy : List QueueId) :
    Keeps F lists c ⟨{ s.shared with opening, busy }, s.disk⟩ :=
  ⟨h.storage, h.shows, h.folder, h.opened, h.single, h.entries, h.resting, h.invalid⟩

/-! ## Steps -/

/-- A step that does nothing to the files. -/
theorem eq_of_answers {op : RegistryOp} {reply reply' : op.Reply} {shared : Shared}
    {files : (op : FileOp) → Disk → op.Reply → Disk → Prop} (heq : s.shared.perform op = pure (reply, shared))
    (h : Answers files op s reply' s') : reply' = reply ∧ s' = ⟨shared, s.disk⟩ := by
  rw [Answers, heq, Program.runs_pure_iff] at h
  obtain ⟨hpair, hdisk⟩ := h
  obtain ⟨rfl, hshared⟩ := Prod.mk.inj hpair
  obtain ⟨shared', disk'⟩ := s'
  exact ⟨rfl, congr (congrArg Store.mk hshared) hdisk⟩

/-- The files of a destination for which no queue was opened are opened as they were found. -/
theorem Keeps.of_openQueue (h : s.Keeps F lists c) (hrest : name ∉ s.shared.names) (hvalid : Destination.fault? name = none)
    {reply : Except BrokerError QueueId} (hans : Answers (FileOp.Answers False) (.openQueue name) s reply s') :
    ∃ q c', reply = .ok s.shared.queues.length ∧ s'.shared = { s.shared with queues := s.shared.queues ++ [q] } ∧ q.name = name ∧
      s'.Keeps F lists c' := by
  obtain ⟨hshort, bodies, taken, stale, hfound⟩ := h.resting name hvalid hrest
  obtain ⟨q, c', rfl, hshared, rfl, hpending, hext, hsame, hm⟩ :=
    Shared.runs_openQueue h.storage h.shows (h.folder name hvalid) hvalid hfound hshort hans
  obtain ⟨shared', disk'⟩ := s'
  obtain rfl : shared' = _ := hshared
  exact ⟨q, c', rfl, rfl, rfl, h.append hrest hvalid hpending hsame hext (hm.mono fun _ _ _ => trivial)⟩

/-- A message that is put in is the last of its destination. -/
theorem Keeps.of_enqueue (h : s.Keeps F lists c) (hq : s.shared.queues[id]? = some q) (hfits : m.bytes.length ≤ Log.maxBody)
    {reply : Except BrokerError Unit} (hans : Answers (FileOp.Answers False) (.enqueue id m) s reply s') :
    ∃ q' c', reply = .ok () ∧ s'.shared = { s.shared with queues := s.shared.queues.set id q' } ∧ q'.name = q.name ∧
      s'.Keeps F (Function.update lists q.name (lists q.name ++ [m])) c' := by
  have hkept := h.opened q (List.mem_of_getElem? hq)
  obtain ⟨bodies, hm⟩ := hkept.mirrors
  obtain ⟨q', hwork, hshared⟩ := Shared.runs_onQueue hq hans
  obtain ⟨rfl, hname, hpending, c', hext, helse, hm'⟩ := hm.stores trivial hfits hwork
  obtain ⟨shared', disk'⟩ := s'
  obtain rfl : shared' = _ := hshared
  have hnext := h.update hq hname helse hext hm'
  rw [hpending, hkept.pending] at hnext
  exact ⟨q', c', rfl, rfl, hname, hnext⟩

/-- The message that is taken is the first of its destination. -/
theorem Keeps.of_dequeue (h : s.Keeps F lists c) (hq : s.shared.queues[id]? = some q)
    {reply : Except BrokerError (Option Message)} (hans : Answers (FileOp.Answers False) (.dequeue id) s reply s') :
    ∃ q' c', reply = .ok (lists q.name).head? ∧ s'.shared = { s.shared with queues := s.shared.queues.set id q' } ∧
      q'.name = q.name ∧ s'.Keeps F (Function.update lists q.name (lists q.name).tail) c' := by
  have hkept := h.opened q (List.mem_of_getElem? hq)
  obtain ⟨bodies, hm⟩ := hkept.mirrors
  obtain ⟨q', hwork, hshared⟩ := Shared.runs_onQueue hq hans
  obtain ⟨rfl, hname, hpending, c', hext, helse, hm'⟩ := hm.delivers hwork
  obtain ⟨shared', disk'⟩ := s'
  obtain rfl : shared' = _ := hshared
  have hnext := h.update hq hname helse hext hm'
  rw [hpending, hkept.pending] at hnext
  rw [hkept.pending]
  exact ⟨q', c', rfl, rfl, hname, hnext⟩

/-- An open queue is empty when its destination has no messages. -/
theorem Keeps.of_isEmpty (h : s.Keeps F lists c) (hq : s.shared.queues[id]? = some q) {reply : Bool}
    {files : (op : FileOp) → Disk → op.Reply → Disk → Prop} (hans : Answers files (.isEmpty id) s reply s') :
    reply = (lists q.name).isEmpty ∧ s' = s := by
  obtain ⟨rfl, rfl⟩ := eq_of_answers rfl hans
  rw [hq, Option.all_some, isEmpty, (h.opened q (List.mem_of_getElem? hq)).pending]
  exact ⟨rfl, rfl⟩

end Store

end QueueBroker

import QueueBroker.Proofs.Broker.Keeping
import QueueBroker.Proofs.Broker.Stages

/-!
# One step of a session among others

Whoever may open queues owns one fact: every queue that was opened is entered, but for one that it has just opened itself. The others
rely on it that meanwhile no queue is opened or entered. `Store.Advances` says what one step of one session comes to: where it leads
the session, what becomes of the lists of messages, and what the other sessions may go on relying on.
-/

namespace QueueBroker

open DurableQueue

variable {F : Folder} {lists : Fifo} {c : Contents} {name : String} {id : QueueId} {r : Request} {stage stage' : Stage}

namespace Fifo

/-- Where there is no message, and none is put in, the answer is that of no messages. -/
theorem answer_of_nil (hnil : lists r.destination = [])
    (hsend : ∀ m, r = .send m → Destination.fault? m.destination ≠ none) : answer r lists = ((answer r empty).1, lists) := by
  cases r with
  | send m =>
    cases hfault : Destination.fault? m.destination with
    | none => exact absurd hfault (hsend m rfl)
    | some fault => rw [answer, answer, hfault]
  | check name =>
    have hname : lists name = [] := hnil
    rw [answer, answer, hname, empty]
  | receive name =>
    have hname : lists name = [] := hnil
    rw [answer, answer, hname, empty]

end Fifo

/-! ## What sessions rely on -/

namespace Shared

/-- Whether every queue that was opened is entered under its name. -/
def AllEntered (s : Shared) : Prop :=
  ∀ id name, s.Named id name → s.registry.lookup name = some id

end Shared

variable {s s' : Shared}

/-- What a session relies on in a stage. -/
def Stage.Fits (name : String) (s : Shared) : Stage → Prop
  | .asking => True
  | .opening => s.AllEntered
  | .absent => s.AllEntered ∧ name ∉ s.names
  | .opened id => s.Named id name ∧ ∀ id' other, s.Named id' other → id' = id ∨ s.registry.lookup other = some id'
  | .entered id => s.Named id name ∧ s.AllEntered
  | .found id => s.Named id name
  | .answered _ => True

/-- What the step of one session leaves to the others. -/
structure Moved (name : String) (s s' : Shared) (stage stage' : Stage) : Prop where
  fits : stage'.Fits name s'
  grows : ∀ id other, s.Named id other → s'.Named id other
  /-- Only who may open queues does. -/
  quiet : ¬stage.Locked → s'.names = s.names ∧ s'.registry = s.registry
  /-- Who may open queues from now on could before, or nobody could. -/
  locks : stage'.Locked → s'.opening = true ∧ (stage.Locked ∨ s.opening = false)
  keeps : ¬stage.Locked → s.opening = true → s'.opening = true
  releases : stage.Locked → ¬stage'.Locked → s'.AllEntered

/-- What the step of one session makes of lists of messages: nothing, or what the request asks for. -/
inductive Effect (r : Request) (lists : Fifo) : Stage → Stage → Fifo → Prop where
  | silent {stage stage' : Stage} : stage'.response? = stage.response? → Effect r lists stage stage' lists
  | answers {stage : Stage} : stage.response? = none →
      Effect r lists stage (.answered (Fifo.answer r lists).1) (Fifo.answer r lists).2

/-- A stage that fits goes on fitting while queues and registry stay as they are. -/
theorem Stage.Fits.of_same (h : stage.Fits name s) (hnames : s'.names = s.names) (hregistry : s'.registry = s.registry) :
    stage.Fits name s' := by
  have hnamed : ∀ id other, s'.Named id other ↔ s.Named id other := by
    intro id other
    rw [Shared.Named, hnames, Shared.Named]
  have hentered : s.AllEntered → s'.AllEntered := by
    intro hall id other hother
    rw [hregistry]
    exact hall id other ((hnamed id other).1 hother)
  cases stage with
  | asking => trivial
  | opening => exact hentered h
  | absent => exact ⟨hentered h.1, hnames ▸ h.2⟩
  | opened id =>
    refine ⟨(hnamed id name).2 h.1, fun id' other hother => ?_⟩
    rw [hregistry]
    exact h.2 id' other ((hnamed id' other).1 hother)
  | entered id => exact ⟨(hnamed id name).2 h.1, hentered h.2⟩
  | found id => exact (hnamed id name).2 h
  | answered response => trivial

/-- A step that changes neither the queues nor the registry nor who may open queues. -/
theorem Moved.of_same (hnames : s'.names = s.names) (hregistry : s'.registry = s.registry) (hopening : s'.opening = s.opening)
    (hlocked : stage'.Locked ↔ stage.Locked) (hlock : stage.Locked → s.opening = true) (hfits : stage'.Fits name s) :
    Moved name s s' stage stage' where
  fits := hfits.of_same hnames hregistry
  grows id other hother := by
    rw [Shared.Named, hnames]
    exact hother
  quiet _ := ⟨hnames, hregistry⟩
  locks h := ⟨hopening.trans (hlock (hlocked.1 h)), Or.inl (hlocked.1 h)⟩
  keeps _ h := hopening.trans h
  releases h h' := absurd (hlocked.2 h) h'

/-- What another session relies on is left to it. -/
theorem Moved.fits_other (h : Moved name s s' stage stage') {other : String} {stage₁ : Stage} (hfits : stage₁.Fits other s)
    (halone : stage₁.Locked → ¬stage.Locked) : stage₁.Fits other s' := by
  by_cases hlocked : stage₁.Locked
  · obtain ⟨hnames, hregistry⟩ := h.quiet (halone hlocked)
    exact hfits.of_same hnames hregistry
  · cases stage₁ with
    | asking => trivial
    | found id => exact h.grows id other hfits
    | answered response => trivial
    | opening => exact absurd trivial hlocked
    | absent => exact absurd trivial hlocked
    | opened id => exact absurd trivial hlocked
    | entered id => exact absurd trivial hlocked

/-- At most one session may open queues, and while none may every queue is entered. -/
structure Coordinated (s : Shared) (stages : Nat → Stage) : Prop where
  alone : ∀ session other, (stages session).Locked → (stages other).Locked → session = other
  locks : ∀ session, (stages session).Locked → s.opening = true
  free : (∀ session, ¬(stages session).Locked) → s.AllEntered

variable {stages : Nat → Stage} {session : Nat}

/-- A session that begins to ask, and could not open queues before, changes nothing. -/
theorem Coordinated.asking (h : Coordinated s stages) (hidle : ¬(stages session).Locked) :
    Coordinated s (Function.update stages session .asking) := by
  have hlocked : ∀ other, (Function.update stages session .asking other).Locked ↔ (stages other).Locked := by
    intro other
    by_cases hne : other = session
    · subst hne
      rw [Function.update_self]
      exact ⟨fun h => h.elim, fun h => hidle h⟩
    · rw [Function.update_of_ne hne]
  refine ⟨fun i j hi hj => h.alone i j ((hlocked i).1 hi) ((hlocked j).1 hj), fun i hi => h.locks i ((hlocked i).1 hi), fun hall => ?_⟩
  exact h.free fun i hi => hall i ((hlocked i).2 hi)

/-- Steps of sessions keep it so. -/
theorem Coordinated.moved (h : Coordinated s stages) (hmoved : Moved name s s' (stages session) stage') :
    Coordinated s' (Function.update stages session stage') := by
  -- Who may open queues now could before, or nobody could: then there is no other.
  have honly : stage'.Locked → ∀ other, other ≠ session → ¬(stages other).Locked := by
    intro hlocked other hne hother
    rcases (hmoved.locks hlocked).2 with hbefore | hfree
    · exact hne (h.alone other session hother hbefore)
    · rw [h.locks other hother] at hfree
      cases hfree
  refine ⟨fun i j hi hj => ?_, fun i hi => ?_, fun hall => ?_⟩
  · by_cases hisession : i = session
    · by_cases hjsession : j = session
      · rw [hisession, hjsession]
      · rw [hisession, Function.update_self] at hi
        rw [Function.update_of_ne hjsession] at hj
        exact absurd hj (honly hi j hjsession)
    · rw [Function.update_of_ne hisession] at hi
      by_cases hjsession : j = session
      · rw [hjsession, Function.update_self] at hj
        exact absurd hi (honly hj i hisession)
      · rw [Function.update_of_ne hjsession] at hj
        exact h.alone i j hi hj
  · by_cases hisession : i = session
    · rw [hisession, Function.update_self] at hi
      exact (hmoved.locks hi).1
    · rw [Function.update_of_ne hisession] at hi
      exact hmoved.keeps (fun hsession => hisession (h.alone i session hi hsession)) (h.locks i hi)
  · have hstage : ¬stage'.Locked := by
      have hsession := hall session
      rwa [Function.update_self] at hsession
    by_cases hsession : (stages session).Locked
    · exact hmoved.releases hsession hstage
    · have hentered : s.AllEntered := h.free fun i hi => by
        by_cases hisession : i = session
        · exact hsession (hisession ▸ hi)
        · have hnot := hall i
          rw [Function.update_of_ne hisession] at hnot
          exact hnot hi
      have hfits : Stage.opening.Fits name s := hentered
      obtain ⟨hnames, hregistry⟩ := hmoved.quiet hsession
      exact hfits.of_same hnames hregistry

/-! ## Steps -/

namespace Store

variable {s s' : Store} {m : Message}

/-- What a step of a session in some stage comes to. -/
def Advances (F : Folder) (r : Request) (lists : Fifo) (stage : Stage) (op : RegistryOp) (s : Store) (reply : op.Reply)
    (s' : Store) : Prop :=
  ∃ stage' lists' c', r.Moves stage op reply stage' ∧ Effect r lists stage stage' lists' ∧ s'.Keeps F lists' c' ∧
    Moved r.destination s.shared s'.shared stage stage'

/-- A step that changes nothing, and answers for nothing. -/
theorem Keeps.advances_same (h : s.Keeps F lists c) {op : RegistryOp} {reply : op.Reply} (hmoves : r.Moves stage op reply stage')
    (hresponse : stage'.response? = stage.response?) (hlocked : stage'.Locked ↔ stage.Locked)
    (hlock : stage.Locked → s.shared.opening = true) (hfits : stage'.Fits r.destination s.shared) :
    Advances F r lists stage op s reply s :=
  ⟨stage', lists, c, hmoves, .silent hresponse, h, .of_same rfl rfl rfl hlocked hlock hfits⟩

/-- A step that changes nothing, and finds that there is nothing to be done. -/
theorem Keeps.advances_nothing (h : s.Keeps F lists c) {op : RegistryOp} {reply : op.Reply}
    (hmoves : r.Moves .asking op reply (.answered (Fifo.answer r Fifo.empty).1)) (hnil : lists r.destination = [])
    (hsend : ∀ m, r = .send m → Destination.fault? m.destination ≠ none) : Advances F r lists .asking op s reply s := by
  have heffect : Effect r lists .asking (.answered (Fifo.answer r lists).1) (Fifo.answer r lists).2 := .answers rfl
  rw [Fifo.answer_of_nil hnil hsend] at heffect
  exact ⟨_, lists, c, hmoves, heffect, h, .of_same rfl rfl rfl Iff.rfl (fun h => h.elim) trivial⟩

theorem Keeps.advances_look (h : s.Keeps F lists c) {reply : Option QueueId}
    (hans : Answers (FileOp.Answers False) (.lookup r.destination) s reply s') :
    Advances F r lists .asking (.lookup r.destination) s reply s' := by
  obtain ⟨rfl, rfl⟩ := eq_of_answers rfl hans
  cases hlookup : s.shared.registry.lookup r.destination with
  | some id => exact h.advances_same .found rfl Iff.rfl (fun h => h.elim) (h.entries _ id hlookup)
  | none =>
    cases hfault : Destination.fault? r.destination with
    | none => exact h.advances_same (.unknown hfault) rfl Iff.rfl (fun h => h.elim) trivial
    | some fault =>
      have hinvalid : Destination.fault? r.destination ≠ none := by
        rw [hfault]
        nofun
      refine h.advances_nothing (.invalid hfault) (h.invalid _ hinvalid) ?_
      rintro m rfl
      exact hinvalid

theorem Keeps.advances_stat (h : s.Keeps F lists c) (hvalid : Destination.fault? r.destination = none) (hsend : ∀ m, r ≠ .send m)
    {reply : Except BrokerError Bool} (hans : Answers (FileOp.Answers False) (.hasLog r.destination) s reply s') :
    Advances F r lists .asking (.hasLog r.destination) s reply s' := by
  obtain ⟨shared', disk'⟩ := s'
  obtain ⟨rfl, rfl, rfl⟩ := Shared.runs_hasLog h.storage h.shows (h.folder _ hvalid) hans
  cases hlog : c (Destination.logName r.destination) with
  | some bytes => exact h.advances_same .logged rfl Iff.rfl (fun h => h.elim) trivial
  | none => exact h.advances_nothing .unlogged (h.eq_nil hvalid hlog) fun m hm => absurd hm (hsend m)

theorem Keeps.advances_lock (h : s.Keeps F lists c) (hfree : s.shared.opening = false → s.shared.AllEntered)
    (hready : s.shared.ready .lockOpening = true) {reply : Unit} (hans : Answers (FileOp.Answers False) .lockOpening s reply s') :
    Advances F r lists .asking .lockOpening s reply s' := by
  obtain ⟨rfl, rfl⟩ := eq_of_answers rfl hans
  have hopening : s.shared.opening = false := by simpa [Shared.ready] using hready
  refine ⟨.opening, lists, c, .lock, .silent rfl, h.locks true _, ?_⟩
  exact {
    fits := hfree hopening
    grows := fun _ _ hnamed => hnamed
    quiet := fun _ => ⟨rfl, rfl⟩
    locks := fun _ => ⟨rfl, Or.inr hopening⟩
    keeps := fun _ _ => rfl
    releases := fun h => h.elim }

theorem Keeps.advances_lookAgain (h : s.Keeps F lists c) (hentered : s.shared.AllEntered) (hlock : s.shared.opening = true)
    {reply : Option QueueId} (hans : Answers (FileOp.Answers False) (.lookup r.destination) s reply s') :
    Advances F r lists .opening (.lookup r.destination) s reply s' := by
  obtain ⟨rfl, rfl⟩ := eq_of_answers rfl hans
  cases hlookup : s.shared.registry.lookup r.destination with
  | some id => exact h.advances_same .present rfl Iff.rfl (fun _ => hlock) ⟨h.entries _ id hlookup, hentered⟩
  | none =>
    refine h.advances_same .absent rfl Iff.rfl (fun _ => hlock) ⟨hentered, fun hmem => ?_⟩
    obtain ⟨id, hid⟩ := List.mem_iff_getElem?.1 hmem
    rw [hentered id _ hid] at hlookup
    cases hlookup

theorem Keeps.advances_make (h : s.Keeps F lists c) (hfits : Stage.absent.Fits r.destination s.shared)
    (hlock : s.shared.opening = true) {reply : Except BrokerError Unit}
    (hans : Answers (FileOp.Answers False) .makeStorage s reply s') : Advances F r lists .absent .makeStorage s reply s' := by
  obtain ⟨shared', disk'⟩ := s'
  obtain ⟨rfl, rfl, rfl⟩ := Shared.runs_makeStorage h.storage h.shows hans
  exact h.advances_same .made rfl Iff.rfl (fun _ => hlock) hfits

theorem Keeps.advances_openQueue (h : s.Keeps F lists c) (hfits : Stage.absent.Fits r.destination s.shared)
    (hvalid : Destination.fault? r.destination = none) (hlock : s.shared.opening = true) {reply : Except BrokerError QueueId}
    (hans : Answers (FileOp.Answers False) (.openQueue r.destination) s reply s') :
    Advances F r lists .absent (.openQueue r.destination) s reply s' := by
  obtain ⟨hentered, hrest⟩ := hfits
  obtain ⟨q, c', rfl, hshared, hname, hkeeps⟩ := h.of_openQueue hrest hvalid hans
  have hnames : s'.shared.names = s.shared.names ++ [r.destination] := by
    rw [Shared.names, hshared, List.map_append, List.map_singleton, hname]
    rfl
  have hold : ∀ id other, s.shared.Named id other → s'.shared.Named id other := by
    intro id other hnamed
    rw [Shared.Named, hnames, List.getElem?_append_left (List.getElem?_eq_some_iff.1 hnamed).1]
    exact hnamed
  have hlength : s.shared.names.length = s.shared.queues.length := List.length_map _
  have hnew : s'.shared.Named s.shared.queues.length r.destination := by
    rw [Shared.Named, hnames, ← hlength]
    exact List.getElem?_concat_length
  -- Every queue but the new one was entered before.
  have hothers : ∀ id other, s'.shared.Named id other →
      id = s.shared.queues.length ∨ s'.shared.registry.lookup other = some id := by
    intro id other hnamed
    by_cases hid : id < s.shared.names.length
    · rw [Shared.Named, hnames, List.getElem?_append_left hid] at hnamed
      rw [hshared]
      exact Or.inr (hentered id other hnamed)
    · have hlt := (List.getElem?_eq_some_iff.1 hnamed).1
      rw [hnames, List.length_append, List.length_singleton] at hlt
      exact Or.inl (Nat.le_antisymm (hlength ▸ Nat.le_of_lt_succ hlt) (hlength ▸ Nat.le_of_not_lt hid))
  refine ⟨.opened _, lists, c', .opened, .silent rfl, hkeeps, ?_⟩
  exact {
    fits := ⟨hnew, hothers⟩
    grows := hold
    quiet := fun h => absurd trivial h
    locks := fun _ => ⟨by rw [hshared]; exact hlock, Or.inl trivial⟩
    keeps := fun h => absurd trivial h
    releases := fun _ h => absurd trivial h }

theorem Keeps.advances_insert (h : s.Keeps F lists c) (hfits : (Stage.opened id).Fits r.destination s.shared)
    (hlock : s.shared.opening = true) {reply : Unit}
    (hans : Answers (FileOp.Answers False) (.insert r.destination id) s reply s') :
    Advances F r lists (.opened id) (.insert r.destination id) s reply s' := by
  obtain ⟨hnamed, hothers⟩ := hfits
  obtain ⟨rfl, rfl⟩ := eq_of_answers rfl hans
  have hentered : Shared.AllEntered { s.shared with registry := s.shared.registry.insert r.destination id } := by
    intro id' other hother
    by_cases hname : other = r.destination
    · subst hname
      obtain rfl := h.named_unique hnamed hother
      exact Registry.lookup_insert_self
    · rcases hothers id' other hother with rfl | hlookup
      · exact absurd (Option.some.inj (hother.symm.trans hnamed)) hname
      · exact (Registry.lookup_insert_of_ne hname).trans hlookup
  refine ⟨.entered id, lists, c, .insert, .silent rfl, h.insert hnamed, ?_⟩
  exact {
    fits := ⟨hnamed, hentered⟩
    grows := fun _ _ hother => hother
    quiet := fun h => absurd trivial h
    locks := fun _ => ⟨hlock, Or.inl trivial⟩
    keeps := fun h => absurd trivial h
    releases := fun _ h => absurd trivial h }

theorem Keeps.advances_unlock (h : s.Keeps F lists c) (hfits : (Stage.entered id).Fits r.destination s.shared) {reply : Unit}
    (hans : Answers (FileOp.Answers False) .unlockOpening s reply s') :
    Advances F r lists (.entered id) .unlockOpening s reply s' := by
  obtain ⟨hnamed, hentered⟩ := hfits
  obtain ⟨rfl, rfl⟩ := eq_of_answers rfl hans
  refine ⟨.found id, lists, c, .unlock, .silent rfl, h.locks false _, ?_⟩
  exact {
    fits := hnamed
    grows := fun _ _ hother => hother
    quiet := fun h => absurd trivial h
    locks := fun h => h.elim
    keeps := fun h => absurd trivial h
    releases := fun _ _ => hentered }

/-- A step that only takes or gives back a queue. -/
theorem Keeps.advances_busy (h : s.Keeps F lists c) {op : RegistryOp} {reply : op.Reply} (hmoves : r.Moves stage op reply stage')
    (hresponse : stage'.response? = stage.response?) (hlocked : stage'.Locked ↔ stage.Locked)
    (hlock : stage.Locked → s.shared.opening = true) (hfits : stage'.Fits r.destination s.shared) (busy : List QueueId) :
    Advances F r lists stage op s reply ⟨{ s.shared with busy }, s.disk⟩ :=
  ⟨stage', lists, c, hmoves, .silent hresponse, h.locks _ busy, .of_same rfl rfl rfl hlocked hlock hfits⟩

/-- A step that does all that there is to do to the queue that was found. -/
theorem Keeps.advances_done (hkeeps : ∃ c', s'.Keeps F (Fifo.answer r lists).2 c') {op : RegistryOp} {reply : op.Reply}
    (hmoves : r.Moves (.found id) op reply (.answered (Fifo.answer r lists).1)) (hnames : s'.shared.names = s.shared.names)
    (hregistry : s'.shared.registry = s.shared.registry) (hopening : s'.shared.opening = s.shared.opening) :
    Advances F r lists (.found id) op s reply s' := by
  obtain ⟨c', hkeeps⟩ := hkeeps
  exact ⟨_, _, c', hmoves, .answers rfl, hkeeps, .of_same hnames hregistry hopening Iff.rfl (fun h => h.elim) trivial⟩

theorem Keeps.advances_put (h : s.Keeps F lists c) (hnamed : s.shared.Named id m.destination) (hfits : m.bytes.length ≤ Log.maxBody)
    {reply : Except BrokerError Unit} (hans : Answers (FileOp.Answers False) (.enqueue id m) s reply s') :
    Advances F (.send m) lists (.found id) (.enqueue id m) s reply s' := by
  have hvalid := h.valid_of_named hnamed
  obtain ⟨q, hq, hname⟩ := Shared.named_iff.1 hnamed
  obtain ⟨q', c', rfl, hshared, hname', hkeeps⟩ := h.of_enqueue hq hfits hans
  have hanswer : Fifo.answer (.send m) lists = (.ack, Function.update lists m.destination (lists m.destination ++ [m])) := by
    rw [Fifo.answer, hvalid]
  rw [hname] at hkeeps
  refine Keeps.advances_done ⟨c', ?_⟩ ?_ ?_ ?_ ?_
  · rw [hanswer]
    exact hkeeps
  · rw [hanswer]
    exact .put
  · rw [Shared.names, hshared, Shared.names_set hq hname']
  · rw [hshared]
  · rw [hshared]

theorem Keeps.advances_check (h : s.Keeps F lists c) (hnamed : s.shared.Named id name) {reply : Bool}
    (hans : Answers (FileOp.Answers False) (.isEmpty id) s reply s') :
    Advances F (.check name) lists (.found id) (.isEmpty id) s reply s' := by
  obtain ⟨q, hq, rfl⟩ := Shared.named_iff.1 hnamed
  obtain ⟨rfl, rfl⟩ := h.of_isEmpty hq hans
  exact Keeps.advances_done ⟨c, h⟩ .check rfl rfl rfl

theorem Keeps.advances_take (h : s.Keeps F lists c) (hnamed : s.shared.Named id name)
    {reply : Except BrokerError (Option Message)} (hans : Answers (FileOp.Answers False) (.dequeue id) s reply s') :
    Advances F (.receive name) lists (.found id) (.dequeue id) s reply s' := by
  obtain ⟨q, hq, rfl⟩ := Shared.named_iff.1 hnamed
  obtain ⟨q', c', rfl, hshared, hname, hkeeps⟩ := h.of_dequeue hq hans
  have hanswer : Fifo.answer (.receive q.name) lists =
      ((lists q.name).head?.elim .empty .message, Function.update lists q.name (lists q.name).tail) := by
    rw [Fifo.answer]
    cases hlist : lists q.name with
    | nil =>
      have hsame : Function.update lists q.name [] = lists := by rw [← hlist, Function.update_eq_self]
      rw [List.tail_nil, hsame]
      rfl
    | cons m rest => rfl
  refine Keeps.advances_done ⟨c', ?_⟩ ?_ ?_ ?_ ?_
  · rw [hanswer]
    exact hkeeps
  · rw [hanswer]
    exact .take
  · rw [Shared.names, hshared, Shared.names_set hq hname]
  · rw [hshared]
  · rw [hshared]

/-- Every step that a session may make. -/
theorem Keeps.advances (h : s.Keeps F lists c) (hfits : stage.Fits r.destination s.shared)
    (hlock : stage.Locked → s.shared.opening = true) (hfree : s.shared.opening = false → s.shared.AllEntered)
    (hshort : ∀ m, r = .send m → m.bytes.length ≤ Log.maxBody) {op : RegistryOp} (hasks : r.Asks stage op)
    (hready : s.shared.ready op = true) {reply : op.Reply} (hans : Answers (FileOp.Answers False) op s reply s') :
    Advances F r lists stage op s reply s' := by
  cases hasks with
  | look => exact h.advances_look hans
  | stat hvalid hsend => exact h.advances_stat hvalid hsend hans
  | lock => exact h.advances_lock hfree hready hans
  | lookAgain => exact h.advances_lookAgain hfits (hlock trivial) hans
  | make => exact h.advances_make hfits (hlock trivial) hans
  | openQueue hvalid => exact h.advances_openQueue hfits hvalid (hlock trivial) hans
  | insert => exact h.advances_insert hfits (hlock trivial) hans
  | unlock => exact h.advances_unlock hfits hans
  | hold =>
    obtain ⟨rfl, rfl⟩ := eq_of_answers rfl hans
    exact h.advances_busy .hold rfl Iff.rfl (fun h => h.elim) hfits _
  | release =>
    obtain ⟨rfl, rfl⟩ := eq_of_answers rfl hans
    exact h.advances_busy .release rfl Iff.rfl (fun h => h.elim) trivial _
  | put hr =>
    subst hr
    exact h.advances_put hfits (hshort _ rfl) hans
  | check hr =>
    subst hr
    exact h.advances_check hfits hans
  | take hr =>
    subst hr
    exact h.advances_take hfits hans

end Store

end QueueBroker

import QueueBroker.Proofs.Broker.Fates

/-!
# Calls on one registry

Any number of calls ask one registry for queues or close them all, and whoever has a queue works on it; between any two steps of one
call the others may make theirs, and any operation on files may fail. `Tasks.one_open_unless_lost` says when a destination has two open
queues, which queues have files in common, and which are left open when all calls are over. A call that closes all queues keeps nobody
from opening them: a destination may come to have two while the first is still to be closed, and a queue may be forgotten that nobody will
close (`Tasks.opened_twice`).
-/

namespace QueueBroker

open DurableQueue

variable {storage name : String} {id : QueueId} {stands : Nat → Stand}

/-! ## Calls at the same time -/

/-- A call that was made, and what is left of it. -/
structure RegistryTask where
  call : RegistryCall
  left : RegistryProgram (Except BrokerError (Option QueueId))

namespace RegistryTask

/-- Whether a call has its result. -/
def isOver (task : RegistryTask) : Bool :=
  task.left.result?.isSome

end RegistryTask

/-- A store, all calls that were ever made on it, and the steps that they have made, the last one last. -/
structure Tasks where
  store : Store
  tasks : List RegistryTask
  steps : List RegistryStep

namespace Tasks

/-- A store on which no call was made yet. -/
def start (s : Store) : Tasks :=
  ⟨s, [], []⟩

/-- A call is made. -/
def called (t : Tasks) (call : RegistryCall) : Tasks :=
  { t with tasks := t.tasks ++ [⟨call, call.program⟩] }

/-- A call has made a step, after which something else is left of it. -/
def worked (t : Tasks) (step : RegistryStep) (call : RegistryCall)
    (left : RegistryProgram (Except BrokerError (Option QueueId))) (store : Store) : Tasks where
  store
  tasks := t.tasks.set step.task ⟨call, left⟩
  steps := t.steps ++ [step]

/-- What may happen next: a call is made, one makes a step, or a queue is used; a step may have to wait for a lock, and any operation on
files may fail in it. -/
inductive Goes (t : Tasks) : Tasks → Prop where
  | called (call : RegistryCall) : Goes t (t.called call)
  | worked {i : Nat} {call : RegistryCall} {op : RegistryOp} {next : op.Reply → RegistryProgram (Except BrokerError (Option QueueId))}
      {reply : op.Reply} {store : Store} : t.tasks[i]? = some ⟨call, .ask op next⟩ → t.store.shared.ready op = true →
      Store.Answers (FileOp.Answers True) op t.store reply store → Goes t (t.worked ⟨i, op, reply⟩ call (next reply) store)
  | used {op : RegistryOp} {reply : op.Reply} {store : Store} : op.IsUse → t.store.shared.ready op = true →
      Store.Answers (FileOp.Answers True) op t.store reply store → Goes t { t with store }

/-- What may come of some calls in time. -/
abbrev Later : Tasks → Tasks → Prop :=
  Relation.ReflTransGen Goes

variable {t : Tasks} {call : RegistryCall} {i : Nat}

/-- How far all calls have come, and what they rely on. -/
structure Placed (storage : String) (t : Tasks) (stands : Nat → Stand) : Prop where
  grounded : t.store.Grounded storage
  coherent : Coherent t.store.shared t.steps stands
  leads : ∀ i task, t.tasks[i]? = some task → Stand.Leads task.left (stands i) fun _ stand => stand = task.call.finish
  idle : ∀ i, t.tasks.length ≤ i → stands i = .looking

theorem placed_start {d : Disk} (ht : d.IsTree) (durable : Bool) :
    (start (Store.begin storage durable d)).Placed storage fun _ => .looking where
  grounded := Store.grounded_begin ht storage durable
  coherent := coherent_start rfl rfl
  leads := fun _ _ htask => by cases htask
  idle := fun _ _ => rfl

theorem Placed.called (h : t.Placed storage stands) (call : RegistryCall) :
    (t.called call).Placed storage (Function.update stands t.tasks.length call.begin) := by
  have hnew : stands t.tasks.length = .looking := h.idle _ (Nat.le_refl _)
  -- A call that begins relies on nothing, as if it had not been made.
  have hunmarked : Unmarked t.store.shared t.store.shared (stands t.tasks.length) call.begin := by
    rw [hnew]
    cases call <;>
      exact .of_bare (RegistryCall.fits_begin _ _) (fun h => h) (fun _ _ => ⟨nofun, nofun⟩) fun _ => ⟨fun h => h, fun h => h⟩
  refine ⟨h.grounded, h.coherent.unmarked hunmarked, fun j task htask => ?_, fun j hj => ?_⟩
  · change (t.tasks ++ [_])[j]? = some task at htask
    rcases Nat.lt_trichotomy j t.tasks.length with hlt | rfl | hgt
    · rw [List.getElem?_append_left hlt] at htask
      rw [Function.update_of_ne (Nat.ne_of_lt hlt)]
      exact h.leads j task htask
    · rw [List.getElem?_concat_length] at htask
      cases htask
      rw [Function.update_self]
      exact call.leads_program
    · rw [List.getElem?_eq_none (by rw [List.length_append, List.length_singleton]; exact hgt)] at htask
      cases htask
  · have hj : t.tasks.length + 1 ≤ j := by simpa [Tasks.called] using hj
    rw [Function.update_of_ne (by omega)]
    exact h.idle j (by omega)

theorem Placed.worked (h : t.Placed storage stands) {op : RegistryOp}
    {next : op.Reply → RegistryProgram (Except BrokerError (Option QueueId))} {reply : op.Reply} {store : Store}
    (htask : t.tasks[i]? = some ⟨call, .ask op next⟩) (hready : t.store.shared.ready op = true)
    (hans : Store.Answers (FileOp.Answers True) op t.store reply store) :
    ∃ stand, (t.worked ⟨i, op, reply⟩ call (next reply) store).Placed storage (Function.update stands i stand) := by
  have hlt : i < t.tasks.length := (List.getElem?_eq_some_iff.1 htask).1
  obtain ⟨hallows, hnext⟩ := h.leads i _ htask
  obtain ⟨stand, hmoves⟩ := hallows.moves reply
  obtain ⟨heffect, hgrounded⟩ := h.grounded.step hans
  have hshift := hmoves.shift heffect hready (h.coherent.standing.fits i)
  refine ⟨stand, hgrounded, h.coherent.moved hshift, fun j task htask' => ?_, fun j hj => ?_⟩
  · change (t.tasks.set i _)[j]? = some task at htask'
    by_cases hne : i = j
    · subst hne
      rw [List.getElem?_set_self hlt] at htask'
      cases htask'
      rw [Function.update_self]
      exact hnext reply stand hmoves
    · rw [List.getElem?_set_ne hne] at htask'
      rw [Function.update_of_ne (Ne.symm hne)]
      exact h.leads j task htask'
  · have hj : t.tasks.length ≤ j := by simpa [Tasks.worked] using hj
    rw [Function.update_of_ne (by omega)]
    exact h.idle j hj

theorem Placed.used (h : t.Placed storage stands) {op : RegistryOp} {reply : op.Reply} {store : Store} (huse : op.IsUse)
    (hans : Store.Answers (FileOp.Answers True) op t.store reply store) : Placed storage { t with store } stands := by
  obtain ⟨heffect, hgrounded⟩ := h.grounded.step hans
  have hunmarked : Unmarked t.store.shared store.shared (stands 0) (stands 0) :=
    .of_same (heffect.leaves huse) (h.coherent.standing.fits 0)
  have hcoherent := h.coherent.unmarked hunmarked
  rw [Function.update_eq_self] at hcoherent
  exact ⟨hgrounded, hcoherent, h.leads, h.idle⟩

theorem Later.placed {d : Disk} (ht : d.IsTree) {durable : Bool} (h : (start (Store.begin storage durable d)).Later t) :
    ∃ stands, t.Placed storage stands := by
  induction h with
  | refl => exact ⟨_, placed_start ht durable⟩
  | tail _ hgoes ih =>
    obtain ⟨stands, hplaced⟩ := ih
    cases hgoes with
    | called call => exact ⟨_, hplaced.called call⟩
    | worked htask hready hans =>
      obtain ⟨stand, hplaced'⟩ := hplaced.worked htask hready hans
      exact ⟨_, hplaced'⟩
    | used huse _ hans => exact ⟨_, hplaced.used huse hans⟩

/-- A call that has something in hand is not over. -/
theorem Placed.exists_task (h : t.Placed storage stands) (hi : ∀ call : RegistryCall, stands i ≠ call.finish) :
    ∃ task, t.tasks[i]? = some task ∧ task.isOver = false := by
  cases htask : t.tasks[i]? with
  | none => exact absurd (h.idle i (List.getElem?_eq_none_iff.1 htask)) (hi (.get ""))
  | some task =>
    have hleads := h.leads i task htask
    obtain ⟨call, left⟩ := task
    cases left with
    | ask op next => exact ⟨_, rfl, rfl⟩
    | done result => exact absurd hleads (hi call)

/-! ## Open queues of a destination -/

/-- What is true of all queues that were ever opened, in whatever order calls made their steps. -/
structure OneOpenUnlessLost (storage : String) (t : Tasks) : Prop where
  /-- A destination has two open queues exactly if one of them was opened when the other, which is open still, had lost its entry. -/
  two : ∀ id id' name, t.store.shared.Active id name → t.store.shared.Active id' name →
    (id < id' ↔ Reopened t.steps name id id')
  /-- An open queue is the one that is entered for its destination exactly from its entering to the next clearing of entries. -/
  entered : ∀ id name, t.store.shared.Active id name →
    (t.store.shared.registry.lookup name = some id ↔ (fateOf id t.steps).Listed)
  /-- An open queue is one that some call at work has noted, and will close, exactly if a call looked at the entries in that time. -/
  closing : ∀ id name, t.store.shared.Active id name →
    ((fateOf id t.steps).Noted ↔ ∃ i task, t.tasks[i]? = some task ∧ task.isOver = false ∧ NotedBy t.steps i id)
  /-- Once all calls have their results, an open queue is the one that is entered for its destination, unless it was forgotten: entered
  after a call had looked at the entries and before that cleared them, and not noted by another in between. -/
  settled : (∀ task ∈ t.tasks, task.isOver = true) → ∀ id name, t.store.shared.Active id name →
    (t.store.shared.registry.lookup name = some id ↔ fateOf id t.steps ≠ .forgotten)
  /-- Whatever is done with a queue, it goes by the two paths of its destination, and works on what it has opened by them. -/
  confined : ∀ q ∈ t.store.shared.queues, ∀ u,
    FileProgram.Confined (scopeOf storage q.name) (q.use u) q.held fun r files => q.Becomes r.2 files
  /-- So it leaves all bytes alone to which a path leads that is apart from these, whether or not it fails. -/
  leaves : ∀ q ∈ t.store.shared.queues, ∀ u r d, (q.use u).Runs (FileOp.Answers True) t.store.disk r d →
    ∀ path, t.store.disk.Apart (scopeOf storage q.name) q.held path →
      ∀ bytes, d.contentsAt path = .ok bytes ↔ t.store.disk.contentsAt path = .ok bytes
  /-- Two open queues of one destination work on the same files. -/
  alike : ∀ q ∈ t.store.shared.queues, ∀ q' ∈ t.store.shared.queues, q.isClosed = false → q'.isClosed = false → q.name = q'.name →
    q.held = q'.held
  /-- Queues of two destinations have a file open in common only where a path of one and another path of the other lead to it. -/
  linked : ∀ q ∈ t.store.shared.queues, ∀ q' ∈ t.store.shared.queues, q.name ≠ q'.name → ∀ path path' file,
    (path, file) ∈ q.held → (path', file) ∈ q'.held →
      path ≠ path' ∧ t.store.disk.Opens path file ∧ t.store.disk.Opens path' file

theorem Placed.entered (h : t.Placed storage stands) (ha : t.store.shared.Active id name) :
    t.store.shared.registry.lookup name = some id ↔ (fateOf id t.steps).Listed :=
  ⟨fun hfound => h.coherent.recorded.listed name id (Registry.mem_entries_of_lookup hfound),
    (h.coherent.recorded.shown id name ha).lookup_eq⟩

theorem Placed.closing (h : t.Placed storage stands) (ha : t.store.shared.Active id name) :
    (fateOf id t.steps).Noted ↔ ∃ i task, t.tasks[i]? = some task ∧ task.isOver = false ∧ NotedBy t.steps i id := by
  refine ⟨fun hnoted => ?_, fun ⟨i, _, _, _, hi⟩ => h.coherent.recorded.noted i id hi⟩
  obtain ⟨i, hi⟩ := (h.coherent.recorded.shown id name ha).exists_closes hnoted
  obtain ⟨task, htask, hwork⟩ := h.exists_task fun call => hi.ne_finish call
  exact ⟨i, task, htask, hwork, (h.coherent.recorded.traced i).closes id hi⟩

theorem Placed.settled (h : t.Placed storage stands) (hover : ∀ task ∈ t.tasks, task.isOver = true)
    (ha : t.store.shared.Active id name) :
    t.store.shared.registry.lookup name = some id ↔ fateOf id t.steps ≠ .forgotten := by
  -- No call is left that has a queue in hand.
  have hidle (i : Nat) : ∃ call : RegistryCall, stands i = call.finish := by
    by_contra hno
    obtain ⟨task, htask, hwork⟩ := h.exists_task (not_exists.1 hno)
    rw [hover task (List.mem_of_getElem? htask)] at hwork
    cases hwork
  have hshown := h.coherent.recorded.shown id name ha
  rw [h.entered ha]
  cases hfate : fateOf id t.steps with
  | entered | noted => exact iff_of_true trivial nofun
  | forgotten => exact iff_of_false (fun h => h) fun hne => hne rfl
  | dismissed =>
    rw [hfate] at hshown
    obtain ⟨i, hi⟩ := hshown
    obtain ⟨call, hcall⟩ := hidle i
    exact absurd hcall (hi.ne_finish call)
  | unentered =>
    rw [hfate] at hshown
    obtain ⟨i, hi⟩ := hshown
    obtain ⟨call, hcall⟩ := hidle i
    cases call <;> cases hi.symm.trans hcall

/-- In a tree of files, with links or without, however calls make their steps and whatever operations on files come to, a destination has
one open queue at most unless one was opened when another had lost its entry, and none is left open but those that are entered and those
that were forgotten. -/
theorem one_open_unless_lost {d : Disk} (ht : d.IsTree) {durable : Bool} (h : (start (Store.begin storage durable d)).Later t) :
    t.OneOpenUnlessLost storage := by
  obtain ⟨stands, hplaced⟩ := h.placed ht
  have hqueues := hplaced.grounded.queues
  have hpaired := hplaced.coherent.paired
  refine ⟨fun id id' name ha ha' => ⟨hpaired.reopened id id' name ha ha', hpaired.lt name id id'⟩, fun id name => hplaced.entered,
    fun id name => hplaced.closing, fun hover id name => hplaced.settled hover,
    fun q hq u => ?_, fun q hq u r d' hr path hapart bytes => ?_,
    fun q hq q' hq' hopen hopen' hname => ?_, fun q hq q' hq' hname path path' file hmem hmem' => ?_⟩
  · obtain ⟨hvalid, rfl, -⟩ := hqueues q hq
    exact confined_use hvalid u
  · obtain ⟨hvalid, rfl, htracked⟩ := hqueues q hq
    exact htracked.use_leaves hvalid hr hapart bytes
  · obtain ⟨-, hstorage, htracked⟩ := hqueues q hq
    obtain ⟨-, hstorage', htracked'⟩ := hqueues q' hq'
    exact htracked.held_eq htracked' (hstorage.trans hstorage'.symm) hname hopen hopen'
  · obtain ⟨hvalid, hstorage, htracked⟩ := hqueues q hq
    obtain ⟨hvalid', hstorage', htracked'⟩ := hqueues q' hq'
    obtain ⟨-, hpath, hopens⟩ := htracked.of_mem_held hmem
    obtain ⟨-, hpath', hopens'⟩ := htracked'.of_mem_held hmem'
    refine ⟨?_, hopens, hopens'⟩
    rintro rfl
    have hscope : (scopeOf storage q.name).paths path := ⟨hvalid, hstorage ▸ hpath⟩
    exact scopeOf_disjoint hname.symm hscope ⟨hvalid', hstorage' ▸ hpath'⟩

/-! ## Calls that make their steps in a given order -/

/-- What happens next: a call is made, or the one with a number makes a step. -/
inductive Move where
  | call (call : RegistryCall)
  | go (i : Nat)

/-- Make a move on a disk that keeps its promises. A call that waits for a lock, or that has its result, does nothing. -/
def move (t : Tasks) : Move → Tasks
  | .call call => t.called call
  | .go i =>
    match t.tasks[i]? with
    | some ⟨call, .ask op next⟩ =>
      match Store.answer op t.store with
      | some (reply, store) => t.worked ⟨i, op, reply⟩ call (next reply) store
      | none => t
    | _ => t

/-- Make some moves in turn. -/
def run (t : Tasks) (moves : List Move) : Tasks :=
  moves.foldl move t

theorem goes_move (t : Tasks) (m : Move) : t.move m = t ∨ t.Goes (t.move m) := by
  cases m with
  | call call => exact Or.inr (.called call)
  | go i =>
    rw [move]
    cases htask : t.tasks[i]? with
    | none => exact Or.inl rfl
    | some task =>
      obtain ⟨call, left⟩ := task
      cases left with
      | done result => exact Or.inl rfl
      | ask op next =>
        dsimp only
        rw [Store.answer]
        by_cases hready : t.store.shared.ready op = true
        · rw [if_pos hready]
          exact Or.inr (.worked htask hready (FileProgram.runs_run (t.store.shared.perform op) t.store.disk))
        · rw [if_neg hready]
          exact Or.inl rfl

theorem later_run (t : Tasks) (moves : List Move) : t.Later (t.run moves) := by
  induction moves generalizing t with
  | nil => exact .refl
  | cons m moves ih =>
    rcases t.goes_move m with hsame | hgoes
    · exact (congrArg (fun t' => t'.run moves) hsame) ▸ ih t
    · exact .head hgoes (ih (t.move m))

/-- A store without files, of which nobody asked anything yet. -/
def quietTasks : Tasks :=
  start (Store.begin "" false (Disk.empty "home"))

/-- All queues are closed; between what is noted and what is closed, a call opens a queue for another destination. -/
def overlappedMoves : List Move :=
  [.call (.getOrCreate "a")] ++ List.replicate 7 (.go 0) ++ [.call .closeAll, .go 1, .go 1, .call (.getOrCreate "b")] ++
    List.replicate 7 (.go 2) ++ List.replicate 4 (.go 1)

/-- The first queue is closed then, and the second is entered. -/
theorem one_open_unless_lost_overlapped :
    (Disk.empty "home").IsTree ∧ quietTasks.Later (quietTasks.run overlappedMoves) ∧
      (quietTasks.run overlappedMoves).OneOpenUnlessLost "" ∧
      (∀ task ∈ (quietTasks.run overlappedMoves).tasks, task.isOver = true) ∧
      (quietTasks.run overlappedMoves).store.shared.queues.map (·.isClosed) = [true, false] ∧
      (quietTasks.run overlappedMoves).store.shared.registry.lookup "b" = some 1 := by
  have hlater : quietTasks.Later (quietTasks.run overlappedMoves) := later_run quietTasks overlappedMoves
  have htree := Disk.isTree_empty "home"
  exact ⟨htree, hlater, one_open_unless_lost htree hlater, by decide +kernel, by decide +kernel, by decide +kernel⟩

/-- All queues are about to be closed, and it was noted which there are. Before they are forgotten a call opens one, and another call
opens a second after that. -/
def forgottenMoves : List Move :=
  [.call .closeAll, .go 0, .call (.getOrCreate "q")] ++ List.replicate 7 (.go 1) ++ [.go 0, .call (.getOrCreate "q")] ++
    List.replicate 7 (.go 2)

/-- A queue was noted and its entry is gone. Before it is closed a call opens another for its destination. -/
def dismissedMoves : List Move :=
  [.call (.getOrCreate "q")] ++ List.replicate 7 (.go 0) ++ [.call .closeAll, .go 1, .go 1, .call (.getOrCreate "q")] ++
    List.replicate 7 (.go 2)

/-- Two destinations are asked for in turn. -/
def linkedMoves : List Move :=
  [.call (.getOrCreate "a")] ++ List.replicate 7 (.go 0) ++ [.call (.getOrCreate "b")] ++ List.replicate 7 (.go 1)

/-- A destination may have two open queues on the same files when all calls are over, one of which is forgotten; it may have two while a
call has still to close the first; and where a link leads from one destination to another, their queues have a file in common. -/
theorem opened_twice :
    (∃ t q q', quietTasks.Later t ∧ (∀ task ∈ t.tasks, task.isOver = true) ∧ t.store.shared.queues = [q, q'] ∧
      t.store.shared.Active 0 "q" ∧ t.store.shared.Active 1 "q" ∧ q.held = q'.held ∧ t.store.shared.registry.lookup "q" = some 1 ∧
      fateOf 0 t.steps = .forgotten) ∧
    (∃ t, quietTasks.Later t ∧ t.store.shared.Active 0 "q" ∧ t.store.shared.Active 1 "q" ∧ fateOf 0 t.steps = .dismissed) ∧
    ∃ t, (start (Store.begin "" false Traffic.linkedDisk)).Later t ∧ t.store.shared.Active 0 "a" ∧ t.store.shared.Active 1 "b" ∧
      ∃ q q' file, t.store.shared.queues = [q, q'] ∧ ("a", file) ∈ q.held ∧ ("b", file) ∈ q'.held := by
  have hover : ∀ task ∈ (quietTasks.run forgottenMoves).tasks, task.isOver = true := by decide +kernel
  exact ⟨⟨_, _, _, later_run quietTasks forgottenMoves, hover, rfl, ⟨_, rfl, rfl, rfl⟩, ⟨_, rfl, rfl, rfl⟩, rfl, rfl, rfl⟩,
    ⟨_, later_run quietTasks dismissedMoves, ⟨_, rfl, rfl, rfl⟩, ⟨_, rfl, rfl, rfl⟩, rfl⟩,
    _, later_run _ linkedMoves, ⟨_, rfl, rfl, rfl⟩, ⟨_, rfl, rfl, rfl⟩, _, _, .file 0, rfl, List.mem_cons_self, List.mem_cons_self⟩

end Tasks

end QueueBroker

import QueueBroker.Proofs.Broker.Linearization
import QueueBroker.Proofs.Broker.Turns

/-!
# Sessions at work on one store

Any number of sessions have requests on one store, and between any two steps of one the others may make steps of their own:
`Traffic.run` makes the steps that a list of moves says, whatever list that is. As long as no file operation fails, what the sessions
are told is what lists of messages would tell them if the requests had come one after the other.
-/

namespace QueueBroker

open DurableQueue

/-- A request that a session called: its place in the history, and what is left to be done for it. -/
structure Call where
  place : Nat
  request : Request
  left : RegistryProgram Response

/-- A store, the requests that sessions have on it, and what was told so far. -/
structure Traffic where
  store : Store
  calls : Nat → Option Call
  history : List Event

/-- What may happen next: a session that has no request calls one, or one that has a request goes on with it. -/
inductive Move where
  | call (session : Nat) (request : Request)
  | go (session : Nat)

/-- What kind of answer is given, if one is. -/
def Event.kind? : Event → Option String
  | .called _ _ => none
  | .answered _ response => some response.kind

/-- Whether the message that is called to be sent, if there is one, fits in a record. -/
def Event.Fits : Event → Prop
  | .called _ (.send m) => m.bytes.length ≤ Log.maxBody
  | _ => True

instance Event.Fits.decidable : DecidablePred Event.Fits
  | .called _ (.send m) => inferInstanceAs (Decidable (m.bytes.length ≤ Log.maxBody))
  | .called _ (.check _) => isTrue trivial
  | .called _ (.receive _) => isTrue trivial
  | .answered _ _ => isTrue trivial

namespace Traffic

/-- A store on which no session has a request yet. -/
def start (s : Store) : Traffic :=
  ⟨s, fun _ => none, []⟩

/-- A session calls a request. -/
def called (t : Traffic) (session : Nat) (request : Request) : Traffic where
  store := t.store
  calls := Function.update t.calls session (some ⟨t.history.length, request, request.handle⟩)
  history := t.history ++ [.called session request]

/-- A session is answered, and has no request any more. -/
def answered (t : Traffic) (session place : Nat) (response : Response) : Traffic where
  store := t.store
  calls := Function.update t.calls session none
  history := t.history ++ [.answered place response]

/-- A session has made a step, after which something else is left to be done. -/
def worked (t : Traffic) (session : Nat) (call : Call) (left : RegistryProgram Response) (store : Store) : Traffic where
  store
  calls := Function.update t.calls session (some { call with left })
  history := t.history

theorem calls_called (t : Traffic) (session : Nat) (request : Request) (other : Nat) :
    (t.called session request).calls other =
      if other = session then some ⟨t.history.length, request, request.handle⟩ else t.calls other :=
  Function.update_apply _ _ _ _

theorem calls_answered (t : Traffic) (session place : Nat) (response : Response) (other : Nat) :
    (t.answered session place response).calls other = if other = session then none else t.calls other :=
  Function.update_apply _ _ _ _

theorem calls_worked (t : Traffic) (session : Nat) (call : Call) (left : RegistryProgram Response) (store : Store) (other : Nat) :
    (t.worked session call left store).calls other = if other = session then some { call with left } else t.calls other :=
  Function.update_apply _ _ _ _

/-- Make a move. What a session cannot do now it does not do: it waits for a lock, or for its request to be answered. -/
def move (t : Traffic) : Move → Traffic
  | .call session request =>
    match t.calls session with
    | none => t.called session request
    | some _ => t
  | .go session =>
    match t.calls session with
    | none => t
    | some call =>
      match call.left.result? with
      | some response => t.answered session call.place response
      | none =>
        match call.left.advance Store.answer t.store with
        | none => t
        | some (left, store) => t.worked session call left store

/-- Make some moves in turn. -/
def run (moves : List Move) (t : Traffic) : Traffic :=
  moves.foldl move t

/-- Whether no file operation fails in a move. -/
def Quiet (t : Traffic) : Move → Prop
  | .call _ _ => True
  | .go session =>
    match t.calls session with
    | some ⟨_, _, .ask op _⟩ => t.store.shared.ready op = true → (t.store.shared.perform op).Undisturbed t.store.disk
    | _ => True

/-- Whether no file operation fails in some moves in turn. -/
def AllQuiet : List Move → Traffic → Prop
  | [], _ => True
  | m :: moves, t => t.Quiet m ∧ AllQuiet moves (t.move m)

instance Quiet.decidable (t : Traffic) : (m : Move) → Decidable (t.Quiet m)
  | .call _ _ => isTrue trivial
  | .go session =>
    match h : t.calls session with
    | none => isTrue (by rw [Quiet, h]; trivial)
    | some ⟨_, _, .done _⟩ => isTrue (by rw [Quiet, h]; trivial)
    | some ⟨_, _, .ask op _⟩ =>
      decidable_of_iff (t.store.shared.ready op = true → (t.store.shared.perform op).Undisturbed t.store.disk) (by rw [Quiet, h])

instance AllQuiet.decidable : (moves : List Move) → (t : Traffic) → Decidable (AllQuiet moves t)
  | [], _ => isTrue trivial
  | m :: moves, t =>
    have := AllQuiet.decidable moves (t.move m)
    inferInstanceAs (Decidable (_ ∧ _))

/-- What a move without failing file operations comes to. -/
inductive Goes (t : Traffic) : Traffic → Prop where
  | same : Goes t t
  | called {session : Nat} {request : Request} : t.calls session = none → Goes t (t.called session request)
  | answered {session place : Nat} {request : Request} {response : Response} :
      t.calls session = some ⟨place, request, .done response⟩ → Goes t (t.answered session place response)
  | worked {session place : Nat} {request : Request} {op : RegistryOp} {next : op.Reply → RegistryProgram Response}
      {reply : op.Reply} {store : Store} : t.calls session = some ⟨place, request, .ask op next⟩ →
      t.store.shared.ready op = true → Store.Answers (FileOp.Answers False) op t.store reply store →
      Goes t (t.worked session ⟨place, request, .ask op next⟩ (next reply) store)

variable {t : Traffic} {session : Nat}

theorem goes_go (hquiet : t.Quiet (.go session)) : t.Goes (t.move (.go session)) := by
  rw [move]
  cases hcall : t.calls session with
  | none => exact .same
  | some call =>
    obtain ⟨place, request, left⟩ := call
    cases left with
    | done response => exact .answered hcall
    | ask op next =>
      rw [Quiet, hcall] at hquiet
      dsimp only [Program.result?, Program.advance]
      rw [Store.answer]
      by_cases hready : t.store.shared.ready op = true
      · rw [if_pos hready]
        exact .worked hcall hready (hquiet hready).runs
      · rw [if_neg hready]
        exact .same

theorem goes_move {m : Move} (hquiet : t.Quiet m) : t.Goes (t.move m) := by
  cases m with
  | go session => exact goes_go hquiet
  | call session request =>
    rw [move]
    cases hcall : t.calls session with
    | none => exact .called hcall
    | some call => exact .same

/-! ## What is kept throughout -/

/-- What is known of the request of a session in some stage. -/
structure Underway (shared : Shared) (history : List Event) (order : List Operation) (session : Nat) (call : Call)
    (stage : Stage) : Prop where
  leads : call.request.Leads call.left stage fun response stage' => stage' = .answered response
  fits : stage.Fits call.request.destination shared
  called : history[call.place]? = some (.called session call.request)
  latest : ∀ i r, history[i]? = some (.called session r) → i ≤ call.place
  unanswered : ∀ response, .answered call.place response ∉ history
  /-- A request for which everything is done took effect, and no other. -/
  done : ∀ response, stage.response? = some response → ⟨call.place, call.request, response⟩ ∈ order
  undone : stage.response? = none → call.place ∉ order.map Operation.place

/-- What is kept throughout: the operations that took effect are a linearization, the store keeps what they left, and what sessions
do is coordinated. -/
structure Steady (F : Folder) (lists : Fifo) (t : Traffic) (order : List Operation) (stages : Nat → Stage) : Prop where
  keeps : ∃ c, t.store.Keeps F (Fifo.after (order.map Operation.request) lists) c
  linear : Linearization lists t.history order
  underway : ∀ session call, t.calls session = some call → Underway t.store.shared t.history order session call (stages session)
  idle : ∀ session, t.calls session = none → ¬(stages session).Locked
  coordinated : Coordinated t.store.shared stages

variable {F : Folder} {lists : Fifo} {order : List Operation} {stages : Nat → Stage} {shared : Shared} {history : List Event}
  {call : Call} {stage : Stage} {other place : Nat} {request : Request} {response : Response}

/-- What another session is told matters to nobody else. -/
theorem Underway.event (h : Underway shared history order session call stage) {e : Event} (hcalled : ∀ r, e ≠ .called session r)
    (hanswered : ∀ response, e ≠ .answered call.place response) : Underway shared (history ++ [e]) order session call stage where
  leads := h.leads
  fits := h.fits
  called := by
    rw [List.getElem?_append_left (List.getElem?_eq_some_iff.1 h.called).1]
    exact h.called
  latest i r hi := by
    rcases of_getElem?_append_singleton hi with hold | ⟨-, heq⟩
    · exact h.latest i r hold
    · exact absurd heq.symm (hcalled r)
  unanswered response hmem := by
    rcases List.mem_append.1 hmem with hmem | hmem
    · exact h.unanswered response hmem
    · exact hanswered response (List.mem_singleton.1 hmem).symm
  done := h.done
  undone := h.undone

/-- Two requests that are under way were called at two places. -/
theorem Underway.place_ne (h : Underway shared history order session call stage) {shared' : Shared} {order' : List Operation}
    {call' : Call} {stage' : Stage} (h' : Underway shared' history order' other call' stage') (hne : session ≠ other) :
    call.place ≠ call'.place := by
  intro heq
  have hcalled := h.called
  rw [heq, h'.called] at hcalled
  exact hne (Event.called.inj (Option.some.inj hcalled)).1.symm

/-- A request that was just called. -/
theorem Steady.underway_called (h : Steady F lists t order stages) :
    Underway t.store.shared (t.history ++ [.called session request]) order session ⟨t.history.length, request, request.handle⟩
      .asking where
  leads := request.leads_handle
  fits := trivial
  called := List.getElem?_concat_length
  latest i r hi := by
    have hlt := (List.getElem?_eq_some_iff.1 hi).1
    rw [List.length_append, List.length_singleton] at hlt
    exact Nat.le_of_lt_succ hlt
  unanswered response hmem := by
    rcases List.mem_append.1 hmem with hmem | hmem
    · exact absurd (h.linear.lt_of_answered hmem) (Nat.lt_irrefl _)
    · nomatch List.mem_singleton.1 hmem
  done := nofun
  undone _ hmem := by
    obtain ⟨o, ho, heq⟩ := List.mem_map.1 hmem
    exact absurd (heq ▸ h.linear.place_lt ho) (Nat.lt_irrefl _)

theorem Steady.called (h : Steady F lists t order stages) (hidle : t.calls session = none) (request : Request) :
    Steady F lists (t.called session request) order (Function.update stages session .asking) := by
  have hunlocked := h.idle session hidle
  refine ⟨h.keeps, h.linear.event _ nofun, fun other call hcall => ?_, fun other hother => ?_, h.coordinated.asking hunlocked⟩
  · by_cases hne : other = session
    · subst hne
      rw [calls_called, if_pos rfl] at hcall
      obtain rfl := Option.some.inj hcall
      rw [Function.update_self]
      exact h.underway_called
    · rw [calls_called, if_neg hne] at hcall
      rw [Function.update_of_ne hne]
      refine (h.underway other call hcall).event (fun r heq => ?_) nofun
      exact hne (Event.called.inj heq).1.symm
  · by_cases hne : other = session
    · subst hne
      rw [Function.update_self]
      exact id
    · rw [calls_called, if_neg hne] at hother
      rw [Function.update_of_ne hne]
      exact h.idle other hother

theorem Steady.answered (h : Steady F lists t order stages) (hcall : t.calls session = some ⟨place, request, .done response⟩) :
    Steady F lists (t.answered session place response) order stages := by
  have hunder := h.underway session _ hcall
  have hstage : stages session = .answered response := hunder.leads
  have hdone : ⟨place, request, response⟩ ∈ order := hunder.done response (by rw [hstage]; rfl)
  refine ⟨h.keeps, h.linear.event _ ?_, fun other call hother => ?_, fun other hother => ?_, h.coordinated⟩
  · intro place' response' heq
    obtain ⟨rfl, rfl⟩ := Event.answered.inj heq
    exact ⟨_, hdone, rfl, rfl⟩
  · by_cases hne : other = session
    · subst hne
      rw [calls_answered, if_pos rfl] at hother
      cases hother
    · rw [calls_answered, if_neg hne] at hother
      have hunder' := h.underway other call hother
      refine hunder'.event nofun fun response' heq => ?_
      exact hunder.place_ne hunder' (Ne.symm hne) (Event.answered.inj heq).1
  · by_cases hne : other = session
    · rw [hne, hstage]
      exact id
    · rw [calls_answered, if_neg hne] at hother
      exact h.idle other hother

/-- What a step of a session makes of the operations that took effect so far. -/
structure Extends (call : Call) (stage : Stage) (order order' : List Operation) : Prop where
  grows : ∀ o ∈ order, o ∈ order'
  others : ∀ place, place ≠ call.place → place ∉ order.map Operation.place → place ∉ order'.map Operation.place
  done : ∀ response, stage.response? = some response → ⟨call.place, call.request, response⟩ ∈ order'
  undone : stage.response? = none → call.place ∉ order'.map Operation.place

/-- A request takes effect at most once, and after all that took effect before. -/
theorem Underway.exists_extends (h : Underway shared history order session call stage) (hlinear : Linearization lists history order)
    {stage' : Stage} {lists' : Fifo}
    (heffect : Effect call.request (Fifo.after (order.map Operation.request) lists) stage stage' lists') :
    ∃ order', Linearization lists history order' ∧ Fifo.after (order'.map Operation.request) lists = lists' ∧
      Extends call stage' order order' := by
  cases heffect with
  | silent hresponse =>
    refine ⟨order, hlinear, rfl, fun o ho => ho, fun _ _ hnot => hnot, fun response hdone => ?_, fun hundone => ?_⟩
    · exact h.done response (hresponse ▸ hdone)
    · exact h.undone (hresponse ▸ hundone)
  | answers hresponse =>
    have hnext := hlinear.snoc h.called (h.undone hresponse) h.unanswered h.latest
    refine ⟨_, hnext, ?_, fun o ho => List.mem_append_left _ ho, fun place hne hnot hmem => ?_, fun response hdone => ?_, nofun⟩
    · rw [List.map_append, Fifo.after_append]
      rfl
    · rw [List.map_append, List.mem_append] at hmem
      rcases hmem with hmem | hmem
      · exact hnot hmem
      · exact hne (List.mem_singleton.1 hmem)
    · obtain rfl := Option.some.inj hdone
      exact List.mem_append_right _ (List.mem_singleton.2 rfl)

/-- A session that made a step goes on from the stage that it led to. -/
theorem Underway.step {op : RegistryOp} {next : op.Reply → RegistryProgram Response}
    (h : Underway shared history order session ⟨place, request, .ask op next⟩ stage) {reply : op.Reply} {stage' : Stage}
    (hmoves : request.Moves stage op reply stage') {shared' : Shared} (hmoved : Moved request.destination shared shared' stage stage')
    {order' : List Operation} (hextends : Extends ⟨place, request, .ask op next⟩ stage' order order') :
    Underway shared' history order' session ⟨place, request, next reply⟩ stage' where
  leads := h.leads.2 reply stage' hmoves
  fits := hmoved.fits
  called := h.called
  latest := h.latest
  unanswered := h.unanswered
  done := hextends.done
  undone := hextends.undone

/-- A session is where it was after another made a step. -/
theorem Underway.step_other (h : Underway shared history order session call stage) {name : String} {shared' : Shared}
    {stage₁ stage' : Stage} (hmoved : Moved name shared shared' stage₁ stage') (halone : stage.Locked → ¬stage₁.Locked)
    {call' : Call} (hne : call.place ≠ call'.place) {order' : List Operation} (hextends : Extends call' stage' order order') :
    Underway shared' history order' session call stage where
  leads := h.leads
  fits := hmoved.fits_other h.fits halone
  called := h.called
  latest := h.latest
  unanswered := h.unanswered
  done response hdone := hextends.grows _ (h.done response hdone)
  undone hundone := hextends.others _ hne (h.undone hundone)

theorem Steady.worked (h : Steady F lists t order stages) {op : RegistryOp} {next : op.Reply → RegistryProgram Response}
    (hcall : t.calls session = some ⟨place, request, .ask op next⟩) (hshort : ∀ m, request = .send m → m.bytes.length ≤ Log.maxBody)
    (hready : t.store.shared.ready op = true) {reply : op.Reply} {store : Store}
    (hans : Store.Answers (FileOp.Answers False) op t.store reply store) :
    ∃ order' stages', Steady F lists (t.worked session ⟨place, request, .ask op next⟩ (next reply) store) order' stages' := by
  obtain ⟨c, hkeeps⟩ := h.keeps
  have hunder := h.underway session _ hcall
  -- While nobody may open queues, all that were opened are entered.
  have hfree : t.store.shared.opening = false → t.store.shared.AllEntered := by
    intro hopening
    refine h.coordinated.free fun other hlocked => ?_
    rw [h.coordinated.locks other hlocked] at hopening
    cases hopening
  obtain ⟨stage', lists', c', hmoves, heffect, hkeeps', hmoved⟩ :=
    hkeeps.advances hunder.fits (h.coordinated.locks session) hfree hshort hunder.leads.1 hready hans
  obtain ⟨order', hlinear, rfl, hextends⟩ := hunder.exists_extends h.linear heffect
  have hothers : ∀ other, other ≠ session → (stages other).Locked → ¬(stages session).Locked :=
    fun other hne hlocked hlocked' => hne (h.coordinated.alone other session hlocked hlocked')
  refine ⟨order', Function.update stages session stage', ⟨c', hkeeps'⟩, hlinear, fun other call hother => ?_, fun other hother => ?_,
    h.coordinated.moved hmoved⟩
  · by_cases hne : other = session
    · subst hne
      rw [calls_worked, if_pos rfl] at hother
      obtain rfl := Option.some.inj hother
      rw [Function.update_self]
      exact hunder.step hmoves hmoved hextends
    · rw [calls_worked, if_neg hne] at hother
      rw [Function.update_of_ne hne]
      have hunder' := h.underway other call hother
      exact hunder'.step_other hmoved (hothers other hne) (hunder'.place_ne hunder hne) hextends
  · by_cases hne : other = session
    · subst hne
      rw [calls_worked, if_pos rfl] at hother
      cases hother
    · rw [calls_worked, if_neg hne] at hother
      rw [Function.update_of_ne hne]
      exact h.idle other hother

/-- Moves only add to the history. -/
theorem Goes.prefix_history {t' : Traffic} (h : t.Goes t') : t.history <+: t'.history := by
  cases h with
  | same => exact List.prefix_rfl
  | called => exact List.prefix_append _ _
  | answered => exact List.prefix_append _ _
  | worked => exact List.prefix_rfl

theorem prefix_run {moves : List Move} (hquiet : AllQuiet moves t) : t.history <+: (t.run moves).history := by
  induction moves generalizing t with
  | nil => exact List.prefix_rfl
  | cons m moves ih =>
    obtain ⟨hfirst, hrest⟩ := hquiet
    exact (goes_move hfirst).prefix_history.trans (ih hrest)

theorem Steady.goes (h : Steady F lists t order stages) (hfit : ∀ e ∈ t.history, e.Fits) {t' : Traffic} (hgoes : t.Goes t') :
    ∃ order' stages', Steady F lists t' order' stages' := by
  cases hgoes with
  | same => exact ⟨_, _, h⟩
  | called hidle => exact ⟨_, _, h.called hidle _⟩
  | answered hcall => exact ⟨_, _, h.answered hcall⟩
  | @worked session place request op next reply store hcall hready hans =>
    refine h.worked hcall ?_ hready hans
    rintro m rfl
    exact hfit _ (List.mem_of_getElem? (h.underway session _ hcall).called)

theorem Steady.run (h : Steady F lists t order stages) {moves : List Move} (hquiet : AllQuiet moves t)
    (hfit : ∀ e ∈ (t.run moves).history, e.Fits) : ∃ order' stages', Steady F lists (t.run moves) order' stages' := by
  induction moves generalizing t order stages with
  | nil => exact ⟨order, stages, h⟩
  | cons m moves ih =>
    -- That all messages fit is known of the history at the end, of which the one now is a prefix.
    have hhistory := prefix_run hquiet
    obtain ⟨hfirst, hrest⟩ := hquiet
    obtain ⟨order', stages', hnext⟩ := h.goes (fun e he => hfit e (hhistory.subset he)) (goes_move hfirst)
    exact ih hnext hrest hfit

theorem steady_start {s : Store} (h : ∃ c, s.Keeps F lists c) (hnone : s.shared.queues = []) :
    Steady F lists (start s) [] fun _ => .asking where
  keeps := h
  linear := linearization_nil lists
  underway := nofun
  idle _ _ := id
  coordinated := by
    refine ⟨fun _ _ h => h.elim, fun _ h => h.elim, fun _ id name hnamed => ?_⟩
    have hqueues : (start s).store.shared.queues = [] := hnone
    rw [Shared.Named, Shared.names, hqueues] at hnamed
    cases hnamed

/-! ## What sessions are told -/

/-- An order of operations that accounts for all that sessions were told, and for every message. -/
structure Accounted (lists : Fifo) (t : Traffic) (order : List Operation) : Prop where
  linear : Linearization lists t.history order
  /-- What was there and what was put in is what was taken out and what is left: nothing is lost, taken twice or out of turn. -/
  conserved : ∀ name, lists name ++ Operation.sent name order =
    Operation.delivered name order ++ Fifo.after (order.map Operation.request) lists name
  /-- What is left is pending in the queue of its destination, -/
  pending : ∀ q ∈ t.store.shared.queues, q.pending = Fifo.after (order.map Operation.request) lists q.name
  /-- of which there is only one. -/
  single : t.store.shared.names.Nodup

/-- Whatever steps sessions make in whatever order, they are told what lists of messages would tell them, which begin with what is
read in the files, if each request were answered at once at some moment between its call and its answer. -/
theorem linearizable {storage : String} {place : Place} {durable : Bool} {d : Disk} {c : Contents}
    (hs : (Folder.ofDestinations storage place fun _ => True).Shows c d)
    (hshort : ∀ name, Destination.fault? name = none → ((c (Destination.logName name)).getD []).length ≤ Disk.maxFile)
    {moves : List Move} (hquiet : AllQuiet moves (start (Store.begin storage durable d))) {t : Traffic}
    (ht : (start (Store.begin storage durable d)).run moves = t) (hfit : ∀ e ∈ t.history, e.Fits) :
    ∃ order, t.Accounted (recovered c) order := by
  subst ht
  have hstart := steady_start ⟨c, Store.keeps_begin hs hshort durable⟩ rfl
  obtain ⟨order, stages, hsteady⟩ := hstart.run hquiet hfit
  obtain ⟨c', hkeeps⟩ := hsteady.keeps
  exact ⟨order, {
    linear := hsteady.linear
    conserved := Operation.append_sent hsteady.linear.answers
    pending := fun q hq => (hkeeps.opened q hq).pending
    single := hkeeps.single }⟩

/-- A message with nothing to say. -/
def emptyMessage : Message :=
  ⟨"q", .null⟩

/-- A store without messages, of which no session asked anything yet. -/
def quietTraffic : Traffic :=
  start (Store.begin "" false (Disk.empty "home"))

/-- One session asks for messages while another sends the first: before there is a file, when there is one but the queue is not entered
yet, and when the message is there. -/
def interleavedMoves : List Move :=
  [.call 0 (.send emptyMessage), .call 1 (.receive "q"), .go 0, .go 0, .go 1, .go 1, .go 0, .go 0, .go 0, .go 1, .call 1 (.receive "q"),
    .go 1, .go 1, .go 1, .go 0, .go 0, .go 1, .go 1, .go 1, .go 1, .go 0, .go 1, .go 1, .go 1] ++
  [.go 0, .go 0, .go 0, .go 0, .call 1 (.receive "q"), .go 1, .go 1, .go 1, .go 1, .go 1]

/-- There is no message for the session that asks until the other has sent it. -/
theorem linearizable_interleaved :
    (quietTraffic.run interleavedMoves).history.filterMap Event.kind? = ["EMPTY", "EMPTY", "ACK", "MESSAGE"] ∧
      ∃ order, (quietTraffic.run interleavedMoves).Accounted (recovered fun _ => none) order := by
  have hleads : (Disk.empty "home").LeadsTo "" ["home"] := rfl
  have hs : (Folder.ofDestinations "" ["home"] fun _ => True).Shows (fun _ => none) (Disk.empty "home") :=
    Folder.shows_none hleads fun n _ => by simp [Folder.ofDestinations, Disk.empty, Disk.node?]
  have hquiet : AllQuiet interleavedMoves quietTraffic := by decide +kernel
  have hfit : ∀ e ∈ (quietTraffic.run interleavedMoves).history, e.Fits := by decide +kernel
  exact ⟨by decide +kernel, linearizable hs (fun _ _ => Nat.zero_le _) hquiet rfl hfit⟩

end Traffic

end QueueBroker

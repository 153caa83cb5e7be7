import QueueBroker.Proofs.Protocol.Ends
import QueueBroker.Proofs.Session.Conversation

/-!
# Sessions and the clock

`Session.Step` lets any time pass whenever it likes. Here the clock is that of the world: time passes only while a session has
nothing to do, so a session that could take a request takes it before time goes on, and one whose time is over ends at that very
moment. `Session.Tick` is one thing that happens, `Session.Ticks` any number of them with a log of when each happened. A session on
the clock never gets stuck: without any help of its client it goes on to every later moment, or to its end.
-/

namespace QueueBroker.Session

variable {σ : Type} {answers : (op : RegistryOp) → σ → op.Reply → σ → Prop} {c c' : Conversation σ} {s s' : Session} {now time : Nat}

/-! ## How a turn comes out -/

/-- Why a session that wakes is over: what is said cannot be read, the client has said all, or the time is over. -/
inductive Finishes (s : Session) (now : Nat) : Except BrokerError Unit → Prop where
  | bad {e : BrokerError} : Frame.first s.receiver.limit Request.parse s.receiver.unread = .error e → Finishes s now (.error e)
  | drained {outcome : Except BrokerError Unit} : s.inputOver = true →
      Frame.first s.receiver.limit Request.parse s.receiver.unread = .ok none →
      (outcome = .ok () ↔ Frame.Unmissed s.receiver.limit s.receiver.unread) → Finishes s now outcome
  | idle {deadline : Nat} : s.inputOver = false → Frame.first s.receiver.limit Request.parse s.receiver.unread = .ok none →
      s.deadline = some deadline → deadline ≤ now → Finishes s now (.ok ())

/-- What makes a session that wakes wait on. -/
structure Resting (s : Session) (now : Nat) : Prop where
  inputOpen : s.inputOver = false
  incomplete : Frame.first s.receiver.limit Request.parse s.receiver.unread = .ok none
  inTime : ∀ deadline, s.deadline = some deadline → now < deadline

/-- Why a turn comes out as it does. -/
inductive Turned (s : Session) (now : Nat) : Turn → Prop where
  | wait : s.Resting now → Turned s now .wait
  | finish {outcome : Except BrokerError Unit} : s.Finishes now outcome → Turned s now (.finish outcome)
  | serve {request : Request} {rest : Bytes} :
      Frame.first s.receiver.limit Request.parse s.receiver.unread = .ok (some (request, rest)) → Turned s now (.serve request)

theorem turned_of_inputOver (hs : s.receiver.Sound) (hover : s.inputOver = true)
    (hfirst : Frame.first s.receiver.limit Request.parse s.receiver.unread = .ok none) (now : Nat) :
    s.Turned now (s.turn false now).1 := by
  have hrequest : s.nextRequest = s.receiver.finish Request.parse := if_pos hover
  rcases hfinish : s.receiver.finish Request.parse with ⟨result, r⟩
  rw [hfinish] at hrequest
  have hresult := Receiver.finish_of_first_eq_none hs hfirst
  rw [hfinish] at hresult
  rcases hresult with ⟨hunmissed, rfl⟩ | ⟨hmissed, rfl⟩
  · rw [turn_of_none hrequest, hover]
    exact .finish (.drained hover hfirst (iff_of_true rfl hunmissed))
  · rw [turn_of_error hrequest]
    exact .finish (.drained hover hfirst (iff_of_false nofun hmissed))

theorem turned_of_inputOpen (hs : s.receiver.Sound) (hopen : s.inputOver = false)
    (hfirst : Frame.first s.receiver.limit Request.parse s.receiver.unread = .ok none) (now : Nat) :
    s.Turned now (s.turn false now).1 := by
  obtain ⟨r, hnext, -⟩ := Receiver.next_of_first_eq_none hs hfirst
  have hrequest : s.nextRequest = (.ok none, r) := by rw [nextRequest, if_neg (by simp [hopen]), hnext]
  rw [turn_of_none hrequest, hopen, Bool.false_or]
  cases hdeadline : s.deadline with
  | none =>
    refine .wait ⟨hopen, hfirst, fun deadline h => ?_⟩
    cases hdeadline.symm.trans h
  | some deadline =>
    by_cases hle : deadline ≤ now
    · rw [if_pos (by simp [hle])]
      exact .finish (.idle hopen hfirst hdeadline hle)
    · rw [if_neg (by simp [hle])]
      refine .wait ⟨hopen, hfirst, fun deadline' h => ?_⟩
      cases hdeadline.symm.trans h
      exact Nat.lt_of_not_le hle

/-- What a session does when it wakes, it does for a reason. -/
theorem turned_turn (hs : s.receiver.Sound) (now : Nat) : s.Turned now (s.turn false now).1 := by
  cases hfirst : Frame.first s.receiver.limit Request.parse s.receiver.unread with
  | ok found? =>
    cases found? with
    | some found =>
      rw [turn_of_first_eq_some hs hfirst]
      exact .serve hfirst
    | none =>
      cases hinput : s.inputOver with
      | true => exact turned_of_inputOver hs hinput hfirst now
      | false => exact turned_of_inputOpen hs hinput hfirst now
  | error e =>
    rw [turn_of_first_eq_error hs hfirst]
    exact .finish (.bad hfirst)

/-- When a session waits on. -/
theorem turn_eq_wait_iff (hs : s.receiver.Sound) : (s.turn false now).1 = .wait ↔ s.Resting now := by
  have hturned := turned_turn hs now
  generalize (s.turn false now).1 = turn at hturned ⊢
  constructor
  · rintro rfl
    cases hturned with
    | wait hrests => exact hrests
  · intro hrests
    cases hturned with
    | wait => rfl
    | serve hfirst => cases hrests.incomplete.symm.trans hfirst
    | finish hfinishes =>
      cases hfinishes with
      | bad hfirst => cases hrests.incomplete.symm.trans hfirst
      | drained hover => cases hrests.inputOpen.symm.trans hover
      | idle _ _ hdeadline hle => exact absurd (hrests.inTime _ hdeadline) (Nat.not_lt_of_le hle)

/-- A turn changes nothing but how far the stream is taken. -/
theorem exists_turn_eq (shutdown : Bool) (now : Nat) (s : Session) :
    ∃ turn r, s.turn shutdown now = (turn, { s with receiver := r }) := by
  cases shutdown with
  | true => exact ⟨_, s.receiver, rfl⟩
  | false =>
    rcases hrequest : s.nextRequest with ⟨result, r⟩
    match result with
    | .error e => exact ⟨_, r, turn_of_error hrequest now⟩
    | .ok none => exact ⟨_, r, turn_of_none hrequest now⟩
    | .ok (some request) => exact ⟨_, r, turn_of_some hrequest now⟩

/-! ## The log -/

/-- What can be told of a conversation on the clock. -/
inductive Entry where
  | event (event : Event)
  | took (request : Request)
  | ended (outcome : Except BrokerError Unit)

/-- What happened, and when. -/
abbrev Log := List (Nat × Entry)

/-- What is told of a turn. -/
def entriesOf (now : Nat) : Turn → Log
  | .wait => []
  | .finish outcome => [(now, .ended outcome)]
  | .serve request => [(now, .took request)]

/-- What can be told of a conversation without a clock. -/
def events (log : Log) : List Event :=
  log.filterMap fun
    | (_, .event event) => some event
    | _ => none

/-- The requests that were taken off the stream. -/
def taken (log : Log) : List Request :=
  log.filterMap fun
    | (_, .took request) => some request
    | _ => none

/-- The bytes that arrived before a moment. -/
def arrivedBefore (time : Nat) (log : Log) : Bytes :=
  arrived (events (log.filter (·.1 < time)))

/-- When the last reply was written, or the session began. -/
def lastReply (start : Nat) (log : Log) : Nat :=
  log.foldl (fun
    | _, (now, .event (.written _)) => now
    | moment, _ => moment) start

@[simp] theorem events_append (log more : Log) : events (log ++ more) = events log ++ events more :=
  List.filterMap_append

@[simp] theorem taken_append (log more : Log) : taken (log ++ more) = taken log ++ taken more :=
  List.filterMap_append

@[simp] theorem lastReply_append (start : Nat) (log more : Log) : lastReply start (log ++ more) = lastReply (lastReply start log) more :=
  List.foldl_append

@[simp] theorem arrivedBefore_append (time : Nat) (log more : Log) :
    arrivedBefore time (log ++ more) = arrivedBefore time log ++ arrivedBefore time more := by
  rw [arrivedBefore, List.filter_append, events_append, arrived_append]
  rfl

@[simp] theorem events_entriesOf (now : Nat) (turn : Turn) : events (entriesOf now turn) = [] := by
  cases turn <;> rfl

/-! ## What happens on the clock -/

/-- Whether a conversation can be left alone at a moment. -/
def Conversation.Rests (c : Conversation σ) (time : Nat) : Prop :=
  match c.phase with
  | .waiting => (c.session.turn false time).1 = .wait
  | .applying _ => True
  | .replying _ => True
  | _ => False

/-- Whether the time of a session that waits is over. -/
def Conversation.Due (c : Conversation σ) : Prop :=
  c.phase = .waiting ∧ ∃ deadline, c.session.deadline = some deadline ∧ deadline ≤ c.now

/-- One thing that happens in a conversation on the clock, while the broker goes on and the client reads what is written. Time passes
only while the conversation can be left alone. What arrives just when the time of a session is over comes too late. -/
inductive Tick (answers : (op : RegistryOp) → σ → op.Reply → σ → Prop) : Conversation σ → Log → Conversation σ → Prop where
  | arrive {c : Conversation σ} {bytes : Bytes} : c.phase ≠ .ended → c.session.inputOver = false → ¬c.Due →
      Tick answers c [(c.now, .event (.arrived bytes))] { c with session := c.session.feed bytes }
  | pass {c : Conversation σ} {later : Nat} : c.now ≤ later → (∀ time, c.now ≤ time → time < later → c.Rests time) →
      Tick answers c [] { c with now := later }
  | await {c : Conversation σ} : c.phase = .looking → c.signalled = false → Tick answers c [] { c with phase := .waiting }
  | wake {c : Conversation σ} {turn : Turn} {s : Session} : c.phase = .waiting → c.session.turn false c.now = (turn, s) →
      Tick answers c (entriesOf c.now turn) { c with session := s.settle turn, phase := phaseAfter turn }
  | apply {c : Conversation σ} {request : Request} {response : Response} {store : σ} : c.phase = .applying request →
      request.handle.Runs answers c.store response store →
      Tick answers c [(c.now, .event (.applied request response))] { c with store, phase := .replying response }
  | write {c : Conversation σ} {response : Response} {bytes : Bytes} {s : Session} : c.phase = .replying response →
      c.session.reply c.now response = (some bytes, s) →
      Tick answers c [(c.now, .event (.written bytes))] { c with session := s, phase := .looking }
  | fail {c : Conversation σ} {response : Response} {outcome : Except BrokerError Unit} {s : Session} : c.phase = .replying response →
      c.session.reply c.now response = (none, s) → s.outcome = some outcome →
      Tick answers c [(c.now, .ended outcome)] { c with session := s, phase := .ended }

/-- Any number of things that happen in a conversation on the clock. -/
inductive Ticks (answers : (op : RegistryOp) → σ → op.Reply → σ → Prop) (c : Conversation σ) : Log → Conversation σ → Prop where
  | none : Ticks answers c [] c
  | tick {log entries : Log} {c₁ c₂ : Conversation σ} : Ticks answers c log c₁ → Tick answers c₁ entries c₂ →
      Ticks answers c (log ++ entries) c₂

variable {log more entries : Log}

theorem Ticks.trans {c₁ c₂ : Conversation σ} (h : Ticks answers c log c₁) (h' : Ticks answers c₁ more c₂) :
    Ticks answers c (log ++ more) c₂ := by
  induction h' with
  | none =>
    rw [List.append_nil]
    exact h
  | tick _ htick ih =>
    rw [← List.append_assoc]
    exact ih.tick htick

/-- What happens on the clock may happen without it. -/
theorem Tick.step (h : Tick answers c entries c') : Step answers c (events entries) c' := by
  cases h with
  | arrive hne hopen _ => exact .arrive hne hopen
  | pass hle _ => exact .pass hle
  | await hphase hsignalled => exact .await hphase hsignalled
  | wake hphase hturn =>
    rw [events_entriesOf]
    exact .wake hphase hturn
  | apply hphase hrun => exact .apply hphase hrun
  | write hphase hreply => exact .write hphase hreply
  | fail hphase hreply _ => exact .fail hphase hreply

theorem Ticks.steps (h : Ticks answers c log c') : Steps answers c (events log) c' := by
  induction h with
  | none => exact .none
  | tick _ htick ih =>
    rw [events_append]
    exact ih.step htick.step

/-- Nothing that happens on the clock ends the input, sends the client away or signals. -/
theorem Tick.same (h : Tick answers c entries c') : c'.session.inputOver = c.session.inputOver ∧
    c'.session.peerGone = c.session.peerGone ∧ c'.signalled = c.signalled ∧ .signalled ∉ events entries := by
  cases h with
  | arrive => exact ⟨rfl, rfl, rfl, by simp [events]⟩
  | pass => exact ⟨rfl, rfl, rfl, nofun⟩
  | await => exact ⟨rfl, rfl, rfl, nofun⟩
  | @wake turn s _ hturn =>
    obtain ⟨turn', r, hturn'⟩ := exists_turn_eq false c.now c.session
    obtain ⟨rfl, rfl⟩ := Prod.mk.inj (hturn.symm.trans hturn')
    rw [events_entriesOf]
    cases turn <;> exact ⟨rfl, rfl, rfl, nofun⟩
  | apply => exact ⟨rfl, rfl, rfl, by simp [events]⟩
  | write _ hreply =>
    obtain ⟨-, rfl⟩ := of_reply_eq_some hreply
    exact ⟨rfl, rfl, rfl, by simp [events]⟩
  | fail _ hreply _ =>
    obtain ⟨e, rfl⟩ := of_reply_eq_none hreply
    exact ⟨rfl, rfl, rfl, by simp [events]⟩

theorem Ticks.same (h : Ticks answers c log c') : c'.session.inputOver = c.session.inputOver ∧
    c'.session.peerGone = c.session.peerGone ∧ c'.signalled = c.signalled ∧ .signalled ∉ events log := by
  induction h with
  | none => exact ⟨rfl, rfl, rfl, nofun⟩
  | tick _ htick ih =>
    obtain ⟨hinput, hpeer, hsignalled, hnone⟩ := htick.same
    obtain ⟨hinput', hpeer', hsignalled', hnone'⟩ := ih
    refine ⟨hinput.trans hinput', hpeer.trans hpeer', hsignalled.trans hsignalled', ?_⟩
    rw [events_append, List.mem_append]
    exact not_or_intro hnone' hnone

/-- What happens is told as of now, and the clock does not go back. -/
theorem Tick.dated (h : Tick answers c entries c') : c.now ≤ c'.now ∧ ∀ entry ∈ entries, entry.1 = c.now := by
  cases h with
  | pass hle => exact ⟨hle, List.forall_mem_nil _⟩
  | await => exact ⟨Nat.le_refl _, List.forall_mem_nil _⟩
  | @wake turn => cases turn <;> simp [entriesOf]
  | arrive => simp
  | apply => simp
  | write => simp
  | fail => simp

theorem Ticks.dated (h : Ticks answers c log c') : ∀ entry ∈ log, entry.1 ≤ c'.now := by
  induction h with
  | none => exact List.forall_mem_nil _
  | tick _ htick ih =>
    obtain ⟨hnow, hentries⟩ := htick.dated
    intro entry hmem
    rcases List.mem_append.1 hmem with hold | hnew
    · exact Nat.le_trans (ih entry hold) hnow
    · exact hentries entry hnew ▸ hnow

/-- What is told is told in the order in which it happened. -/
theorem Ticks.ordered (h : Ticks answers c log c') : log.Pairwise fun entry later => entry.1 ≤ later.1 := by
  induction h with
  | none => exact .nil
  | @tick log entries c₁ _ hticks htick ih =>
    obtain ⟨-, hentries⟩ := htick.dated
    have hold : ∀ entry ∈ log, entry.1 ≤ c₁.now := hticks.dated
    refine List.pairwise_append.2 ⟨ih, List.pairwise_of_forall_mem_list fun entry hmem later hmem' => ?_, ?_⟩
    · rw [hentries entry hmem, hentries later hmem']
    · intro entry hmem later hmem'
      rw [hentries later hmem']
      exact hold entry hmem

/-! ## A session never gets stuck -/

/-- How far a phase is from waiting. -/
def Phase.rank : Phase → Nat
  | .ended => 0
  | .waiting => 1
  | .looking => 2
  | .replying _ => 3
  | .applying _ => 4

/-- How much a session can do before it needs anything from its client. -/
def Conversation.weight (c : Conversation σ) : Nat :=
  match c.phase with
  | .ended => 0
  | phase => 4 * c.session.receiver.unread.length + phase.rank

/-- Whether the broker goes on and, while the session does, what it took of the stream counts. -/
structure Conversation.GoesOn (c : Conversation σ) : Prop where
  unsignalled : c.signalled = false
  sound : c.phase ≠ .ended → c.session.receiver.Sound

/-- What a session does by itself takes no time and asks nothing of its client. -/
structure Alone (answers : (op : RegistryOp) → σ → op.Reply → σ → Prop) (c : Conversation σ) (log : Log) (c' : Conversation σ) :
    Prop where
  ticks : Ticks answers c log c'
  sameTime : c'.now = c.now
  noArrivals : arrived (events log) = []
  goesOn : c'.GoesOn

theorem Conversation.GoesOn.alone (h : c.GoesOn) : Alone answers c [] c :=
  ⟨.none, rfl, rfl, h⟩

theorem Alone.trans {c₁ c₂ : Conversation σ} (h : Alone answers c log c₁) (h' : Alone answers c₁ more c₂) :
    Alone answers c (log ++ more) c₂ where
  ticks := h.ticks.trans h'.ticks
  sameTime := h'.sameTime.trans h.sameTime
  noArrivals := by rw [events_append, arrived_append, h.noArrivals, h'.noArrivals, List.append_nil]
  goesOn := h'.goesOn

theorem Ticks.single (h : Tick answers c entries c') : Ticks answers c entries c' :=
  Ticks.none.tick h

/-- A session that wakes and does not wait on takes a request or is over. -/
theorem Conversation.GoesOn.alone_wake (h : c.GoesOn) (hphase : c.phase = .waiting) {turn : Turn}
    (hturn : c.session.turn false c.now = (turn, s)) (hwait : turn ≠ .wait) :
    ∃ c', Alone answers c (entriesOf c.now turn) c' ∧ c'.weight < c.weight := by
  have hsound := h.sound (by rw [hphase]; nofun)
  have hwoken := woken_turn hsound c.now
  have htick : Tick answers c (entriesOf c.now turn) { c with session := s.settle turn, phase := phaseAfter turn } :=
    .wake hphase hturn
  rw [hturn] at hwoken
  refine ⟨_, ⟨.single htick, rfl, ?_, ?_⟩, ?_⟩
  · rw [events_entriesOf]
    rfl
  · refine ⟨h.unsignalled, fun hne => ?_⟩
    cases hwoken with
    | wait => exact absurd rfl hwait
    | serve hfirst => exact fun _ h => nomatch h
    | finish => exact absurd rfl hne
  · cases hwoken with
    | wait => exact absurd rfl hwait
    | @serve request rest hfirst =>
      have hless : rest.length < c.session.receiver.unread.length := Frame.length_lt_of_first hfirst
      rw [Conversation.weight, Conversation.weight, hphase]
      change 4 * rest.length + 4 < 4 * c.session.receiver.unread.length + 1
      omega
    | finish =>
      rw [Conversation.weight, Conversation.weight, hphase]
      exact Nat.succ_pos _

/-- A session that has something to do can do it, and then has less to do. -/
theorem Conversation.GoesOn.exists_alone (h : c.GoesOn) (htotal : ∀ op s, ∃ reply s', answers op s reply s')
    (hne : c.phase ≠ .ended) (hbusy : c.phase = .waiting → ¬c.session.Resting c.now) :
    ∃ log c', Alone answers c log c' ∧ c'.weight < c.weight := by
  have hsound := h.sound hne
  cases hphase : c.phase with
  | ended => exact absurd hphase hne
  | looking =>
    refine ⟨_, _, ⟨.single (.await hphase h.unsignalled), rfl, rfl, ⟨h.unsignalled, fun _ => hsound⟩⟩, ?_⟩
    rw [Conversation.weight, Conversation.weight, hphase]
    exact Nat.lt_succ_self _
  | waiting =>
    have hwakes : (c.session.turn false c.now).1 ≠ .wait := fun hwait => hbusy hphase ((turn_eq_wait_iff hsound).1 hwait)
    exact ⟨_, h.alone_wake hphase rfl hwakes⟩
  | applying request =>
    obtain ⟨response, store, hrun⟩ := Program.exists_runs htotal request.handle c.store
    refine ⟨_, _, ⟨.single (.apply hphase hrun), rfl, rfl, ⟨h.unsignalled, fun _ => hsound⟩⟩, ?_⟩
    rw [Conversation.weight, Conversation.weight, hphase]
    exact Nat.lt_succ_self _
  | replying response =>
    rcases hreply : c.session.reply c.now response with ⟨bytes?, s⟩
    cases bytes? with
    | some bytes =>
      obtain ⟨-, rfl⟩ := of_reply_eq_some hreply
      refine ⟨_, _, ⟨.single (.write hphase hreply), rfl, rfl, ⟨h.unsignalled, fun _ => hsound⟩⟩, ?_⟩
      rw [Conversation.weight, Conversation.weight, hphase]
      exact Nat.lt_succ_self _
    | none =>
      obtain ⟨e, rfl⟩ := of_reply_eq_none hreply
      refine ⟨_, _, ⟨.single (.fail hphase hreply rfl), rfl, rfl, ⟨h.unsignalled, fun hne => absurd rfl hne⟩⟩, ?_⟩
      rw [Conversation.weight, Conversation.weight, hphase]
      exact Nat.succ_pos _

/-- By itself a session comes to its end or waits for its client. -/
theorem Conversation.GoesOn.exists_rest (h : c.GoesOn) (htotal : ∀ op s, ∃ reply s', answers op s reply s') :
    ∃ log c', Alone answers c log c' ∧ (c'.phase = .ended ∨ c'.phase = .waiting ∧ c'.session.Resting c'.now) := by
  -- The induction is on how much there is to do.
  induction hn : c.weight using Nat.strongRecOn generalizing c with
  | _ n ih =>
    subst hn
    by_cases hover : c.phase = .ended
    · exact ⟨[], c, h.alone, Or.inl hover⟩
    by_cases hrests : c.phase = .waiting ∧ c.session.Resting c.now
    · exact ⟨[], c, h.alone, Or.inr hrests⟩
    obtain ⟨log, c₁, halone, hless⟩ := h.exists_alone htotal hover fun hphase hresting => hrests ⟨hphase, hresting⟩
    obtain ⟨more, c₂, halone', hend⟩ := ih _ hless halone.goesOn rfl
    exact ⟨log ++ more, c₂, halone.trans halone', hend⟩

/-- A session that waits on can be left alone until its time is over. -/
theorem Resting.rests (h : c.session.Resting c.now) (hphase : c.phase = .waiting) (hsound : c.session.receiver.Sound)
    (htime : ∀ deadline, c.session.deadline = some deadline → time < deadline) : c.Rests time := by
  rw [Conversation.Rests, hphase]
  exact (turn_eq_wait_iff hsound).2 ⟨h.inputOpen, h.incomplete, htime⟩

/-- Without any help of its client a session goes on to any later moment, unless it comes to its end before. -/
theorem Conversation.GoesOn.exists_later (h : c.GoesOn) (htotal : ∀ op s, ∃ reply s', answers op s reply s') {later : Nat}
    (hlater : c.now ≤ later) :
    ∃ log c', Ticks answers c log c' ∧ arrived (events log) = [] ∧ (c'.now = later ∨ c'.phase = .ended ∧ c'.now ≤ later) := by
  obtain ⟨log, c₁, halone, hover | ⟨hphase, hresting⟩⟩ := h.exists_rest htotal
  · exact ⟨log, c₁, halone.ticks, halone.noArrivals, Or.inr ⟨hover, halone.sameTime ▸ hlater⟩⟩
  have hsound := halone.goesOn.sound (by rw [hphase]; nofun)
  have hnow : c₁.now ≤ later := halone.sameTime ▸ hlater
  by_cases hdue : ∃ deadline, c₁.session.deadline = some deadline ∧ deadline ≤ later
  · obtain ⟨deadline, hdeadline, hle⟩ := hdue
    have hpass : Tick answers c₁ [] { c₁ with now := deadline } := by
      refine .pass (Nat.le_of_lt (hresting.inTime _ hdeadline)) fun time _ htime => hresting.rests hphase hsound ?_
      intro deadline' h
      cases hdeadline.symm.trans h
      exact htime
    rcases hturn : c₁.session.turn false deadline with ⟨turn, s⟩
    have hturned := turned_turn hsound deadline
    rw [hturn] at hturned
    have hwake : Tick answers { c₁ with now := deadline } (entriesOf deadline turn)
        { c₁ with now := deadline, session := s.settle turn, phase := phaseAfter turn } := .wake hphase hturn
    refine ⟨_, _, (halone.ticks.tick hpass).tick hwake, ?_, Or.inr ⟨?_, hle⟩⟩
    · simp [halone.noArrivals]
    · cases hturned with
      | wait hrests => exact absurd (hrests.inTime _ hdeadline) (Nat.lt_irrefl _)
      | serve hfirst => cases hresting.incomplete.symm.trans hfirst
      | finish => rfl
  · refine ⟨_, _, halone.ticks.tick (.pass hnow fun time _ htime => hresting.rests hphase hsound ?_), ?_, Or.inl rfl⟩
    · intro deadline hdeadline
      exact Nat.lt_of_lt_of_le htime (Nat.le_of_not_le fun hle => hdue ⟨deadline, hdeadline, hle⟩)
    · rw [List.append_nil]
      exact halone.noArrivals

end QueueBroker.Session

import QueueBroker.Proofs.Broker.Shutdown

/-!
# Starting and stopping at once

Any number of calls may start and stop one broker at the same time. It is started once and stopped once (`Life.Goes.state`), but a call
that stops it while another is still starting it finds no accept loop to wait for. The loop that begins after that waits for a second
signal, which never comes, and goes on accepting (`Life.started_and_stopped`).
-/

namespace QueueBroker

/-- How the state of a broker may change. -/
inductive BrokerState.Moves : BrokerState → BrokerState → Prop where
  | started : Moves .created .started
  | stopped : Moves .started .stopped

/-- Whether an accept loop that has come this far was not told to end: it accepts, or its socket failed. -/
def AcceptPhase.Untold : AcceptPhase → Prop
  | accepting => True
  | draining outcome | ended outcome => ∃ e, outcome = .error e

theorem Host.state_setSession (h : Host) (id : Nat) (s : Session) : (h.setSession id s).broker.state = h.broker.state := by
  unfold setSession
  split <;> rfl

namespace Life

variable {files : (op : FileOp) → Disk → op.Reply → Disk → Prop} {config : BrokerConfig} {host : Host} {now : Nat}
  {sockets : List Listener} {l l' : Life} {o o' : Outline} {n m : Nat}

/-! ## The state of a broker -/

/-- A step of a call moves the state of the broker on, or not at all. -/
theorem Conducted.state_of_answers (h : Conducted sockets l o) (hdrained : l.host.Drained) {call : LifecycleCall} {op : LifecycleOp}
    {next : op.Reply → LifecycleProgram (Except BrokerError Unit)} {reply : op.Reply} {host' : Host}
    (hn : l.calls n = some ⟨call, .steps (.ask op next)⟩) (hans : l.host.Answers files op reply host') :
    Relation.ReflGen BrokerState.Moves l.broker.state host'.broker.state := by
  obtain ⟨-, point, hplace, hasks, -⟩ := h.leads n _ hn
  have hmakes := hans.makes hdrained
  cases hasks with
  | start | stop =>
    cases hmakes with
    | passed hstate =>
      rw [show l.broker.state = _ from hstate]
      exact .single (by constructor)
    | refused => exact .refl
  | giveUp =>
    cases hmakes with
    | givenUp =>
      -- The broker may have been stopped meanwhile.
      rw [show l.broker.state = o.state from h.managed.state]
      obtain ⟨starter, stopper⟩ := o
      obtain rfl : starter = some (n, .unbound) := hplace
      cases stopper with
      | none => exact .single .stopped
      | some _ => exact .refl
  | make | listen | accept | raise | take | await | close => cases hmakes <;> exact .refl

theorem Goes.state (hgoes : Goes files l l') (h : Kept sockets l o) :
    Relation.ReflGen BrokerState.Moves l.broker.state l'.broker.state := by
  have hsession (id : Nat) (s : Session) :
      Relation.ReflGen BrokerState.Moves l.broker.state (l.host.setSession id s).broker.state := by
    rw [Host.state_setSession]
    exact .refl
  cases hgoes with
  | step hn hans => exact h.conducted.state_of_answers h.attended.drained hn hans
  | accept _ haccepts =>
    obtain ⟨a, -, -, rfl⟩ := Host.of_acceptConnection haccepts
    exact .refl
  | die cause hdies =>
    obtain ⟨a, -, -, rfl⟩ := Host.of_failListening hdies
    exact .refl
  | advance hadvances => cases Host.advances_of_advanceAcceptor hadvances <;> exact .refl
  | client | await | reply => exact hsession _ _
  | @wake _ _ _ _ turn => cases turn <;> exact hsession _ _
  | _ => exact .refl

/-! ## Accept loops that no signal reaches -/

/-- A loop that began after the signal ends only when its socket fails. -/
theorem Goes.untold (hgoes : Goes files l l') (hattended : l.Attended)
    (hall : ∀ a ∈ l.host.loops, a.heedsSignal = false → a.phase.Untold) : ∀ a ∈ l'.host.loops, a.heedsSignal = false → a.phase.Untold := by
  intro a ha hdeaf
  cases hgoes.loops hattended a ha with
  | same ha => exact hall a ha hdeaf
  | begins => trivial
  | @heeds b _ _ hheeds =>
    rw [show b.heedsSignal = false from hdeaf] at hheeds
    cases hheeds
  | dies e => exact ⟨e, rfl⟩
  | @ends b outcome hb hphase =>
    have huntold := hall b hb hdeaf
    rw [hphase] at huntold
    exact huntold

/-- What is known of a life in which calls that start and stop the broker may overlap. -/
structure Overlapping (sockets : List Listener) (l : Life) (o : Outline) : Prop extends Kept sockets l o where
  untold : ∀ a ∈ l.host.loops, a.heedsSignal = false → a.phase.Untold

theorem Overlapping.goes (h : Overlapping sockets l o) (hgoes : Goes files l l') : ∃ o', Overlapping sockets l' o' := by
  obtain ⟨o', hkept, -⟩ := h.toKept.goes hgoes
  exact ⟨o', hkept, hgoes.untold h.attended h.untold⟩

theorem Overlapping.later (h : Overlapping sockets l o) (hlater : Later files l l') :
    Relation.ReflTransGen BrokerState.Moves l.broker.state l'.broker.state ∧ ∃ o', Overlapping sockets l' o' := by
  induction hlater with
  | refl => exact ⟨.refl, o, h⟩
  | tail _ hgoes ih =>
    obtain ⟨hmoves, o', hoverlapping⟩ := ih
    exact ⟨hmoves.trans (hgoes.state hoverlapping.toKept).to_reflTransGen, hoverlapping.goes hgoes⟩

theorem overlapping_start (hnew : Broker.new config = .ok host.broker) (now : Nat) :
    Overlapping host.network.listeners (start host now) ⟨none, none⟩ where
  toKept := kept_start hnew now
  untold a ha := by
    rw [((conducted_start hnew now).managed.idle nofun).1] at ha
    cases ha

namespace Overlapping

/-- One call gets to start the broker. -/
theorem starter_of_returned (h : Overlapping sockets l o) (hreturned : .returned n .start (.ok ()) ∈ l.journal) :
    o.starter = some (n, .started) := by
  obtain ⟨-, -, point, hplace, hcomes⟩ := h.conducted.returned n .start (.ok ()) hreturned
  cases hcomes
  exact hplace

theorem stopper_of_returned (h : Overlapping sockets l o) (hreturned : .returned n .stop (.ok ()) ∈ l.journal) :
    o.stopper = some (n, .stopped (.ok ()) (.ok ())) := by
  obtain ⟨-, -, point, hplace, hcomes⟩ := h.conducted.returned n .stop (.ok ()) hreturned
  cases hcomes
  exact hplace

/-- A broker that was stopped, and that no call is starting any more, was started or failed to. -/
theorem started_or_failed (h : Overlapping sockets l o) (hstopper : o.stopper ≠ none)
    (hdone : ∀ m left, l.calls m ≠ some ⟨.start, left⟩) : o.started = some .started ∨ o.started = some .failed := by
  have hstarter : o.starter ≠ none := fun hnone => hstopper (h.conducted.managed.order hnone)
  obtain ⟨⟨m, p⟩, hm⟩ := Option.ne_none_iff_exists'.1 hstarter
  rcases h.accountable m .start (h.conducted.starter m p hm) with ⟨left, hleft⟩ | ⟨result, hreturned⟩
  · exact absurd hleft (hdone m left)
  · obtain ⟨-, -, point, hplace, hcomes⟩ := h.conducted.returned m .start result hreturned
    cases hcomes with
    | refused => exact absurd hm (hplace.1 p)
    | started => exact Or.inl (Managed.started_of_starter hplace)
    | failed => exact Or.inr (Managed.started_of_starter hplace)

/-- A broker that was stopped has ended its accept loop and released its socket, unless the loop began after the signal. -/
theorem released (h : Overlapping sockets l o) (hreturned : .returned n .stop (.ok ()) ∈ l.journal)
    (hdone : ∀ m left, l.calls m ≠ some ⟨.start, left⟩) (hheeds : ∀ a ∈ l.broker.acceptors, a.heedsSignal = true) :
    l.Silent ∧ l.network.listeners = sockets := by
  have hstopper := h.stopper_of_returned hreturned
  have hmanaged := h.conducted.managed
  have hsockets := hmanaged.sockets
  rcases h.started_or_failed (by rw [hstopper]; rintro ⟨⟩) hdone with hstarted | hfailed
  · obtain ⟨b, hloops, -⟩ := hmanaged.running hstarted
    obtain ⟨a, hacceptors, rfl⟩ := List.map_eq_singleton_iff.1 hloops
    have hacceptors : l.broker.acceptors = [a] := hacceptors
    have hphase : a.phase = .ended (.ok ()) := by
      rcases hmanaged.settled (.ok ()) (.stopped (Managed.stopped_of_stopper hstopper)) with ⟨-, hdeaf⟩ | ⟨b, hb, hphase⟩
      · have htrue := hheeds a (by rw [hacceptors]; exact List.mem_singleton.2 rfl)
        have hfalse := hdeaf a.bare (by rw [hloops]; exact List.mem_singleton.2 rfl)
        exact absurd htrue (by rw [show a.heedsSignal = false from hfalse]; rintro ⟨⟩)
      · rw [hloops, List.mem_singleton] at hb
        rwa [hb] at hphase
    have hheld : o.held = [] := by rw [Outline.held, hstarted]
    have hbare : a.bare.held = [] := by rw [Acceptor.held, show a.bare.phase = .ended (.ok ()) from hphase]
    rw [hheld, hloops, List.flatMap_singleton, hbare] at hsockets
    refine ⟨?_, hsockets⟩
    rw [Silent, hacceptors]
    intro b hb
    rw [List.mem_singleton.1 hb]
    exact ⟨_, hphase⟩
  · obtain ⟨hloops, -, -⟩ := hmanaged.idle (by rw [hfailed]; rintro ⟨⟩)
    have hheld : o.held = [] := by rw [Outline.held, hfailed]
    have hacceptors : l.broker.acceptors = [] := List.map_eq_nil_iff.1 hloops
    rw [hheld, hloops] at hsockets
    refine ⟨?_, hsockets⟩
    rw [Silent, hacceptors]
    exact fun a ha => absurd ha List.not_mem_nil

/-- An accept loop that began after the signal goes on accepting, and holds its socket. -/
theorem leaked (h : Overlapping sockets l o) {a : Acceptor} (ha : a ∈ l.broker.acceptors) (hdeaf : a.heedsSignal = false)
    (hfine : l.broker.failure = none) : a.phase = .accepting ∧ l.network.listeners = a.listener :: sockets := by
  obtain ⟨k, hlt, hk⟩ := List.getElem_of_mem ha
  obtain ⟨hstarted, -, hloops, hagrees⟩ := h.conducted.managed.of_acceptor (h := l.host) (List.getElem?_eq_some_iff.2 ⟨hlt, hk⟩)
  have huntold : a.phase.Untold := h.untold a.bare (by rw [hloops]; exact List.mem_singleton.2 rfl) hdeaf
  have hphase : a.phase = .accepting := by
    rw [show l.host.broker.failure = none from hfine] at hagrees
    cases hcase : a.phase with
    | accepting => rfl
    | draining outcome | ended outcome =>
      rw [hcase] at huntold hagrees
      obtain ⟨e, rfl⟩ := huntold
      cases hagrees
  have hsockets := h.conducted.managed.sockets
  have hheld : o.held = [] := by rw [Outline.held, hstarted]
  have hbare : a.bare.held = [a.listener] := by
    rw [Acceptor.held, show a.bare.phase = .accepting from hphase]
    rfl
  rw [hheld, hloops, List.flatMap_singleton, hbare] at hsockets
  exact ⟨hphase, hsockets⟩

end Overlapping

/-! ## What overlapping calls come to -/

/-- What is true of a broker however many calls start and stop it, and in whatever order they make their steps. -/
structure StartedAndStopped (files : (op : FileOp) → Disk → op.Reply → Disk → Prop) (host : Host) (l : Life) : Prop where
  /-- Its state goes from created to started to stopped and never back, -/
  moves : ∀ l', Later files l l' → Relation.ReflTransGen BrokerState.Moves l.broker.state l'.broker.state
  /-- and one call gets to start it and one to stop it. -/
  starter : ∀ n m, .returned n .start (.ok ()) ∈ l.journal → .returned m .start (.ok ()) ∈ l.journal → n = m
  stopper : ∀ n m, .returned n .stop (.ok ()) ∈ l.journal → .returned m .stop (.ok ()) ∈ l.journal → n = m
  /-- Once it was stopped and nobody is starting it, its accept loop has ended and its socket is released, provided that the loop began
  before the signal, -/
  released : ∀ n, .returned n .stop (.ok ()) ∈ l.journal → (∀ m left, l.calls m ≠ some ⟨.start, left⟩) →
    (∀ a ∈ l.broker.acceptors, a.heedsSignal = true) → l.Silent ∧ l.network.listeners = host.network.listeners
  /-- and not otherwise, as long as its socket does not fail. -/
  leaked : ∀ a ∈ l.broker.acceptors, a.heedsSignal = false → l.broker.failure = none →
    a.phase = .accepting ∧ l.network.listeners = a.listener :: host.network.listeners
  /-- The loop of a broker that is stopped only after it was started begins before the signal. -/
  heeds : StartedFirst l.journal → ∀ a ∈ l.broker.acceptors, a.heedsSignal = true

/-- A broker that is started and stopped by any number of calls at once is started once and stopped once. It does not listen after that
if and only if its accept loop did not begin after the signal. -/
theorem started_and_stopped (hnew : Broker.new config = .ok host.broker) (h : Later files (start host now) l) :
    StartedAndStopped files host l := by
  obtain ⟨-, o, hoverlapping⟩ := (overlapping_start hnew now).later h
  exact {
    moves := fun l' hlater => (hoverlapping.later hlater).1
    starter := fun n m hn hm => by
      have heq := (hoverlapping.starter_of_returned hn).symm.trans (hoverlapping.starter_of_returned hm)
      exact congrArg Prod.fst (Option.some.inj heq)
    stopper := fun n m hn hm => by
      have heq := (hoverlapping.stopper_of_returned hn).symm.trans (hoverlapping.stopper_of_returned hm)
      exact congrArg Prod.fst (Option.some.inj heq)
    released := fun n hreturned hdone hheeds => hoverlapping.released hreturned hdone hheeds
    leaked := fun a ha hdeaf hfine => hoverlapping.leaked ha hdeaf hfine
    heeds := fun hfirst a ha => by
      obtain ⟨o', horderly, -⟩ := (orderly_start hnew now : Orderly files host _ _).later h hfirst
      exact horderly.heeds a.bare (List.mem_map_of_mem ha) }

/-- A call stops the broker between the first step of the one that starts it and the next. -/
theorem exists_overlapped : ∃ l, Later FileOp.Performs (start localHost 0) l ∧
    l.journal = [.called 0 .start, .called 1 .stop, .returned 1 .stop (.ok ()), .returned 0 .start (.ok ())] ∧
    (∀ n, l.calls n = none) ∧ l.broker.state = .stopped ∧ l.broker.failure = none ∧
    l.broker.acceptors = [⟨⟨"localhost", defaultPort⟩, false, .accepting, []⟩] ∧
    l.network.listeners = [⟨"localhost", defaultPort⟩] := by
  have h₀ : Later FileOp.Performs (start localHost 0) _ := .single (.call (n := 0) .start (fun _ => List.not_mem_nil))
  have h₁ := h₀.tail (.step (n := 0) rfl (.performed (by rintro ⟨⟩) (by rintro ⟨⟩) rfl))
  -- The broker counts as started, so that it can be stopped; but there is no accept loop to take yet.
  have h₂ := h₁.tail (.call (n := 1) .stop (fun other => by simp [sets, on, start]))
  have h₃ := h₂.tail (.step (n := 1) rfl (.performed (by rintro ⟨⟩) (by rintro ⟨⟩) rfl))
  have h₄ := h₃.tail (.step (n := 1) rfl (.performed (by rintro ⟨⟩) (by rintro ⟨⟩) rfl))
  have h₅ := h₄.tail (.step (n := 1) rfl (.performed (by rintro ⟨⟩) (by rintro ⟨⟩) rfl))
  have h₆ := h₅.tail (.close (n := 1) rfl)
  have hentries : Store.Answers FileOp.Performs .entries localHost.store [] localHost.store := .done _ _
  have hclear : Store.Answers FileOp.Performs .clear localHost.store () localHost.store := .done _ _
  have h₇ := h₆.tail (.closing (n := 1) rfl rfl hentries)
  have h₈ := h₇.tail (.closing (n := 1) rfl rfl hclear)
  have h₉ := h₈.tail (.closed (n := 1) rfl)
  have h₁₀ := h₉.tail (.finish (n := 1) rfl)
  -- The call that starts it goes on all the same.
  have h₁₁ := h₁₀.tail (.step (n := 0) rfl (.storage rfl))
  have h₁₂ := h₁₁.tail (.step (n := 0) rfl (.performed (by rintro ⟨⟩) (by rintro ⟨⟩) rfl))
  have hmake : LifecycleOp.beginAccepting ⟨"localhost", defaultPort⟩ ≠ .makeStorage := by rintro ⟨⟩
  have hclose : LifecycleOp.beginAccepting ⟨"localhost", defaultPort⟩ ≠ .closeQueues := by rintro ⟨⟩
  have h₁₃ := h₁₂.tail (.step (n := 0) rfl (.performed hmake hclose rfl))
  have h₁₄ := h₁₃.tail (.finish (n := 0) rfl)
  refine ⟨_, h₁₄, rfl, fun n => ?_, rfl, rfl, rfl, rfl⟩
  rcases n with _ | _ | n <;> rfl

/-- A broker that calls start and stop at the same time, all of which have returned. -/
theorem started_and_stopped_overlapped : ∃ l, StartedAndStopped FileOp.Performs localHost l ∧
    .returned 1 .stop (.ok ()) ∈ l.journal ∧ .returned 0 .start (.ok ()) ∈ l.journal ∧ ∃ a ∈ l.broker.acceptors, a.heedsSignal = false := by
  obtain ⟨l, hlater, hjournal, -, -, -, hacceptors, -⟩ := exists_overlapped
  refine ⟨l, started_and_stopped (rfl : Broker.new localBroker.config = _) hlater, by simp [hjournal], by simp [hjournal], ?_⟩
  rw [hacceptors]
  exact ⟨_, List.mem_singleton.2 rfl, rfl⟩

/-- A broker may be left listening although it was stopped and every call has returned. -/
theorem listens_after_stop : ¬∀ l, Later FileOp.Performs (start localHost 0) l → ∀ n, .returned n .stop (.ok ()) ∈ l.journal →
    (∀ m, l.calls m = none) → (∀ a ∈ l.broker.acceptors, a.phase ≠ .accepting) ∧ l.network.listeners = localHost.network.listeners := by
  intro hclaim
  obtain ⟨l, hlater, hjournal, hdone, -, -, hacceptors, -⟩ := exists_overlapped
  obtain ⟨hquiet, -⟩ := hclaim l hlater 1 (by simp [hjournal]) hdone
  exact hquiet _ (by rw [hacceptors]; exact List.mem_singleton.2 rfl) rfl

end Life

end QueueBroker

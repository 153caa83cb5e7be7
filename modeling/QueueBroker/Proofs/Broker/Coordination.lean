import QueueBroker.Proofs.Broker.Callers

/-!
# How starting, stopping and accepting go together

`Coordinated` says what is known of a broker and its accept loops by how far it was started and stopped, whoever makes the next step.
There is never more than one accept loop. One that began before the broker was stopped is waited for; one that began after all were
told to end, since starting and stopping overlapped, is not, and runs until its socket fails.
-/

namespace QueueBroker

/-- Whether an accept loop that has come this far ended, or ends, with the failure of its broker, if there was one. -/
def AcceptPhase.Agrees (failure : Option ServerFault) : AcceptPhase → Prop
  | accepting => failure = none
  | draining outcome | ended outcome => outcome = failure.elim (.ok ()) fun fault => .error (.server fault)

/-- The socket that an accept loop holds, while it accepts. -/
def Acceptor.held (a : Acceptor) : List Listener :=
  match a.phase with
  | .accepting => [a.listener]
  | .draining _ | .ended _ => []

namespace Outline

/-- The state of a broker that was started and stopped this far. -/
def state (o : Outline) : BrokerState :=
  match o.started, o.stopped with
  | none, _ => .created
  | some .failed, _ => .stopped
  | some _, some _ => .stopped
  | some _, none => .started

/-- The socket that no accept loop holds yet. -/
def held (o : Outline) : List Listener :=
  match o.started with
  | some (.listening listener) => [listener]
  | _ => []

/-- Whether a broker was stopped so far that it waits for no accept loop any more. -/
inductive Settled (o : Outline) : Except BrokerError Unit → Prop where
  | settled {accepted : Except BrokerError Unit} : o.stopped = some (.settled accepted) → Settled o accepted
  | closing {accepted : Except BrokerError Unit} : o.stopped = some (.closing accepted) → Settled o accepted
  | stopped {accepted closed : Except BrokerError Unit} : o.stopped = some (.stopped accepted closed) → Settled o accepted

/-- Whether a broker was not stopped so far that its accept loop was taken. -/
inductive Untaken (o : Outline) : Prop where
  | running : o.stopped = none → Untaken o
  | stopping : o.stopped = some .stopping → Untaken o
  | raised : o.stopped = some .raised → Untaken o

variable {o : Outline}

theorem state_eq_created (h : o.state = .created) : o.starter = none := by
  obtain ⟨_ | ⟨n, p⟩, stopper⟩ := o
  · rfl
  · cases p <;> cases stopper <;> cases h

theorem state_eq_started (h : o.state = .started) : o.stopper = none ∧ o.starter ≠ none := by
  obtain ⟨_ | ⟨n, p⟩, _ | ⟨m, q⟩⟩ := o
  · cases h
  · cases h
  · exact ⟨rfl, nofun⟩
  · cases p <;> cases h

theorem state_of_stopper {n : Nat} {p : StopPoint} (hstopper : o.stopper = some (n, p)) (hstarter : o.starter ≠ none) :
    o.state = .stopped := by
  obtain ⟨_ | ⟨m, q⟩, stopper⟩ := o
  · exact absurd rfl hstarter
  · obtain rfl : stopper = some (n, p) := hstopper
    cases q <;> rfl

/-- A broker that was not stopped far is not settled. -/
theorem Untaken.not_settled (h : o.Untaken) (accepted : Except BrokerError Unit) : ¬o.Settled accepted := by
  intro hsettled
  cases h with
  | running hnone => cases hsettled <;> simp_all
  | stopping hstopping => cases hsettled <;> simp_all
  | raised hraised => cases hsettled <;> simp_all

/-- Starting does not settle a broker. -/
theorem Settled.of_starting {n : Nat} {p : StartPoint} {accepted : Except BrokerError Unit}
    (h : (o.moved n (.starting p)).Settled accepted) : o.Settled accepted := by
  cases h with
  | settled heq => exact .settled heq
  | closing heq => exact .closing heq
  | stopped heq => exact .stopped heq

end Outline

/-- What is known of a broker that was started and stopped this far, and of the sockets of its machine, besides those that others
hold. -/
structure Managed (sockets : List Listener) (h : Host) (o : Outline) : Prop where
  state : h.broker.state = o.state
  /-- What was not started was not stopped. -/
  order : o.starter = none → o.stopper = none
  idle : o.started ≠ some .started → h.loops = [] ∧ h.broker.current = none ∧ h.broker.failure = none
  /-- Once it was started there is one accept loop. -/
  running : o.started = some .started → ∃ a, h.loops = [a] ∧ a.phase.Agrees h.broker.failure
  current : o.started = some .started → o.Untaken → h.broker.current = some 0
  awaiting : ∀ id, o.stopped = some (.awaiting id) → id = 0 ∧ o.started = some .started
  /-- An accept loop that was not waited for is one that no signal reaches. -/
  settled : ∀ accepted, o.Settled accepted → (accepted = .ok () ∧ ∀ a ∈ h.loops, a.heedsSignal = false) ∨
    ∃ a ∈ h.loops, a.phase = .ended accepted
  signalled : ∀ p, o.stopped = some p → p ≠ .stopping → h.broker.signal = true
  raised : h.broker.signal = true → o.stopper ≠ none ∨ h.broker.failure ≠ none
  sockets : h.network.listeners = o.held ++ h.loops.flatMap Acceptor.held ++ sockets

namespace Managed

variable {sockets : List Listener} {h h' : Host} {o : Outline} {n : Nat} {p p' : StartPoint} {q q' : StopPoint}

theorem started_of_starter (hstarter : o.starter = some (n, p)) : o.started = some p := by
  rw [Outline.started, hstarter, Option.map_some]

theorem stopped_of_stopper (hstopper : o.stopper = some (n, q)) : o.stopped = some q := by
  rw [Outline.stopped, hstopper, Option.map_some]

/-- A broker that waits for no accept loop any more was told to end. -/
theorem signal_of_settled (hm : Managed sockets h o) {accepted : Except BrokerError Unit} (hsettled : o.Settled accepted) :
    h.broker.signal = true := by
  cases hsettled with
  | settled heq => exact hm.signalled _ heq nofun
  | closing heq => exact hm.signalled _ heq nofun
  | stopped heq => exact hm.signalled _ heq nofun

/-! ### Starting -/

theorem pass_start (hm : Managed sockets h o) (hcreated : h.broker.state = .created) :
    o.Admits n (.starting .binding) ∧
      Managed sockets { h with broker := { h.broker with state := .started } } (o.moved n (.starting .binding)) := by
  obtain ⟨starter, stopper⟩ := o
  obtain rfl : starter = none := Outline.state_eq_created (hm.state.symm.trans hcreated)
  obtain rfl : stopper = none := hm.order rfl
  exact ⟨nofun, {
    state := rfl
    order := nofun
    idle := fun _ => hm.idle nofun
    running := nofun
    current := nofun
    awaiting := fun _ hstopped => by cases hstopped
    settled := fun accepted hsettled => absurd hsettled (Outline.Untaken.not_settled (.running rfl) accepted)
    signalled := fun _ hstopped => by cases hstopped
    raised := hm.raised
    sockets := hm.sockets }⟩

/-- While the broker is being started, and when it failed to, there is no accept loop. -/
theorem restarted (hm : Managed sockets h o) (hstarter : o.starter = some (n, p)) (hp : p ≠ .started) (hp' : p' ≠ .started)
    (hloops : h'.loops = h.loops) (hcurrent : h'.broker.current = h.broker.current) (hfailure : h'.broker.failure = h.broker.failure)
    (hsignal : h'.broker.signal = h.broker.signal) (hstate : h'.broker.state = (o.moved n (.starting p')).state)
    (hsockets : h'.network.listeners = (o.moved n (.starting p')).held ++ sockets) :
    Managed sockets h' (o.moved n (.starting p')) := by
  have hidle := hm.idle (by rw [started_of_starter hstarter]; exact fun heq => hp (Option.some.inj heq))
  have hnot : (o.moved n (.starting p')).started ≠ some .started := fun heq => hp' (Option.some.inj heq)
  exact {
    state := hstate
    order := nofun
    idle := fun _ => by
      rw [hloops, hcurrent, hfailure]
      exact hidle
    running := fun heq => absurd heq hnot
    current := fun heq => absurd heq hnot
    awaiting := fun id hawaiting => by
      have hstarted := (hm.awaiting id hawaiting).2
      rw [started_of_starter hstarter] at hstarted
      exact absurd (Option.some.inj hstarted) hp
    settled := fun accepted hsettled => by
      rw [hloops]
      exact hm.settled accepted hsettled.of_starting
    signalled := fun q hq hne => by
      rw [hsignal]
      exact hm.signalled q hq hne
    raised := by
      rw [hsignal, hfailure]
      exact hm.raised
    sockets := by
      rw [hsockets, hloops, hidle.1, List.flatMap_nil, List.append_nil] }

/-- The accept loop begins. If the broker was stopped meanwhile, the signal is not one that the loop waits for. -/
theorem begin_accepting (hm : Managed sockets h o) {listener : Listener} (hstarter : o.starter = some (n, .listening listener)) :
    Managed sockets (h.perform (.beginAccepting listener)).2 (o.moved n (.starting .started)) := by
  have hstarted := started_of_starter hstarter
  obtain ⟨hloops, -, hfailure⟩ := hm.idle (by rw [hstarted]; rintro ⟨⟩)
  have hnone : h.broker.acceptors = [] := List.map_eq_nil_iff.1 hloops
  have hbegun : (h.perform (.beginAccepting listener)).2.loops = [⟨listener, !h.broker.signal, .accepting, []⟩] := by
    rw [Host.perform, Host.loops, hnone]
    rfl
  exact {
    state := by
      refine hm.state.trans ?_
      obtain ⟨starter, stopper⟩ := o
      obtain rfl : starter = some (n, .listening listener) := hstarter
      cases stopper <;> rfl
    order := by rintro ⟨⟩
    idle := fun hne => absurd rfl hne
    running := fun _ => ⟨_, hbegun, hfailure⟩
    current := fun _ _ => by
      rw [Host.perform, hnone]
      rfl
    awaiting := fun id hawaiting => by
      have heq := (hm.awaiting id hawaiting).2
      rw [hstarted] at heq
      cases heq
    settled := fun accepted hsettled => by
      have hsignal : h.broker.signal = true := hm.signal_of_settled hsettled.of_starting
      rcases hm.settled accepted hsettled.of_starting with ⟨hok, -⟩ | ⟨a, ha, -⟩
      · refine Or.inl ⟨hok, fun a ha => ?_⟩
        rw [hbegun, List.mem_singleton] at ha
        rw [ha, hsignal]
        rfl
      · rw [hloops] at ha
        cases ha
    signalled := hm.signalled
    raised := hm.raised
    sockets := by
      have hsockets := hm.sockets
      rw [Outline.held, hstarted, hloops] at hsockets
      rw [hbegun]
      exact hsockets }

/-! ### Stopping -/

theorem pass_stop (hm : Managed sockets h o) (hstate : h.broker.state = .started) :
    o.Admits n (.stopping .stopping) ∧
      Managed sockets { h with broker := { h.broker with state := .stopped } } (o.moved n (.stopping .stopping)) := by
  obtain ⟨hnone, hsome⟩ := Outline.state_eq_started (hm.state.symm.trans hstate)
  have hrunning : o.Untaken := .running (by rw [Outline.stopped, hnone, Option.map_none])
  have hadmits : o.Admits n (.stopping .stopping) := by
    intro m q hq
    rw [hnone] at hq
    cases hq
  refine ⟨hadmits, ?_⟩
  exact {
    state := (Outline.state_of_stopper (o := o.moved n (.stopping .stopping)) rfl hsome).symm
    order := fun heq => absurd heq hsome
    idle := hm.idle
    running := hm.running
    current := fun hstarted _ => hm.current hstarted hrunning
    awaiting := fun _ heq => by cases heq
    settled := fun accepted hsettled => absurd hsettled (Outline.Untaken.not_settled (.stopping rfl) accepted)
    signalled := fun q hq hne => absurd (Option.some.inj hq).symm hne
    raised := fun _ => Or.inl nofun
    sockets := hm.sockets }

/-- While the broker is being stopped its accept loop goes on by itself. -/
theorem restopped (hm : Managed sockets h o) (hstopper : o.stopper = some (n, q)) (hloops : h'.loops = h.loops)
    (hfailure : h'.broker.failure = h.broker.failure) (hstate : h'.broker.state = h.broker.state)
    (hnetwork : h'.network = h.network) (hsignal : h'.broker.signal = true)
    (hidle : h'.broker.current = h.broker.current ∨ h'.broker.current = none)
    (hcurrent : (o.moved n (.stopping q')).Untaken → h'.broker.current = h.broker.current ∧ o.Untaken)
    (hawaiting : ∀ id, q' = .awaiting id → id = 0 ∧ o.started = some .started)
    (hsettled : ∀ accepted, (o.moved n (.stopping q')).Settled accepted →
      (accepted = .ok () ∧ ∀ a ∈ h.loops, a.heedsSignal = false) ∨ ∃ a ∈ h.loops, a.phase = .ended accepted) :
    Managed sockets h' (o.moved n (.stopping q')) := by
  have hstarter : o.starter ≠ none := by
    intro hnone
    rw [hm.order hnone] at hstopper
    cases hstopper
  exact {
    state := by
      rw [hstate, hm.state, Outline.state_of_stopper hstopper hstarter]
      exact (Outline.state_of_stopper (o := o.moved n (.stopping q')) rfl hstarter).symm
    order := fun heq => absurd heq hstarter
    idle := fun hne => by
      obtain ⟨hnone, hcurrent, hfine⟩ := hm.idle hne
      rw [hcurrent, or_self] at hidle
      exact ⟨hloops.trans hnone, hidle, hfailure.trans hfine⟩
    running := fun hstarted => by
      rw [hloops, hfailure]
      exact hm.running hstarted
    current := fun hstarted huntaken => by
      obtain ⟨hsame, hbefore⟩ := hcurrent huntaken
      exact hsame.trans (hm.current hstarted hbefore)
    awaiting := fun id heq => hawaiting id (Option.some.inj heq)
    settled := fun accepted heq => by
      rw [hloops]
      exact hsettled accepted heq
    signalled := fun _ _ _ => hsignal
    raised := fun _ => Or.inl nofun
    sockets := by
      rw [hnetwork, hloops]
      exact hm.sockets }

/-- A call that stops the broker takes its accept loop, if one began. -/
theorem take (hm : Managed sockets h o) (hstopper : o.stopper = some (n, .raised)) :
    ∃ point, Point.Moves (.stopping .raised) .takeAcceptor h.broker.current point ∧ o.Admits n point ∧
      Managed sockets { h with broker := { h.broker with current := none } } (o.moved n point) := by
  have hstopped := stopped_of_stopper hstopper
  have hadmits : ∀ q', o.Admits n (.stopping q') := by
    intro q' m q hq
    rw [hstopper] at hq
    exact (congrArg Prod.fst (Option.some.inj hq)).symm
  have hsignal : h.broker.signal = true := hm.signalled _ hstopped nofun
  have huntaken : o.Untaken := .raised hstopped
  cases hcurrent : h.broker.current with
  | none =>
    refine ⟨_, .none, hadmits _, hm.restopped hstopper rfl rfl rfl rfl hsignal (Or.inr rfl) ?_ ?_ ?_⟩
    · rintro (heq | heq | heq) <;> cases heq
    · rintro id ⟨⟩
    · intro accepted hsettled
      have hidle : h.loops = [] := by
        refine (hm.idle fun hstarted => ?_).1
        rw [hm.current hstarted huntaken] at hcurrent
        cases hcurrent
      rw [hidle]
      cases hsettled with
      | settled heq =>
        cases heq
        exact Or.inl ⟨rfl, fun a ha => absurd ha List.not_mem_nil⟩
      | closing heq => cases heq
      | stopped heq => cases heq
  | some id =>
    have hstarted : o.started = some .started := by
      by_contra hne
      rw [(hm.idle hne).2.1] at hcurrent
      cases hcurrent
    rw [hm.current hstarted huntaken] at hcurrent
    obtain rfl := Option.some.inj hcurrent
    refine ⟨_, .took, hadmits _, hm.restopped hstopper rfl rfl rfl rfl hsignal (Or.inr rfl) ?_ ?_ ?_⟩
    · rintro (heq | heq | heq) <;> cases heq
    · rintro id ⟨⟩
      exact ⟨rfl, hstarted⟩
    · rintro accepted (heq | heq | heq) <;> cases heq

/-- A call that waited for the accept loop goes on with what that ended with. -/
theorem await (hm : Managed sockets h o) {id : AcceptorId} {accepted : Except BrokerError Unit}
    (hstopper : o.stopper = some (n, .awaiting id)) (hended : ∃ a ∈ h.loops, a.phase = .ended accepted) :
    Managed sockets h (o.moved n (.stopping (.settled accepted))) := by
  have hsignal : h.broker.signal = true := hm.signalled _ (stopped_of_stopper hstopper) nofun
  refine hm.restopped hstopper rfl rfl rfl rfl hsignal (Or.inl rfl) ?_ ?_ ?_
  · rintro (heq | heq | heq) <;> cases heq
  · rintro id ⟨⟩
  · rintro other (heq | heq | heq)
    · cases heq
      exact Or.inr hended
    · cases heq
    · cases heq

theorem raise (hm : Managed sockets h o) (hstopper : o.stopper = some (n, .stopping)) :
    Managed sockets h.raiseSignal (o.moved n (.stopping .raised)) := by
  refine hm.restopped hstopper rfl rfl rfl rfl rfl (Or.inl rfl) ?_ ?_ ?_
  · exact fun _ => ⟨rfl, .stopping (stopped_of_stopper hstopper)⟩
  · rintro id ⟨⟩
  · rintro other (heq | heq | heq) <;> cases heq

/-- Closing the queues leaves the broker as it is. -/
theorem close (hm : Managed sockets h o) {accepted : Except BrokerError Unit} (hstopper : o.stopper = some (n, q))
    (hbefore : o.Settled accepted) (hq' : q' = .closing accepted ∨ ∃ closed, q' = .stopped accepted closed)
    (hbroker : h'.broker = h.broker) (hnetwork : h'.network = h.network) : Managed sockets h' (o.moved n (.stopping q')) := by
  have hsignal : h'.broker.signal = true := by
    rw [hbroker]
    rcases hbefore with heq | heq | heq <;> exact hm.signalled _ heq nofun
  have hloops : h'.loops = h.loops := by rw [Host.loops, hbroker, Host.loops]
  refine hm.restopped hstopper hloops (by rw [hbroker]) (by rw [hbroker]) hnetwork hsignal (Or.inl (by rw [hbroker])) ?_ ?_ ?_
  · rcases hq' with rfl | ⟨closed, rfl⟩ <;> rintro (heq | heq | heq) <;> cases heq
  · rcases hq' with rfl | ⟨closed, rfl⟩ <;> rintro id ⟨⟩
  · rintro other hother
    have hsame : other = accepted := by
      rcases hq' with rfl | ⟨closed, rfl⟩ <;> rcases hother with heq | heq | heq <;> cases heq <;> rfl
    rw [hsame]
    exact hm.settled accepted hbefore

/-! ### Accept loops -/

/-- Whatever becomes of sessions, the broker is as it was. -/
theorem same (hm : Managed sockets h o) (hloops : h'.loops = h.loops)
    (hbroker : h'.broker = { h.broker with acceptors := h'.broker.acceptors }) (hnetwork : h'.network = h.network) :
    Managed sockets h' o where
  state := by
    rw [hbroker]
    exact hm.state
  order := hm.order
  idle := by
    rw [hloops, hbroker]
    exact hm.idle
  running := by
    rw [hloops, hbroker]
    exact hm.running
  current := by
    rw [hbroker]
    exact hm.current
  awaiting := hm.awaiting
  settled := by
    rw [hloops]
    exact hm.settled
  signalled := by
    rw [hbroker]
    exact hm.signalled
  raised := by
    rw [hbroker]
    exact hm.raised
  sockets := by
    rw [hnetwork, hloops]
    exact hm.sockets

theorem setSession (hm : Managed sockets h o) (id : Nat) (s : Session) : Managed sockets (h.setSession id s) o := by
  have hrest : (h.setSession id s).broker = { h.broker with acceptors := (h.setSession id s).broker.acceptors } ∧
      (h.setSession id s).network = h.network := by
    unfold Host.setSession
    split <;> exact ⟨rfl, rfl⟩
  exact hm.same (Host.loops_setSession h id s) hrest.1 hrest.2

/-- There is only one accept loop. -/
theorem of_acceptor (hm : Managed sockets h o) {k : AcceptorId} {a : Acceptor} (hk : h.broker.acceptors[k]? = some a) :
    o.started = some .started ∧ k = 0 ∧ h.loops = [a.bare] ∧ a.phase.Agrees h.broker.failure := by
  have hloop : h.loops[k]? = some a.bare := by rw [Host.loops, List.getElem?_map, hk, Option.map_some]
  have hstarted : o.started = some .started := by
    by_contra hne
    rw [(hm.idle hne).1] at hloop
    cases hloop
  obtain ⟨only, hloops, hagrees⟩ := hm.running hstarted
  rw [hloops] at hloop
  obtain ⟨rfl, rfl⟩ : k = 0 ∧ only = a.bare := by simpa [List.getElem?_singleton] using hloop
  exact ⟨hstarted, rfl, hloops, hagrees⟩

/-- What becomes of a broker when its accept loop goes on. -/
theorem looped (hm : Managed sockets h o) {k : AcceptorId} {a a' : Acceptor} (hk : h.broker.acceptors[k]? = some a)
    (hloops : h'.loops = [a']) (hheeds : a'.heedsSignal = a.heedsSignal) (hagrees : a'.phase.Agrees h'.broker.failure)
    (hended : ∀ outcome, a.phase ≠ .ended outcome) (hstate : h'.broker.state = h.broker.state)
    (hcurrent : h'.broker.current = h.broker.current) (hsignal : h.broker.signal = true → h'.broker.signal = true)
    (hraised : h'.broker.signal = true → h.broker.signal = true ∧ h'.broker.failure = h.broker.failure ∨ h'.broker.failure ≠ none)
    (hsockets : h'.network.listeners = a'.held ++ sockets) : Managed sockets h' o := by
  obtain ⟨hstarted, -, hbefore, -⟩ := hm.of_acceptor hk
  exact {
    state := hstate.trans hm.state
    order := hm.order
    idle := fun hne => absurd hstarted hne
    running := fun _ => ⟨a', hloops, hagrees⟩
    current := fun hstarted huntaken => hcurrent.trans (hm.current hstarted huntaken)
    awaiting := hm.awaiting
    settled := fun accepted hsettled => by
      rcases hm.settled accepted hsettled with ⟨hok, hall⟩ | ⟨b, hb, hphase⟩
      · refine Or.inl ⟨hok, fun b hb => ?_⟩
        rw [hloops, List.mem_singleton] at hb
        rw [hb, hheeds]
        exact hall a.bare (by rw [hbefore]; exact List.mem_singleton.2 rfl)
      · rw [hbefore, List.mem_singleton] at hb
        rw [hb] at hphase
        exact absurd hphase (hended accepted)
    signalled := fun q hq hne => hsignal (hm.signalled q hq hne)
    raised := fun htrue => by
      rcases hraised htrue with ⟨hbefore, hsame⟩ | hfailed
      · rw [hsame]
        exact hm.raised hbefore
      · exact Or.inr hfailed
    sockets := by
      have hheld : o.held = [] := by rw [Outline.held, hstarted]
      rw [hsockets, hloops, hheld, List.flatMap_singleton, List.nil_append] }

/-- An accept loop that stops listening releases its socket. -/
theorem stop_listening (hm : Managed sockets h o) {k : AcceptorId} {a : Acceptor} (hk : h.broker.acceptors[k]? = some a)
    (hphase : a.phase = .accepting) (outcome : Except BrokerError Unit) :
    (h.stopListening k a outcome).loops = [{ a.bare with phase := .draining outcome }] ∧
      (h.stopListening k a outcome).network.listeners = sockets := by
  obtain ⟨hstarted, rfl, hloops, -⟩ := hm.of_acceptor hk
  have hheld : o.held = [] := by rw [Outline.held, hstarted]
  have hbare : a.bare.held = [a.listener] := by
    rw [Acceptor.held, show a.bare.phase = .accepting from hphase]
    rfl
  constructor
  · change (h.setAcceptor 0 { a with phase := .draining outcome }).loops = _
    rw [Host.loops_setAcceptor, hloops]
    rfl
  · have hsockets := hm.sockets
    rw [hheld, hloops, List.flatMap_singleton, hbare] at hsockets
    change h.network.listeners.erase a.listener = sockets
    rw [hsockets]
    exact List.erase_cons_head a.listener sockets

theorem die (hm : Managed sockets h o) {k : AcceptorId} {cause : Errno} (hdies : h.failListening k cause = some h') :
    Managed sockets h' o := by
  obtain ⟨a, hk, hphase, rfl⟩ := Host.of_failListening hdies
  obtain ⟨hloops, hsockets⟩ := hm.stop_listening hk hphase (.error (.server (.accept cause)))
  exact hm.looped hk hloops rfl rfl (fun _ heq => by rw [hphase] at heq; cases heq) rfl rfl (fun _ => rfl)
    (fun _ => Or.inr nofun) hsockets

theorem advance (hm : Managed sockets h o) {k : AcceptorId} (hadvances : h.advanceAcceptor k = some h') : Managed sockets h' o := by
  cases Host.advances_of_advanceAcceptor hadvances with
  | @heeds a hk hphase =>
    obtain ⟨-, -, -, hagrees⟩ := hm.of_acceptor hk
    obtain ⟨hloops, hsockets⟩ := hm.stop_listening hk hphase (.ok ())
    have hfine : h.broker.failure = none := by rwa [hphase] at hagrees
    refine hm.looped hk hloops rfl ?_ (fun _ heq => by rw [hphase] at heq; cases heq) rfl rfl id
      (fun htrue => Or.inl ⟨htrue, rfl⟩) hsockets
    change Except.ok () = h.broker.failure.elim _ _
    rw [hfine]
    rfl
  | @ends a outcome hk hphase =>
    obtain ⟨hstarted, rfl, hloops, hagrees⟩ := hm.of_acceptor hk
    have hafter : (h.setAcceptor 0 { a with phase := .ended outcome }).loops = [{ a.bare with phase := .ended outcome }] := by
      rw [Host.loops_setAcceptor, hloops]
      rfl
    have hheld : o.held = [] := by rw [Outline.held, hstarted]
    have hbare : a.bare.held = [] := by rw [Acceptor.held, show a.bare.phase = .draining outcome from hphase]
    have hsockets := hm.sockets
    rw [hheld, hloops, List.flatMap_singleton, hbare] at hsockets
    rw [hphase] at hagrees
    exact hm.looped hk hafter rfl hagrees (fun _ heq => by rw [hphase] at heq; cases heq) rfl rfl id
      (fun htrue => Or.inl ⟨htrue, rfl⟩) hsockets

end Managed

/-! ## Steps of calls -/

namespace Network

variable {host : String} {port : UInt16} {n n' : Network}

theorem listeners_of_listen {listener : Listener} (h : n.listen host port = (.ok listener, n')) :
    n'.listeners = listener :: n.listeners := by
  unfold listen at h
  split at h
  · cases h
  · split at h
    · cases h
    · split at h
      · cases h
        rfl
      · split at h
        · cases h
        · cases h
          rfl

theorem eq_of_listen_error {fault : NetworkFault} (h : n.listen host port = (.error fault, n')) : n' = n := by
  unfold listen at h
  split at h
  · cases h
    rfl
  · split at h
    · cases h
      rfl
    · split at h
      · cases h
      · split at h
        · cases h
          rfl
        · cases h

end Network

namespace Host

variable {files : (op : FileOp) → Disk → op.Reply → Disk → Prop} {h h' : Host} {id : AcceptorId} {op : LifecycleOp} {reply : op.Reply}

/-- Whether all sessions of accept loops that ended are over. -/
def Drained (h : Host) : Prop :=
  ∀ a ∈ h.broker.acceptors, ∀ outcome, a.phase = .ended outcome → ∀ s ∈ a.sessions, s.isOver = true

theorem perform_of_answer (h1 : h.answer op = some (reply, h')) :
    h.ready op = true ∧ h.perform op = (reply, h') := by
  rw [answer] at h1
  split at h1
  · rename_i hready
    exact ⟨hready, Option.some.inj h1⟩
  · cases h1

theorem advanceAcceptor_of_ended {a : Acceptor} {outcome : Except BrokerError Unit} (ha : h.broker.acceptors[id]? = some a)
    (hphase : a.phase = .ended outcome) : h.advanceAcceptor id = none := by
  rw [advanceAcceptor, ha]
  dsimp only [Option.bind_eq_bind, Option.bind_some]
  rw [hphase]

/-- An accept loop that ended with all its sessions stays as it is. -/
theorem finishAcceptor_of_ended (hdrained : h.Drained) {a : Acceptor} {outcome : Except BrokerError Unit}
    (ha : h.broker.acceptors[id]? = some a) (hphase : a.phase = .ended outcome) : h.finishAcceptor id = h := by
  have hsessions : endSessions a.sessions = a.sessions := by
    refine (List.map_congr_left fun s hs => ?_).trans (List.map_id _)
    rw [if_pos (hdrained a (List.mem_of_getElem? ha) outcome hphase s hs), id_eq]
  have hset : h.setAcceptor id { a with sessions := endSessions a.sessions } = h := by
    obtain ⟨hlt, heq⟩ := List.getElem?_eq_some_iff.1 ha
    rw [hsessions, setAcceptor]
    change { h with broker := { h.broker with acceptors := h.broker.acceptors.set id a } } = h
    rw [← heq, List.set_getElem_self]
  rw [finishAcceptor]
  dsimp only
  rw [advanceAcceptor_of_ended ha hphase, Option.getD_none, ha]
  dsimp only
  rw [hset, ite_self, advanceAcceptor_of_ended ha hphase, Option.getD_none]

/-- Waiting for an accept loop is over when that is, and changes nothing. -/
theorem of_answer_awaitAcceptor (hdrained : h.Drained) {accepted : Except BrokerError Unit}
    (h1 : h.answer (.awaitAcceptor id) = some (accepted, h')) : h' = h ∧ ∃ a ∈ h.loops, a.phase = .ended accepted := by
  obtain ⟨hready, hperform⟩ := perform_of_answer h1
  obtain ⟨outcome, houtcome⟩ : ∃ outcome, h.acceptorOutcome? id = some outcome := Option.isSome_iff_exists.1 hready
  have hended : ∃ a, h.broker.acceptors[id]? = some a ∧ a.phase = .ended outcome := by
    rw [acceptorOutcome?] at houtcome
    split at houtcome
    · rename_i ha
      exact ⟨_, ha, congrArg _ (Option.some.inj houtcome)⟩
    · cases houtcome
  obtain ⟨a, ha, hphase⟩ := hended
  rw [perform, finishAcceptor_of_ended hdrained ha hphase, houtcome] at hperform
  obtain ⟨rfl, rfl⟩ := Prod.mk.inj hperform
  exact ⟨rfl, a.bare, List.mem_map_of_mem (List.mem_of_getElem? ha), hphase⟩

/-- What comes of a step of a call. -/
inductive Makes (files : (op : FileOp) → Disk → op.Reply → Disk → Prop) (h : Host) : (op : LifecycleOp) → op.Reply → Host → Prop where
  | passed {origin target : BrokerState} : h.broker.state = origin →
      Makes files h (.pass origin target) none { h with broker := { h.broker with state := target } }
  | refused {origin target : BrokerState} : Makes files h (.pass origin target) (some h.broker.state) h
  | givenUp : Makes files h .giveUp () { h with broker := { h.broker with state := .stopped } }
  | stored {made : Except Errno Unit} {disk : Disk} :
      files (.makeDirectories h.broker.config.storage.directory) h.store.disk made disk →
      Makes files h .makeStorage made { h with store := ⟨h.store.shared, disk⟩ }
  | unbound (fault : NetworkFault) : Makes files h .listen (.error fault) h
  | bound {listener : Listener} {network : Network} : network.listeners = listener :: h.network.listeners →
      Makes files h .listen (.ok listener) { h with network }
  | began (listener : Listener) : Makes files h (.beginAccepting listener) () (h.perform (.beginAccepting listener)).2
  | raised : Makes files h .raiseSignal () h.raiseSignal
  | took : Makes files h .takeAcceptor h.broker.current { h with broker := { h.broker with current := none } }
  | awaited {id : AcceptorId} {accepted : Except BrokerError Unit} : (∃ a ∈ h.loops, a.phase = .ended accepted) →
      Makes files h (.awaitAcceptor id) accepted h

theorem makes_listen : Makes files h .listen (h.perform .listen).1 (h.perform .listen).2 := by
  rw [perform]
  rcases hlisten : h.network.listen h.broker.config.server.bindAddress h.broker.config.server.port with ⟨listening, network⟩
  cases listening with
  | ok listener => exact .bound (Network.listeners_of_listen hlisten)
  | error fault =>
    obtain rfl := Network.eq_of_listen_error hlisten
    exact .unbound fault

/-- Each step does what it is for, and the queues are not closed in one. -/
theorem Answers.makes (hans : h.Answers files op reply h') (hdrained : h.Drained) : h.Makes files op reply h' := by
  cases hans with
  | storage hmade => exact .stored hmade
  | unbound fault => exact .unbound fault
  | performed hmake hclose hans =>
    obtain ⟨-, hperform⟩ := perform_of_answer hans
    cases op with
    | makeStorage => exact absurd rfl hmake
    | closeQueues => exact absurd rfl hclose
    | awaitAcceptor id =>
      obtain ⟨rfl, hended⟩ := of_answer_awaitAcceptor hdrained hans
      exact .awaited hended
    | pass origin target =>
      rw [perform] at hperform
      split at hperform
      · rename_i hstate
        obtain ⟨rfl, rfl⟩ := Prod.mk.inj hperform
        exact .passed hstate
      · obtain ⟨rfl, rfl⟩ := Prod.mk.inj hperform
        exact .refused
    | listen =>
      have hlisten : Makes files h .listen (h.perform .listen).1 (h.perform .listen).2 := makes_listen
      rwa [hperform] at hlisten
    | beginAccepting listener =>
      obtain ⟨rfl, rfl⟩ := Prod.mk.inj hperform
      exact .began listener
    | giveUp =>
      obtain ⟨rfl, rfl⟩ := Prod.mk.inj hperform
      exact .givenUp
    | raiseSignal =>
      obtain ⟨rfl, rfl⟩ := Prod.mk.inj hperform
      exact .raised
    | takeAcceptor =>
      obtain ⟨rfl, rfl⟩ := Prod.mk.inj hperform
      exact .took

end Host

namespace Managed

variable {files : (op : FileOp) → Disk → op.Reply → Disk → Prop} {sockets : List Listener} {h h' : Host} {o : Outline} {n : Nat}
  {call : LifecycleCall} {point : Point} {op : LifecycleOp} {reply : op.Reply}

theorem admits_starting {p p' : StartPoint} (hstarter : o.starter = some (n, p)) : o.Admits n (.starting p') := by
  intro m r hr
  rw [hstarter] at hr
  exact (congrArg Prod.fst (Option.some.inj hr)).symm

theorem admits_stopping {q q' : StopPoint} (hstopper : o.stopper = some (n, q)) : o.Admits n (.stopping q') := by
  intro m r hr
  rw [hstopper] at hr
  exact (congrArg Prod.fst (Option.some.inj hr)).symm

/-- While the broker is being started, its sockets are those that it does not hold and perhaps the one that it does. -/
theorem sockets_of_starter {p : StartPoint} (hm : Managed sockets h o) (hstarter : o.starter = some (n, p)) (hp : p ≠ .started) :
    h.network.listeners = o.held ++ sockets := by
  have hidle := hm.idle (by rw [started_of_starter hstarter]; exact fun heq => hp (Option.some.inj heq))
  have hsockets := hm.sockets
  rwa [hidle.1, List.flatMap_nil, List.append_nil] at hsockets

/-- The broker is started no further while it listens or fails to. -/
theorem state_restarted {p p' : StartPoint} (hm : Managed sockets h o) (hstarter : o.starter = some (n, p)) (hp : p ≠ .failed)
    (hp' : p' ≠ .failed) : h.broker.state = (o.moved n (.starting p')).state := by
  refine hm.state.trans ?_
  obtain ⟨starter, stopper⟩ := o
  obtain rfl : starter = some (n, p) := hstarter
  cases stopper <;> cases p <;> cases p' <;> first | rfl | exact absurd rfl hp | exact absurd rfl hp'

theorem make (hm : Managed sockets h o) (hstarter : o.starter = some (n, .binding)) {made : Except Errno Unit}
    (hmakes : h.Makes files .makeStorage made h') :
    ∃ point', Point.Moves (.starting .binding) .makeStorage made point' ∧ o.Admits n point' ∧ Managed sockets h' (o.moved n point') := by
  have hheld : o.held = [] := by rw [Outline.held, started_of_starter hstarter]
  have hsockets := hm.sockets_of_starter hstarter nofun
  rw [hheld] at hsockets
  have hstate (p' : StartPoint) (hp' : p' ≠ .failed) := hm.state_restarted hstarter nofun hp'
  cases hmakes with
  | stored =>
    cases made with
    | ok _ =>
      exact ⟨_, .made, admits_starting hstarter,
        hm.restarted hstarter nofun nofun rfl rfl rfl rfl (hstate _ nofun) hsockets⟩
    | error cause =>
      exact ⟨_, .unmade, admits_starting hstarter,
        hm.restarted hstarter nofun nofun rfl rfl rfl rfl (hstate _ nofun) hsockets⟩

theorem listen (hm : Managed sockets h o) (hstarter : o.starter = some (n, .binding)) {listening : Except NetworkFault Listener}
    (hmakes : h.Makes files .listen listening h') :
    ∃ point', Point.Moves (.starting .binding) .listen listening point' ∧ o.Admits n point' ∧ Managed sockets h' (o.moved n point') := by
  have hheld : o.held = [] := by rw [Outline.held, started_of_starter hstarter]
  have hsockets := hm.sockets_of_starter hstarter nofun
  rw [hheld] at hsockets
  have hstate (p' : StartPoint) (hp' : p' ≠ .failed) := hm.state_restarted hstarter nofun hp'
  cases hmakes with
  | unbound fault =>
    exact ⟨_, .unbound, admits_starting hstarter, hm.restarted hstarter nofun nofun rfl rfl rfl rfl (hstate _ nofun) hsockets⟩
  | bound hlisteners =>
    refine ⟨_, .listens, admits_starting hstarter, hm.restarted hstarter nofun nofun rfl rfl rfl rfl (hstate _ nofun) ?_⟩
    exact hlisteners.trans (congrArg _ hsockets)

/-- A broker that could not be started is given up. -/
theorem giveUp (hm : Managed sockets h o) (hstarter : o.starter = some (n, .unbound)) :
    Managed sockets { h with broker := { h.broker with state := .stopped } } (o.moved n (.starting .failed)) := by
  have hheld : o.held = [] := by rw [Outline.held, started_of_starter hstarter]
  have hsockets := hm.sockets_of_starter hstarter nofun
  rw [hheld] at hsockets
  exact hm.restarted hstarter nofun nofun rfl rfl rfl rfl rfl hsockets

/-- Whatever step a call makes, it comes to a point to which no other call got, and the broker is what it should be then. -/
theorem step (hm : Managed sockets h o) (hdrained : h.Drained) (hplace : o.Places n point) (hasks : point.Asks call op)
    (hans : h.Answers files op reply h') :
    ∃ point', point.Moves op reply point' ∧ o.Admits n point' ∧ Managed sockets h' (o.moved n point') := by
  have hmakes := hans.makes hdrained
  cases hasks with
  | make => exact hm.make hplace hmakes
  | listen => exact hm.listen hplace hmakes
  | start =>
    cases hmakes with
    | passed hstate => exact ⟨_, .start, hm.pass_start hstate⟩
    | refused => exact ⟨_, .refused, hplace, hm⟩
  | stop =>
    cases hmakes with
    | passed hstate => exact ⟨_, .stop, hm.pass_stop hstate⟩
    | refused => exact ⟨_, .refused, hplace, hm⟩
  | accept =>
    cases hmakes with
    | began => exact ⟨_, .accepts, admits_starting hplace, hm.begin_accepting hplace⟩
  | giveUp =>
    cases hmakes with
    | givenUp => exact ⟨_, .givesUp, admits_starting hplace, hm.giveUp hplace⟩
  | raise =>
    cases hmakes with
    | raised => exact ⟨_, .raised, admits_stopping hplace, hm.raise hplace⟩
  | take =>
    cases hmakes with
    | took => exact hm.take hplace
  | await =>
    cases hmakes with
    | awaited hended => exact ⟨_, .awaited, admits_stopping hplace, hm.await hplace hended⟩
  | close => cases hmakes

end Managed

end QueueBroker

import QueueBroker.Proofs.Broker.Locks
import QueueBroker.Proofs.Broker.Orderly

/-!
# Orderly shutdown

By the time that the queues of a broker are closed its accept loop has ended and its socket is released, every session is over, and every
request was answered as if nobody but sessions had ever worked on the store (`Life.quiet_of_closing`). From then on sessions and accept
loops stay as they are (`Life.Frozen`), and the call that closes the queues waits for nobody.
-/

namespace QueueBroker

/-- An accept loop that has ended need not be waited for. -/
theorem Host.ready_awaitAcceptor {h : Host} {id : AcceptorId} {a : Acceptor} {outcome : Except BrokerError Unit}
    (ha : h.broker.acceptors[id]? = some a) (hphase : a.phase = .ended outcome) : h.ready (.awaitAcceptor id) = true := by
  obtain ⟨listener, heedsSignal, phase, sessions⟩ := a
  obtain rfl : phase = .ended outcome := hphase
  rw [Host.ready, Host.acceptorOutcome?, ha]
  rfl

namespace Life

variable {files : (op : FileOp) → Disk → op.Reply → Disk → Prop} {config : BrokerConfig} {host : Host} {now : Nat}
  {sockets : List Listener} {l l' : Life} {o o' : Outline} {n : Nat} {q : StopPoint} {id : Nat} {s : Session}

/-! ## After the accept loops have ended -/

/-- Whether all accept loops have ended. -/
def Silent (l : Life) : Prop :=
  ∀ a ∈ l.broker.acceptors, ∃ outcome, a.phase = .ended outcome

theorem Attended.over_of_silent (h : l.Attended) (hsilent : l.Silent) (hid : l.host.session? id = some s) :
    s.isOver = true ∧ l.phases id = .ended := by
  obtain ⟨a, ha, hs⟩ := Host.exists_acceptor hid
  obtain ⟨outcome, hphase⟩ := hsilent a (List.mem_of_getElem? ha)
  have hover := h.drained a (List.mem_of_getElem? ha) outcome hphase s (List.mem_of_getElem? hs)
  exact ⟨hover, (h.finished id s hid).1 hover⟩

theorem Attended.rests_of_silent (h : l.Attended) (hsilent : l.Silent) (id : Nat) : l.phases id = .ended ∨ l.phases id = .looking := by
  cases hid : l.host.session? id with
  | none => exact Or.inr (h.absent id hid)
  | some s => exact Or.inl (h.over_of_silent hsilent hid).2

theorem Attended.idle_of_silent (h : l.Attended) (hsilent : l.Silent) (id : Nat) : l.traffic.calls id = none := by
  refine h.calls_eq_none ?_
  rcases h.rests_of_silent hsilent id with heq | heq <;> rw [heq] <;> nofun

/-- All requests that were called were answered. -/
theorem Attended.exists_answered_of_silent (h : l.Attended) (hsilent : l.Silent) {place session : Nat} {request : Request}
    (hcalled : l.traffic.history[place]? = some (.called session request)) :
    ∃ response, .answered place response ∈ l.traffic.history := by
  rcases h.called place session request hcalled with ⟨left, hcall⟩ | hanswered
  · rw [h.idle_of_silent hsilent] at hcall
    cases hcall
  · exact hanswered

/-- No reply is owed any more. -/
theorem Attended.answered_iff_of_silent (h : l.Attended) (hsilent : l.Silent) (place : Nat) (response : Response) :
    .answered place response ∈ l.traffic.history ↔ ∃ frame?, .attempted place response frame? ∈ l.journal := by
  constructor
  · intro hanswered
    rcases h.answered place response hanswered with ⟨id, hreplying⟩ | hattempt
    · rcases h.rests_of_silent hsilent id with heq | heq <;> rw [hreplying] at heq <;> cases heq
    · exact hattempt
  · rintro ⟨frame?, hattempt⟩
    exact h.attempted place response frame? hattempt

/-- Whether sessions and accept loops are as they were: none of them does anything, and all that is told is told of calls. -/
structure Frozen (l l' : Life) : Prop where
  acceptors : l'.broker.acceptors = l.broker.acceptors
  phases : l'.phases = l.phases
  calls : l'.traffic.calls = l.traffic.calls
  history : l'.traffic.history = l.traffic.history
  told : ∀ e ∈ l'.journal, e ∈ l.journal ∨ (∃ n call, e = .called n call) ∨ ∃ n call result, e = .returned n call result

namespace Frozen

theorem refl (l : Life) : Frozen l l :=
  ⟨rfl, rfl, rfl, rfl, fun _ => Or.inl⟩

theorem trans {l₁ l₂ l₃ : Life} (h : Frozen l₁ l₂) (h' : Frozen l₂ l₃) : Frozen l₁ l₃ where
  acceptors := h'.acceptors.trans h.acceptors
  phases := h'.phases.trans h.phases
  calls := h'.calls.trans h.calls
  history := h'.history.trans h.history
  told e he := by
    rcases h'.told e he with he | hnew
    · exact h.told e he
    · exact Or.inr hnew

/-- A call goes on, and changes no accept loop. -/
theorem sets (l : Life) (h : Host) (hsame : h.broker.acceptors = l.broker.acceptors) (n : Nat) (working : Option Working)
    {events : List Event} (hevents : ∀ e ∈ events, (∃ n call, e = .called n call) ∨ ∃ n call result, e = .returned n call result) :
    Frozen l ((l.on h).sets n working events) :=
  ⟨hsame, rfl, rfl, rfl, fun e he => (List.mem_append.1 he).imp_right (hevents e)⟩

/-- Once the accept loops of a broker that was started have ended, neither they nor sessions do anything. -/
theorem goes (hattended : l.Attended) (hconducted : Conducted sockets l o) (hstarted : o.started = some .started) (hsilent : l.Silent)
    (hgoes : Goes files l l') : Frozen l l' := by
  have hended {k : AcceptorId} {a : Acceptor} (hk : l.broker.acceptors[k]? = some a) : ∃ outcome, a.phase = .ended outcome :=
    hsilent a (List.mem_of_getElem? hk)
  have hphase {id : Nat} {s : Session} (hid : l.host.session? id = some s) : l.phases id = .ended :=
    (hattended.over_of_silent hsilent hid).2
  cases hgoes with
  | call call => exact sets l l.host rfl _ _ (by simp)
  | step hn hans =>
    obtain ⟨-, point, hplace, hasks, -⟩ := hconducted.leads _ _ hn
    cases hans.effect hattended.drained with
    | none hsame => exact sets l _ hsame _ _ (by simp)
    | begins =>
      cases hasks
      rw [show o.started = some (.listening _) from Managed.started_of_starter hplace] at hstarted
      cases hstarted
    | makes =>
      cases hasks
      rw [show o.started = some .binding from Managed.started_of_starter hplace] at hstarted
      cases hstarted
  | close => exact sets l l.host rfl _ _ (by simp)
  | closing => exact sets l _ rfl _ _ (by simp)
  | closed => exact sets l l.host rfl _ _ (by simp)
  | finish => exact sets l l.host rfl _ _ (by simp)
  | accept _ haccepts =>
    obtain ⟨a, hk, haccepts, -⟩ := Host.of_acceptConnection haccepts
    obtain ⟨outcome, heq⟩ := hended hk
    rw [heq] at haccepts
    cases haccepts
  | die cause hdies =>
    obtain ⟨a, hk, haccepts, -⟩ := Host.of_failListening hdies
    obtain ⟨outcome, heq⟩ := hended hk
    rw [heq] at haccepts
    cases haccepts
  | advance hadvances =>
    cases Host.advances_of_advanceAcceptor hadvances with
    | heeds hk hworks | ends hk hworks =>
      obtain ⟨outcome, heq⟩ := hended hk
      rw [heq] at hworks
      cases hworks
  | client hid hopen =>
    rw [(hattended.over_of_silent hsilent hid).1] at hopen
    cases hopen
  | pass => exact ⟨rfl, rfl, rfl, rfl, fun _ => Or.inl⟩
  | await hid hlooking =>
    rw [hphase hid] at hlooking
    cases hlooking
  | wake hid hfree =>
    rw [hphase hid] at hfree
    rcases hfree with ⟨heq, -⟩ | heq <;> cases heq
  | work hcall | apply hcall =>
    rw [hattended.idle_of_silent hsilent] at hcall
    cases hcall
  | reply hid hreplying =>
    rw [hphase hid] at hreplying
    cases hreplying

end Frozen

/-! ## While the queues are closed -/

/-- What is known of a life in which a call stops the broker and the accept loops have ended. -/
structure Retiring (files : (op : FileOp) → Disk → op.Reply → Disk → Prop) (host : Host) (n : Nat) (l : Life) (o : Outline) : Prop where
  orderly : Orderly files host l o
  first : StartedFirst l.journal
  stopper : ∃ q, o.stopper = some (n, q)
  silent : l.Silent

namespace Retiring

theorem started (h : Retiring files host n l o) : o.started = some .started := by
  obtain ⟨q, hq⟩ := h.stopper
  exact h.orderly.conducted.started_of_stopper h.first hq

theorem called (h : Retiring files host n l o) : .called n .stop ∈ l.journal := by
  obtain ⟨q, hq⟩ := h.stopper
  exact h.orderly.conducted.stopper n q hq

theorem frozen (h : Retiring files host n l o) (hgoes : Goes files l l') : Frozen l l' :=
  Frozen.goes h.orderly.attended h.orderly.conducted h.started h.silent hgoes

theorem goes (h : Retiring files host n l o) (hgoes : Goes files l l') : ∃ o', Retiring files host n l' o' := by
  obtain ⟨o', horderly, hbefore⟩ := h.orderly.goes h.first hgoes
  obtain ⟨q, hq⟩ := h.stopper
  refine ⟨o', horderly, h.first.of_called h.called hgoes.journal, hbefore.stopper n q hq, ?_⟩
  rw [Silent, (h.frozen hgoes).acceptors]
  exact h.silent

theorem later (h : Retiring files host n l o) (hlater : Later files l l') : Frozen l l' ∧ ∃ o', Retiring files host n l' o' := by
  induction hlater with
  | refl => exact ⟨.refl l, o, h⟩
  | tail _ hgoes ih =>
    obtain ⟨hfrozen, o', hretiring⟩ := ih
    exact ⟨hfrozen.trans (hretiring.frozen hgoes), hretiring.goes hgoes⟩

/-- There is one accept loop, which has ended. -/
theorem exists_acceptor (h : Retiring files host n l o) : ∃ a outcome, l.broker.acceptors = [a] ∧ a.phase = .ended outcome := by
  obtain ⟨b, hloops, -⟩ := h.orderly.conducted.managed.running h.started
  obtain ⟨a, hacceptors, -⟩ := List.map_eq_singleton_iff.1 hloops
  obtain ⟨outcome, hphase⟩ := h.silent a (by rw [show l.broker.acceptors = [a] from hacceptors]; exact List.mem_singleton.2 rfl)
  exact ⟨a, outcome, hacceptors, hphase⟩

/-- The socket of the accept loop is released. -/
theorem released (h : Retiring files host n l o) : l.network.listeners = host.network.listeners := by
  obtain ⟨a, outcome, hacceptors, hphase⟩ := h.exists_acceptor
  have hheld : o.held = [] := by rw [Outline.held, h.started]
  have hbare : a.bare.held = [] := by rw [Acceptor.held, show a.bare.phase = .ended outcome from hphase]
  have hsockets := h.orderly.conducted.managed.sockets
  rwa [hheld, Host.loops, show l.host.broker.acceptors = [a] from hacceptors, List.map_singleton, List.flatMap_singleton,
    hbare] at hsockets

/-- The call that stops the broker returns what its accept loop died of, if it did. -/
theorem result_of_returned (h : Retiring files host n l o) {result : Except BrokerError Unit}
    (hreturned : .returned n .stop result ∈ l.journal) {a : Acceptor} (ha : a ∈ l.broker.acceptors) {e : BrokerError}
    (hdied : a.phase = .ended (.error e)) : result = .error e := by
  have hsame {accepted : Except BrokerError Unit} (hsettled : o.Settled accepted) : accepted = .error e := by
    obtain ⟨b, hacceptors, hphase, -⟩ := h.orderly.ended_of_settled h.started hsettled
    rw [hacceptors, List.mem_singleton] at ha
    rw [← ha, hdied] at hphase
    exact (AcceptPhase.ended.inj hphase).symm
  obtain ⟨-, -, point, hplace, hcomes⟩ := h.orderly.conducted.returned n .stop result hreturned
  cases hcomes with
  | refused =>
    obtain ⟨q, hq⟩ := h.stopper
    exact absurd hq (hplace.2 q)
  | spoiled => exact hsame (.stopped (Managed.stopped_of_stopper hplace))
  | stopped => cases hsame (.stopped (Managed.stopped_of_stopper hplace))

end Retiring

/-! ### Nobody to wait for -/

/-- The queue that a call holds, or none. -/
def Holds (held : Option QueueId) : Option Working → Prop
  | none | some ⟨_, .steps _⟩ => held = none
  | some ⟨_, .closing p _⟩ => Registry.Locking False held p none

/-- Whether no queue is locked but the one that a call holds. -/
def Unlocked (n : Nat) (l : Life) : Prop :=
  ∃ held : Option QueueId, l.traffic.store.shared.busy = held.toList ∧ Holds held (l.calls n)

namespace Unlocked

theorem quiet (h : Unlocked n l) (hcalls : l'.calls n = l.calls n)
    (hbusy : l'.traffic.store.shared.busy = l.traffic.store.shared.busy) : Unlocked n l' := by
  obtain ⟨held, heq, hholds⟩ := h
  exact ⟨held, hbusy.trans heq, hcalls ▸ hholds⟩

/-- A call goes on. -/
theorem sets (h : Unlocked n l) {m : Nat} (host : Host) {working : Option Working}
    (hshared : host.store.shared.busy = l.traffic.store.shared.busy)
    (hkeeps : ∀ held, Holds held (l.calls m) → Holds held working) (events : List Event) :
    Unlocked n ((l.on host).sets m working events) := by
  obtain ⟨held, heq, hholds⟩ := h
  refine ⟨held, hshared.trans heq, ?_⟩
  rw [calls_sets]
  split
  · rename_i hm
    exact hkeeps held (hm ▸ hholds)
  · exact hholds

/-- Only the call that stops the broker locks queues. -/
theorem goes (h : Unlocked n l) (hretiring : Retiring files host n l o) (hgoes : Goes files l l') : Unlocked n l' := by
  have hattended := hretiring.orderly.attended
  have hconducted := hretiring.orderly.conducted
  have hsession (id : Nat) (t : Session) : (l.host.setSession id t).store.shared.busy = l.traffic.store.shared.busy := by
    rw [Host.store_setSession]
    rfl
  cases hgoes with
  | @call m call hnew =>
    refine h.quiet ?_ rfl
    rw [calls_sets, if_neg]
    rintro rfl
    exact hnew .stop hretiring.called
  | step hn hans =>
    refine h.sets _ ?_ (by rw [hn]; exact fun _ => id) []
    cases hans.effect hattended.drained with
    | none _ hstore | begins _ hstore | makes _ _ hstore => rw [hstore]; rfl
  | close hn => exact h.sets l.host rfl (by rw [hn]; rintro held rfl; exact Registry.locking_closeAll) []
  | @closing m call op p next reply store hn hready hans =>
    obtain ⟨-, point, hplace, -, accepted, rfl, -⟩ := hconducted.leads m _ hn
    obtain ⟨q, hq⟩ := hretiring.stopper
    obtain ⟨rfl, -⟩ := Prod.mk.inj (Option.some.inj (hq.symm.trans hplace))
    obtain ⟨held, hbusy, hholds⟩ := h
    rw [hn] at hholds
    obtain ⟨hop, hnext⟩ := hholds
    refine ⟨op.leaves held, ?_, ?_⟩
    · change store.shared.busy = (op.leaves held).toList
      rw [Store.busy_of_answers hans]
      exact (Shared.ready_of_fits hbusy hop).2
    · rw [calls_sets, if_pos rfl]
      exact hnext reply _ rfl
  | closed hn => exact h.sets l.host rfl (by rw [hn]; exact fun _ => id) []
  | finish hn => exact h.sets l.host rfl (by rw [hn]; exact fun _ => id) _
  | accept _ haccepts =>
    obtain ⟨a, -, -, rfl⟩ := Host.of_acceptConnection haccepts
    exact h.quiet rfl rfl
  | die cause hdies =>
    obtain ⟨a, -, -, rfl⟩ := Host.of_failListening hdies
    exact h.quiet rfl rfl
  | advance hadvances => cases Host.advances_of_advanceAcceptor hadvances <;> exact h.quiet rfl rfl
  | client | await | reply => exact h.quiet rfl (hsession _ _)
  | @wake _ _ _ _ turn => cases turn <;> exact h.quiet rfl (hsession _ _)
  | work hcall =>
    rw [hattended.idle_of_silent hretiring.silent] at hcall
    cases hcall
  | _ => exact h.quiet rfl rfl

end Unlocked

/-! ### Stopping to its end -/

namespace Retiring

theorem unlocked_later (h : Retiring files host n l o) (hunlocked : Unlocked n l) (hlater : Later files l l') :
    ∃ o', Retiring files host n l' o' ∧ Unlocked n l' := by
  induction hlater with
  | refl => exact ⟨o, h, hunlocked⟩
  | tail _ hgoes ih =>
    obtain ⟨o₁, hretiring, hunlocked⟩ := ih
    obtain ⟨o₂, hretiring'⟩ := hretiring.goes hgoes
    exact ⟨o₂, hretiring', hunlocked.goes hretiring hgoes⟩

/-- Whoever closes the queues can close them all. -/
theorem closes (htotal : ∀ op disk, ∃ reply disk', files op disk reply disk') (h : Retiring files host n l o) (hunlocked : Unlocked n l)
    {call : LifecycleCall} {p : RegistryProgram (Except BrokerError Unit)}
    {next : Except BrokerError Unit → LifecycleProgram (Except BrokerError Unit)} (hn : l.calls n = some ⟨call, .closing p next⟩) :
    ∃ l' o' result, Later files l l' ∧ Retiring files host n l' o' ∧ Unlocked n l' ∧ l'.calls n = some ⟨call, .steps (next result)⟩ := by
  induction p generalizing l o with
  | done result =>
    have hgoes : Goes files l _ := .closed hn
    obtain ⟨o', hretiring⟩ := h.goes hgoes
    exact ⟨_, o', result, .single hgoes, hretiring, hunlocked.goes h hgoes, by rw [calls_sets, if_pos rfl]⟩
  | ask op p ih =>
    obtain ⟨held, hbusy, hholds⟩ := id hunlocked
    rw [hn] at hholds
    obtain ⟨reply, store, hans⟩ := Store.exists_answers htotal op l.traffic.store
    have hgoes : Goes files l _ := .closing hn (Shared.ready_of_fits hbusy hholds.1).1 hans
    obtain ⟨o', hretiring⟩ := h.goes hgoes
    obtain ⟨l', o'', result, hlater, hrest⟩ := ih reply hretiring (hunlocked.goes h hgoes) (by rw [calls_sets, if_pos rfl])
    exact ⟨l', o'', result, .head hgoes hlater, hrest⟩

/-- The call that stops the broker can go on until it returns. -/
theorem returns_of_steps (htotal : ∀ op disk, ∃ reply disk', files op disk reply disk') (h : Retiring files host n l o)
    (hunlocked : Unlocked n l) {p : LifecycleProgram (Except BrokerError Unit)} (hn : l.calls n = some ⟨.stop, .steps p⟩) :
    ∃ l' result, Later files l l' ∧ .returned n .stop result ∈ l'.journal := by
  induction p generalizing l o with
  | done result => exact ⟨_, result, .single (.finish hn), List.mem_append_right _ (List.mem_singleton.2 rfl)⟩
  | ask op next ih =>
    have hstep {reply : op.Reply} {host' : Host} (hans : l.host.Answers files op reply host') :
        ∃ l' result, Later files l l' ∧ .returned n .stop result ∈ l'.journal := by
      have hgoes : Goes files l _ := .step hn hans
      obtain ⟨o', hretiring⟩ := h.goes hgoes
      obtain ⟨l', result, hlater, hreturned⟩ := ih reply hretiring (hunlocked.goes h hgoes) (by rw [calls_sets, if_pos rfl])
      exact ⟨l', result, .head hgoes hlater, hreturned⟩
    obtain ⟨-, point, hplace, hasks, -⟩ := h.orderly.conducted.leads n _ hn
    cases hasks with
    | stop =>
      obtain ⟨q, hq⟩ := h.stopper
      exact absurd hq (hplace.2 q)
    | raise => exact hstep (.performed nofun nofun rfl)
    | take => exact hstep (.performed nofun nofun rfl)
    | @await id =>
      obtain ⟨rfl, -⟩ := h.orderly.conducted.managed.awaiting id (Managed.stopped_of_stopper hplace)
      obtain ⟨a, outcome, hacceptors, hphase⟩ := h.exists_acceptor
      have hready : l.host.ready (.awaitAcceptor 0) = true :=
        Host.ready_awaitAcceptor (show l.broker.acceptors[0]? = some a by rw [hacceptors]; rfl) hphase
      exact hstep (.performed nofun nofun (if_pos hready))
    | close =>
      have hgoes : Goes files l _ := .close hn
      obtain ⟨o₁, hretiring₁⟩ := h.goes hgoes
      obtain ⟨l₂, o₂, closed, hlater₂, hretiring₂, hunlocked₂, hn₂⟩ :=
        hretiring₁.closes htotal (hunlocked.goes h hgoes) (by rw [calls_sets, if_pos rfl])
      obtain ⟨l', result, hlater, hreturned⟩ := ih closed hretiring₂ hunlocked₂ hn₂
      exact ⟨l', result, .head hgoes (hlater₂.trans hlater), hreturned⟩

/-- The call that stops the broker has returned or can. -/
theorem returns (htotal : ∀ op disk, ∃ reply disk', files op disk reply disk') (h : Retiring files host n l o) (hunlocked : Unlocked n l) :
    ∃ l' result, Later files l l' ∧ .returned n .stop result ∈ l'.journal := by
  rcases h.orderly.accountable n .stop h.called with ⟨left, hn⟩ | ⟨result, hreturned⟩
  · cases left with
    | steps p => exact h.returns_of_steps htotal hunlocked hn
    | closing p next =>
      obtain ⟨l₁, o₁, closed, hlater₁, hretiring₁, hunlocked₁, hn₁⟩ := h.closes htotal hunlocked hn
      obtain ⟨l', result, hlater, hreturned⟩ := hretiring₁.returns_of_steps htotal hunlocked₁ hn₁
      exact ⟨l', result, hlater₁.trans hlater, hreturned⟩
  · exact ⟨l, result, .refl, hreturned⟩

end Retiring

/-! ## When the queues are closed -/

/-- What is true of a broker when a call is about to close its queues. -/
structure Quiet (files : (op : FileOp) → Disk → op.Reply → Disk → Prop) (host : Host) (n : Nat) (l : Life) : Prop where
  /-- Its accept loop has ended, if its socket failed then with that failure, -/
  ended : ∃ a accepted, l.broker.acceptors = [a] ∧ a.phase = .ended accepted ∧
    accepted = l.broker.failure.elim (.ok ()) fun fault => .error (.server fault)
  /-- and released its socket. -/
  released : l.network.listeners = host.network.listeners
  /-- Every session is over, and there is one for every connection that was taken. -/
  finished : ∀ id s, l.host.session? id = some s → s.isOver = true ∧ l.phases id = .ended
  accepted : ∀ id, .accepted id ∈ l.journal → l.host.session? id ≠ none
  /-- Requests were answered as sessions alone answer them, -/
  alone : ∃ disk, DirectoriesMade files host.store.disk disk ∧ Traffic.Alone files ⟨host.store.shared, disk⟩ l.traffic
  /-- all that were called, and it was attempted to reply to each what it was answered. -/
  idle : ∀ id, l.traffic.calls id = none
  answered : ∀ place session request, l.traffic.history[place]? = some (.called session request) →
    ∃ response, .answered place response ∈ l.traffic.history
  attempted : ∀ place response, .answered place response ∈ l.traffic.history ↔ ∃ frame?, .attempted place response frame? ∈ l.journal
  /-- So it stays while the queues are closed and after, and the call returns the failure of the socket, if that failed; -/
  later : ∀ l', Later files l l' → Frozen l l' ∧
    ∀ result, .returned n .stop result ∈ l'.journal → ∀ fault, l.broker.failure = some fault → result = .error (.server fault)
  /-- it waits for nobody. -/
  returns : (∀ op disk, ∃ reply disk', files op disk reply disk') → host.store.shared.busy = [] →
    ∀ l', Later files l l' → ∃ l'' result, Later files l' l'' ∧ .returned n .stop result ∈ l''.journal

/-- A broker that was started before it is stopped closes its queues only when nothing but closing them is left to do, whatever calls,
connections, requests and failures came before and at whatever moment. -/
theorem quiet_of_closing (hnew : Broker.new config = .ok host.broker) (h : Later files (start host now) l) (hfirst : StartedFirst l.journal)
    {call : LifecycleCall} {next : Except BrokerError Unit → LifecycleProgram (Except BrokerError Unit)}
    (hcloses : l.calls n = some ⟨call, .steps (.ask .closeQueues next)⟩) : Quiet files host n l := by
  obtain ⟨o, horderly, -⟩ := (orderly_start hnew now : Orderly files host _ _).later h hfirst
  have hattended := horderly.attended
  obtain ⟨-, point, hplace, hasks, -⟩ := horderly.conducted.leads n _ hcloses
  cases hasks with
  | @close settled =>
    have hstopper : o.stopper = some (n, .settled settled) := hplace
    have hstopped := Managed.stopped_of_stopper hstopper
    have hstarted := horderly.conducted.started_of_stopper hfirst hstopper
    obtain ⟨a, hacceptors, hphase, hsettled⟩ := horderly.ended_of_settled hstarted (.settled hstopped)
    have hsilent : l.Silent := by
      rw [Silent, hacceptors]
      intro b hb
      rw [List.mem_singleton.1 hb]
      exact ⟨settled, hphase⟩
    have hretiring : Retiring files host n l o := ⟨horderly, hfirst, ⟨_, hstopper⟩, hsilent⟩
    have hidle := hattended.idle_of_silent hsilent
    obtain ⟨disk, hmade, halone, -⟩ := horderly.solitary (by rintro (heq | heq) <;> rw [hstopped] at heq <;> cases heq)
    exact {
      ended := ⟨a, settled, hacceptors, hphase, hsettled⟩
      released := hretiring.released
      finished := fun id s hid => hattended.over_of_silent hsilent hid
      accepted := hattended.accepted
      alone := ⟨disk, hmade, halone⟩
      idle := hidle
      answered := fun place session request hcalled => hattended.exists_answered_of_silent hsilent hcalled
      attempted := hattended.answered_iff_of_silent hsilent
      later := fun l' hlater => by
        obtain ⟨hfrozen, o', hretiring'⟩ := hretiring.later hlater
        refine ⟨hfrozen, fun result hreturned fault hfault => hretiring'.result_of_returned hreturned (a := a) ?_ ?_⟩
        · rw [hfrozen.acceptors, hacceptors]
          exact List.mem_singleton.2 rfl
        · rw [hphase, hsettled, hfault]
          rfl
      returns := fun htotal hfree l' hlater => by
        have hunlocked : Unlocked n l := ⟨none, halone.busy_eq_nil hfree hidle, by rw [hcloses]; rfl⟩
        obtain ⟨o', hretiring', hunlocked'⟩ := hretiring.unlocked_later hunlocked hlater
        exact hretiring'.returns htotal hunlocked' }

/-- A broker that only its own machine gets to. -/
def localBroker : Broker where
  config := { server := { bindAddress := "localhost" }, storage := { directory := "data" } }
  state := .created
  address := none
  signal := false
  acceptors := []
  current := none
  failure := none

/-- A machine on which nothing else runs. -/
def localHost : Host :=
  ⟨localBroker, .quiet none, .begin "data" true (.empty "home")⟩

/-- A broker that takes a connection after all were told to end, before its accept loop heeds it. -/
theorem quiet_of_closing_signalled : ∃ l, Quiet FileOp.Performs localHost 1 l ∧
    l.journal = [.called 0 .start, .returned 0 .start (.ok ()), .accepted (Nat.pair 0 0), .called 1 .stop, .accepted (Nat.pair 0 1)] := by
  -- The broker is started,
  have h₀ : Later FileOp.Performs (start localHost 0) _ := .single (.call (n := 0) .start (fun _ => List.not_mem_nil))
  have h₁ := h₀.tail (.step (n := 0) rfl (.performed (by rintro ⟨⟩) (by rintro ⟨⟩) rfl))
  have h₂ := h₁.tail (.step (n := 0) rfl (.storage rfl))
  have h₃ := h₂.tail (.step (n := 0) rfl (.performed (by rintro ⟨⟩) (by rintro ⟨⟩) rfl))
  have h₄ := h₃.tail (.step (n := 0) rfl (.performed (by rintro ⟨⟩) (by rintro ⟨⟩) rfl))
  have h₅ := h₄.tail (.finish (n := 0) rfl)
  -- takes a connection, whose session waits for requests,
  have h₆ := h₅.tail (.accept (k := 0) rfl rfl)
  have h₇ := h₆.tail (.await (rfl : Host.session? _ (Nat.pair 0 0) = _) rfl rfl)
  -- is stopped, but takes another before its accept loop heeds the signal,
  have h₈ := h₇.tail (.call (n := 1) .stop (fun other => by simp [sets, tells, on, enters, start]))
  have h₉ := h₈.tail (.step (n := 1) rfl (.performed (by rintro ⟨⟩) (by rintro ⟨⟩) rfl))
  have h₁₀ := h₉.tail (.step (n := 1) rfl (.performed (by rintro ⟨⟩) (by rintro ⟨⟩) rfl))
  have h₁₁ := h₁₀.tail (.accept (k := 0) rfl rfl)
  have h₁₂ := h₁₁.tail (.advance (k := 0) rfl)
  -- and waits for both sessions.
  have h₁₃ := h₁₂.tail (.wake (rfl : Host.session? _ (Nat.pair 0 0) = _) (Or.inr rfl) (fun _ : true = true => rfl) rfl)
  have h₁₄ := h₁₃.tail (.wake (rfl : Host.session? _ (Nat.pair 0 1) = _) (Or.inl ⟨rfl, rfl⟩) (fun _ : true = true => rfl) rfl)
  have h₁₅ := h₁₄.tail (.advance (k := 0) rfl)
  have h₁₆ := h₁₅.tail (.step (n := 1) rfl (.performed (by rintro ⟨⟩) (by rintro ⟨⟩) rfl))
  have h₁₇ := h₁₆.tail (.step (n := 1) rfl (.performed (by rintro ⟨⟩) (by rintro ⟨⟩) rfl))
  refine ⟨_, quiet_of_closing (n := 1) (rfl : Broker.new localBroker.config = _) h₁₇ ?_ rfl, rfl⟩
  rintro (_ | ⟨e₀, _ | ⟨e₁, before⟩⟩) after n heq
  · cases heq
  · cases heq
  · obtain ⟨-, heq⟩ := List.cons.inj heq
    obtain ⟨rfl, -⟩ := List.cons.inj heq
    exact ⟨0, List.mem_cons_of_mem _ (List.mem_cons_self ..)⟩

end Life

end QueueBroker

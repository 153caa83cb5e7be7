import QueueBroker.Proofs.Broker.Conduct

/-!
# Brokers that are started before they are stopped

`Life.Orderly` is known of every life in which a call that starts the broker has returned before one that stops it is made. Its accept
loop began before the signal and waits for it (`Life.Goes.heedsSignal`), and until the queues are closed nobody but sessions works on the
store (`Life.Solitary`).
-/

namespace QueueBroker

namespace Host

variable {files : (op : FileOp) → Disk → op.Reply → Disk → Prop} {h h' : Host} {op : LifecycleOp} {reply : op.Reply}

theorem store_setSession (h : Host) (id : Nat) (s : Session) : (h.setSession id s).store = h.store := by
  unfold setSession
  split <;> rfl

/-- What a step of a call makes of accept loops and of the store. -/
inductive Answers.Effect (files : (op : FileOp) → Disk → op.Reply → Disk → Prop) (h h' : Host) : LifecycleOp → Prop where
  | none {op : LifecycleOp} : h'.broker.acceptors = h.broker.acceptors → h'.store = h.store → Effect files h h' op
  | begins {listener : Listener} :
      h'.broker.acceptors = h.broker.acceptors ++ [⟨listener, !h.broker.signal, .accepting, []⟩] → h'.store = h.store →
      Effect files h h' (.beginAccepting listener)
  | makes {path : String} {made : Except Errno Unit} {disk : Disk} : files (.makeDirectories path) h.store.disk made disk →
      h'.broker.acceptors = h.broker.acceptors → h'.store = ⟨h.store.shared, disk⟩ → Effect files h h' .makeStorage

theorem Answers.effect (hans : h.Answers files op reply h') (hd : h.Drained) : Answers.Effect files h h' op := by
  cases hans.makes hd with
  | stored hmakes => exact .makes hmakes rfl rfl
  | began => exact .begins rfl rfl
  | _ => exact .none rfl rfl

end Host

namespace Life

variable {files : (op : FileOp) → Disk → op.Reply → Disk → Prop} {config : BrokerConfig} {host : Host} {now : Nat}
  {sockets : List Listener} {l l' : Life} {o o' : Outline} {n : Nat} {q : StopPoint} {journal journal' : List Event}

/-! ## What becomes of accept loops -/

/-- What an accept loop may be after one step of a life. -/
inductive Loops (l : Life) : Acceptor → Prop where
  | same {a : Acceptor} : a ∈ l.host.loops → Loops l a
  | begins {n : Nat} {call : LifecycleCall} {listener : Listener} {next : Unit → LifecycleProgram (Except BrokerError Unit)} :
      l.calls n = some ⟨call, .steps (.ask (.beginAccepting listener) next)⟩ → Loops l ⟨listener, !l.broker.signal, .accepting, []⟩
  | heeds {a : Acceptor} : a ∈ l.host.loops → a.phase = .accepting → a.heedsSignal = true →
      Loops l { a with phase := .draining (.ok ()) }
  | dies {a : Acceptor} (e : BrokerError) : a ∈ l.host.loops → a.phase = .accepting → Loops l { a with phase := .draining (.error e) }
  | ends {a : Acceptor} {outcome : Except BrokerError Unit} : a ∈ l.host.loops → a.phase = .draining outcome →
      Loops l { a with phase := .ended outcome }

theorem Goes.loops (hgoes : Goes files l l') (hattended : l.Attended) : ∀ a ∈ l'.host.loops, l.Loops a := by
  have hold {k : AcceptorId} {a : Acceptor} (hk : l.broker.acceptors[k]? = some a) : a.bare ∈ l.host.loops :=
    List.mem_map_of_mem (List.mem_of_getElem? hk)
  have hset {k : AcceptorId} {a' : Acceptor} (ha' : l.Loops a'.bare) : ∀ b ∈ (l.host.setAcceptor k a').loops, l.Loops b := by
    intro b hb
    rw [Host.loops_setAcceptor] at hb
    rcases List.mem_or_eq_of_mem_set hb with hb | rfl
    · exact .same hb
    · exact ha'
  have hsession (id : Nat) (s : Session) : ∀ a ∈ (l.host.setSession id s).loops, l.Loops a := by
    rw [Host.loops_setSession]
    exact fun _ => .same
  cases hgoes with
  | step hn hans =>
    cases hans.effect hattended.drained with
    | none hsame => exact fun a ha => .same (by rwa [Host.loops, ← hsame])
    | makes _ hsame => exact fun a ha => .same (by rwa [Host.loops, ← hsame])
    | begins hnew =>
      intro a ha
      rw [host_sets, host_on, Host.loops, hnew, List.map_append] at ha
      rcases List.mem_append.1 ha with ha | ha
      · exact .same ha
      · rw [List.map_singleton, List.mem_singleton] at ha
        exact ha ▸ .begins hn
  | accept _ haccepts =>
    obtain ⟨a, hk, -, rfl⟩ := Host.of_acceptConnection haccepts
    have hsame : l.Loops a.bare := .same (hold hk)
    exact hset hsame
  | die cause hdies =>
    obtain ⟨a, hk, hphase, rfl⟩ := Host.of_failListening hdies
    exact hset (.dies _ (hold hk) hphase)
  | advance hadvances =>
    cases Host.advances_of_advanceAcceptor hadvances with
    | heeds hk hphase hheeds => exact hset (.heeds (hold hk) hphase hheeds)
    | ends hk hphase => exact hset (.ends (hold hk) hphase)
  | client => exact hsession _ _
  | await => exact hsession _ _
  | @wake _ _ _ _ turn => cases turn <;> exact hsession _ _
  | reply => exact hsession _ _
  | _ => exact fun _ ha => .same ha

/-! ## Started before stopped -/

/-- Whether a call that starts the broker has returned before any that stops it is made. -/
def StartedFirst (journal : List Event) : Prop :=
  ∀ before after n, journal = before ++ .called n .stop :: after → ∃ m, .returned m .start (.ok ()) ∈ before

theorem StartedFirst.of_prefix (h : StartedFirst journal') (hgrows : journal <+: journal') : StartedFirst journal := by
  obtain ⟨rest, rfl⟩ := hgrows
  intro before after n heq
  exact h before (after ++ rest) n (by rw [heq, List.append_assoc, List.cons_append])

/-- Once the broker was started and stopped, whatever follows comes after it was started. -/
theorem StartedFirst.of_called (h : StartedFirst journal) (hcalled : .called n .stop ∈ journal) (hgrows : journal <+: journal') :
    StartedFirst journal' := by
  obtain ⟨rest, rfl⟩ := hgrows
  obtain ⟨first, last, hsplit⟩ := List.append_of_mem hcalled
  obtain ⟨m, hm⟩ := h first last n hsplit
  intro before after other heq
  rcases List.append_eq_append_iff.1 heq with ⟨between, rfl, -⟩ | ⟨within, rfl, hwithin⟩
  · exact ⟨m, List.mem_append_left _ (hsplit ▸ List.mem_append_left _ hm)⟩
  · cases within with
    | nil =>
      rw [List.append_nil] at hsplit
      exact ⟨m, hsplit ▸ List.mem_append_left _ hm⟩
    | cons e within =>
      obtain ⟨rfl, -⟩ := List.cons.inj hwithin
      exact h before within other rfl

/-- A broker that is being stopped was started. -/
theorem Conducted.started_of_stopper (h : Conducted sockets l o) (hfirst : StartedFirst l.journal) (hstopper : o.stopper = some (n, q)) :
    o.started = some .started := by
  obtain ⟨before, after, heq⟩ := List.append_of_mem (h.stopper n q hstopper)
  obtain ⟨m, hm⟩ := hfirst before after n heq
  obtain ⟨-, -, point, hplace, hcomes⟩ := h.returned m .start (.ok ()) (by rw [heq]; exact List.mem_append_left _ hm)
  cases hcomes
  exact Managed.started_of_starter hplace

/-- An accept loop that begins does so before the signal: neither was the broker stopped yet, nor did its socket fail. -/
theorem Conducted.signal_eq_false (h : Conducted sockets l o) (hfirst : StartedFirst l.journal) {call : LifecycleCall} {listener : Listener}
    {next : Unit → LifecycleProgram (Except BrokerError Unit)} (hn : l.calls n = some ⟨call, .steps (.ask (.beginAccepting listener) next)⟩) :
    l.broker.signal = false := by
  obtain ⟨-, point, hplace, hasks, -⟩ := h.leads n _ hn
  cases hasks
  have hstarted : o.started = some (.listening listener) := Managed.started_of_starter hplace
  refine Bool.eq_false_iff.2 fun hsignal => ?_
  rcases h.managed.raised hsignal with hstopped | hfailed
  · obtain ⟨⟨m, q⟩, hstopper⟩ := Option.ne_none_iff_exists'.1 hstopped
    rw [h.started_of_stopper hfirst hstopper] at hstarted
    cases hstarted
  · exact hfailed (h.managed.idle (by rw [hstarted]; nofun)).2.2

/-- Accept loops of a broker that is started before it is stopped wait for the signal. -/
theorem Goes.heedsSignal (hgoes : Goes files l l') (hattended : l.Attended) (hconducted : Conducted sockets l o)
    (hfirst : StartedFirst l.journal) (hall : ∀ a ∈ l.host.loops, a.heedsSignal = true) :
    ∀ a ∈ l'.host.loops, a.heedsSignal = true := by
  intro a ha
  cases hgoes.loops hattended a ha with
  | same ha => exact hall a ha
  | begins hn => rw [hconducted.signal_eq_false hfirst hn, Bool.not_false]
  | @heeds b hb => exact hall b hb
  | @dies b e hb => exact hall b hb
  | @ends b outcome hb => exact hall b hb

/-! ## The store until the queues are closed -/

/-- What making directories, whether it succeeds or fails, may make of a disk. -/
abbrev DirectoriesMade (files : (op : FileOp) → Disk → op.Reply → Disk → Prop) : Disk → Disk → Prop :=
  Relation.ReflTransGen fun disk disk' => ∃ path made, files (.makeDirectories path) disk made disk'

/-- Whether nobody but sessions worked on the store of a broker since it was started. -/
def Solitary (files : (op : FileOp) → Disk → op.Reply → Disk → Prop) (s : Store) (l : Life) (o : Outline) : Prop :=
  ∃ disk, DirectoriesMade files s.disk disk ∧ Traffic.Alone files ⟨s.shared, disk⟩ l.traffic ∧
    (o.started ≠ some .started → l.traffic = .start ⟨s.shared, disk⟩)

namespace Solitary

variable {s : Store}

theorem quiet (h : Solitary files s l o) (hbefore : o.Before o') (hsame : l'.traffic = l.traffic) : Solitary files s l' o' := by
  obtain ⟨disk, hmade, halone, hstart⟩ := h
  refine ⟨disk, hmade, hsame ▸ halone, fun hne => hsame.trans (hstart fun hstarted => hne ?_)⟩
  obtain ⟨⟨m, p⟩, hstarter, rfl⟩ := Option.map_eq_some_iff.1 hstarted
  exact Managed.started_of_starter (hbefore.started m hstarter)

/-- Sessions work on the store of a broker that was started. -/
theorem works (h : Solitary files s l o) (hbefore : o.Before o') (hstarted : o.started = some .started)
    (hworks : ∀ disk, Traffic.Alone files ⟨s.shared, disk⟩ l.traffic → Traffic.Alone files ⟨s.shared, disk⟩ l'.traffic) :
    Solitary files s l' o' := by
  obtain ⟨disk, hmade, halone, -⟩ := h
  refine ⟨disk, hmade, hworks disk halone, fun hne => absurd ?_ hne⟩
  obtain ⟨⟨m, p⟩, hstarter, rfl⟩ := Option.map_eq_some_iff.1 hstarted
  exact Managed.started_of_starter (hbefore.started m hstarter)

/-- Only a broker that was started has requests to serve. -/
theorem started_of_calls (h : Solitary files s l o) {id : Nat} {call : QueueBroker.Call} (hcall : l.traffic.calls id = some call) :
    o.started = some .started := by
  obtain ⟨disk, -, -, hstart⟩ := h
  by_contra hne
  rw [hstart hne] at hcall
  cases hcall

/-- As long as the queues are not being closed, only the directory of the queues is made besides what sessions do. -/
theorem goes (h : Solitary files s l o) (hattended : l.Attended) (hconducted : Conducted sockets l o) (hgoes : Goes files l l')
    (hbefore : o.Before o') (hopen : ¬o.Closing) : Solitary files s l' o' := by
  have hstarted {id : Nat} {t : Session} (hid : l.host.session? id = some t) : o.started = some .started := by
    obtain ⟨a, hk, -⟩ := Host.exists_acceptor hid
    exact (hconducted.managed.of_acceptor hk).1
  have hsession (id : Nat) (t : Session) : { l.traffic with store := (l.host.setSession id t).store } = l.traffic := by
    rw [Host.store_setSession]
    rfl
  cases hgoes with
  | @step n call op next reply host hn hans =>
    cases hans.effect hattended.drained with
    | none _ hstore | begins _ hstore =>
      refine h.quiet hbefore ?_
      change { l.traffic with store := host.store } = l.traffic
      rw [hstore]
      rfl
    | @makes path made disk' hmakes _ hstore =>
      obtain ⟨disk, hmade, -, hstart⟩ := h
      obtain ⟨-, point, hplace, hasks, -⟩ := hconducted.leads n _ hn
      cases hasks
      have htraffic : l.traffic = .start ⟨s.shared, disk⟩ := by
        refine hstart ?_
        rw [show o.started = some .binding from Managed.started_of_starter hplace]
        nofun
      have hdisk : l.host.store = ⟨s.shared, disk⟩ := congrArg Traffic.store htraffic
      have hnew : ((l.on host).sets n (some ⟨.start, .steps (next reply)⟩) []).traffic = .start ⟨s.shared, disk'⟩ := by
        change { l.traffic with store := host.store } = _
        rw [hstore, hdisk, htraffic]
        rfl
      rw [hdisk] at hmakes
      exact ⟨disk', hmade.tail ⟨path, made, hmakes⟩, hnew ▸ .start, fun _ => hnew⟩
  | @closing n call op p next reply store hn =>
    obtain ⟨-, point, hplace, -, accepted, rfl, -⟩ := hconducted.leads n _ hn
    exact absurd (.closing (Managed.stopped_of_stopper hplace)) hopen
  | accept _ haccepts =>
    obtain ⟨a, -, -, rfl⟩ := Host.of_acceptConnection haccepts
    exact h.quiet hbefore rfl
  | die cause hdies =>
    obtain ⟨a, -, -, rfl⟩ := Host.of_failListening hdies
    exact h.quiet hbefore rfl
  | advance hadvances => cases Host.advances_of_advanceAcceptor hadvances <;> exact h.quiet hbefore rfl
  | client => exact h.quiet hbefore (hsession _ _)
  | await => exact h.quiet hbefore (hsession _ _)
  | @wake id _ _ _ turn hid hfree =>
    cases turn with
    | wait => exact h.quiet hbefore (hsession _ _)
    | finish => exact h.quiet hbefore (hsession _ _)
    | serve request =>
      refine h.works hbefore (hstarted hid) fun disk halone => ?_
      have hidle : l.traffic.calls id = none := by
        refine hattended.calls_eq_none ?_
        rcases hfree with ⟨heq, -⟩ | heq <;> rw [heq] <;> nofun
      change Traffic.Alone files _ (Traffic.called _ id request)
      rw [show (l.enters id _ .applying).traffic = l.traffic from hsession _ _]
      exact halone.called request hidle
  | work hcall hready hans => exact h.works hbefore (h.started_of_calls hcall) fun _ halone => halone.worked hcall hready hans
  | apply hcall => exact h.works hbefore (h.started_of_calls hcall) fun _ halone => halone.answered hcall
  | reply => exact h.quiet hbefore (hsession _ _)
  | _ => exact h.quiet hbefore rfl

end Solitary

/-! ## Before the queues are closed -/

/-- What is known of a life in which the broker is started before it is stopped. -/
structure Orderly (files : (op : FileOp) → Disk → op.Reply → Disk → Prop) (host : Host) (l : Life) (o : Outline) : Prop
    extends Kept host.network.listeners l o where
  heeds : ∀ a ∈ l.host.loops, a.heedsSignal = true
  solitary : ¬o.Closing → Solitary files host.store l o

theorem Orderly.goes (h : Orderly files host l o) (hfirst : StartedFirst l.journal) (hgoes : Goes files l l') :
    ∃ o', Orderly files host l' o' ∧ o.Before o' := by
  obtain ⟨o', hkept, hbefore⟩ := h.toKept.goes hgoes
  refine ⟨o', ⟨hkept, hgoes.heedsSignal h.attended h.conducted hfirst h.heeds, fun hopen => ?_⟩, hbefore⟩
  have hopen : ¬o.Closing := fun hclosing => hopen (hbefore.closing hclosing)
  exact (h.solitary hopen).goes h.attended h.conducted hgoes hbefore hopen

theorem Orderly.later (h : Orderly files host l o) (hlater : Later files l l') (hfirst : StartedFirst l'.journal) :
    ∃ o', Orderly files host l' o' ∧ o.Before o' := by
  induction hlater with
  | refl => exact ⟨o, h, .refl o⟩
  | tail _ hgoes ih =>
    have hfirst := hfirst.of_prefix hgoes.journal
    obtain ⟨o₁, horderly, hbefore⟩ := ih hfirst
    obtain ⟨o₂, horderly', hbefore'⟩ := horderly.goes hfirst hgoes
    exact ⟨o₂, horderly', hbefore.trans hbefore'⟩

theorem orderly_start (hnew : Broker.new config = .ok host.broker) (now : Nat) : Orderly files host (start host now) ⟨none, none⟩ where
  toKept := kept_start hnew now
  heeds a ha := by
    rw [((conducted_start hnew now).managed.idle nofun).1] at ha
    cases ha
  solitary _ := ⟨host.store.disk, .refl, .start, fun _ => rfl⟩

/-- The one accept loop of a broker that waits for it no more has ended, and with the failure of its socket, if that failed. -/
theorem Orderly.ended_of_settled (h : Orderly files host l o) (hstarted : o.started = some .started) {accepted : Except BrokerError Unit}
    (hsettled : o.Settled accepted) :
    ∃ a, l.broker.acceptors = [a] ∧ a.phase = .ended accepted ∧
      accepted = l.broker.failure.elim (.ok ()) fun fault => .error (.server fault) := by
  obtain ⟨b, hloops, hagrees⟩ := h.conducted.managed.running hstarted
  obtain ⟨a, hacceptors, rfl⟩ := List.map_eq_singleton_iff.1 hloops
  have hphase : a.phase = .ended accepted := by
    rcases h.conducted.managed.settled accepted hsettled with ⟨-, hdeaf⟩ | ⟨b, hb, hphase⟩
    · have hmem : a.bare ∈ l.host.loops := by
        rw [hloops]
        exact List.mem_singleton.2 rfl
      have hheeds := h.heeds a.bare hmem
      rw [hdeaf a.bare hmem] at hheeds
      cases hheeds
    · rw [hloops, List.mem_singleton] at hb
      rwa [hb] at hphase
  rw [show a.bare.phase = .ended accepted from hphase] at hagrees
  exact ⟨a, hacceptors, hphase, hagrees⟩

end Life

end QueueBroker

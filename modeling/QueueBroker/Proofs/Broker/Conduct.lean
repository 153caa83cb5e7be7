import QueueBroker.Proofs.Broker.Attendance

/-!
# Whole lives

`Life.Conducted` puts together what is known of a broker, of the calls that start and stop it and of what they returned, and
`Life.Conducted.goes` says that it stays known whatever happens next.
-/

namespace QueueBroker

namespace Point

variable {call : LifecycleCall} {point point' : Point} {op : LifecycleOp} {reply : op.Reply} {p : StartPoint} {q : StopPoint}

/-- Only a call that starts the broker gets to start it. -/
theorem Moves.eq_start (hmoves : point.Moves op reply (.starting p)) (hasks : point.Asks call op) : call = .start := by
  cases hasks <;> cases hmoves <;> rfl

/-- Only a call that stops the broker gets to stop it. -/
theorem Moves.eq_stop (hmoves : point.Moves op reply (.stopping q)) (hasks : point.Asks call op) : call = .stop := by
  cases hasks <;> cases hmoves <;> rfl

end Point

/-- Whether a broker was stopped so far that its queues are being closed, or were. -/
inductive Outline.Closing (o : Outline) : Prop where
  | closing {accepted : Except BrokerError Unit} : o.stopped = some (.closing accepted) → Closing o
  | stopped {accepted closed : Except BrokerError Unit} : o.stopped = some (.stopped accepted closed) → Closing o

/-- What is not undone by anything that happens. -/
structure Outline.Before (o o' : Outline) : Prop where
  started : ∀ n, o.starter = some (n, .started) → o'.starter = some (n, .started)
  stopper : ∀ n q, o.stopper = some (n, q) → ∃ q', o'.stopper = some (n, q')
  closing : o.Closing → o'.Closing

namespace Outline

variable {o : Outline} {n : Nat} {call : LifecycleCall} {point point' : Point} {op : LifecycleOp} {reply : op.Reply} {q : StopPoint}

theorem Before.refl (o : Outline) : o.Before o :=
  ⟨fun _ => id, fun _ q hq => ⟨q, hq⟩, id⟩

theorem Before.trans {o₁ o₂ o₃ : Outline} (h : o₁.Before o₂) (h' : o₂.Before o₃) : o₁.Before o₃ where
  started n hn := h'.started n (h.started n hn)
  stopper n q hq := by
    obtain ⟨q', hq'⟩ := h.stopper n q hq
    exact h'.stopper n q' hq'
  closing hclosing := h'.closing (h.closing hclosing)

/-- A call that gets on with stopping the broker. -/
theorem before_stopping (hadmits : o.Admits n (.stopping q)) (hclosing : o.Closing → (o.moved n (.stopping q)).Closing) :
    o.Before (o.moved n (.stopping q)) where
  started _ := id
  stopper m r hr := by
    obtain rfl := hadmits m r hr
    exact ⟨q, rfl⟩
  closing := hclosing

/-- A call that has something to ask has neither started the broker nor begun to close the queues. -/
theorem before_moved (hplace : o.Places n point) (hasks : point.Asks call op) (hmoves : point.Moves op reply point')
    (hadmits : o.Admits n point') : o.Before (o.moved n point') := by
  cases point' with
  | asking => exact .refl o
  | refused => exact .refl o
  | starting p' =>
    refine ⟨fun m hstarted => ?_, fun _ q hq => ⟨q, hq⟩, fun hclosing => ?_⟩
    · obtain rfl := hadmits m _ hstarted
      cases point with
      | asking => exact absurd hstarted (hplace.1 _)
      | refused => exact absurd hstarted (hplace.1 _)
      | starting p =>
        obtain rfl : p = .started := congrArg Prod.snd (Option.some.inj (hplace.symm.trans hstarted))
        cases hasks
      | stopping q => cases hmoves
    · cases hclosing with
      | closing heq => exact .closing heq
      | stopped heq => exact .stopped heq
  | stopping q' =>
    refine before_stopping hadmits fun hclosing => ?_
    have hstopped : ∃ m q, o.stopper = some (m, q) ∧ o.Closing := by
      cases hclosing with
      | closing heq =>
        obtain ⟨⟨m, q⟩, hm, -⟩ := Option.map_eq_some_iff.1 heq
        exact ⟨m, q, hm, .closing heq⟩
      | stopped heq =>
        obtain ⟨⟨m, q⟩, hm, -⟩ := Option.map_eq_some_iff.1 heq
        exact ⟨m, q, hm, .stopped heq⟩
    obtain ⟨m, q, hm, hclosing⟩ := hstopped
    obtain rfl := hadmits m q hm
    cases point with
    | asking => exact absurd hm (hplace.2 _)
    | refused => exact absurd hm (hplace.2 _)
    | starting p => cases hmoves
    | stopping r =>
      have hr : o.stopped = some r := by rw [Outline.stopped, show o.stopper = some (m, r) from hplace, Option.map_some]
      cases hasks <;> rcases hclosing with heq | heq <;> rw [hr] at heq <;> cases heq

end Outline

namespace Life

/-- Whether what is left of a call leads from a point to a result. -/
def Working.Leads (w : Working) (point : Point) : Prop :=
  match w.left with
  | .steps p => w.call.Leads p point w.call.Comes
  | .closing _ next => w.call = .stop ∧ ∃ accepted, point = .stopping (.closing accepted) ∧
      ∀ closed, w.call.Leads (next closed) (.stopping (.stopped accepted closed)) w.call.Comes

/-- What is known of a broker and of the calls that start and stop it. -/
structure Conducted (sockets : List Listener) (l : Life) (o : Outline) : Prop where
  managed : Managed sockets l.host o
  leads : ∀ n w, l.calls n = some w → .called n w.call ∈ l.journal ∧ ∃ point, o.Places n point ∧ w.Leads point
  returned : ∀ n call result, .returned n call result ∈ l.journal →
    l.calls n = none ∧ .called n call ∈ l.journal ∧ ∃ point, o.Places n point ∧ call.Comes result point
  starter : ∀ n p, o.starter = some (n, p) → .called n .start ∈ l.journal
  stopper : ∀ n q, o.stopper = some (n, q) → .called n .stop ∈ l.journal

namespace Conducted

variable {files : (op : FileOp) → Disk → op.Reply → Disk → Prop} {sockets : List Listener} {l l' : Life} {o : Outline} {n : Nat}
  {call : LifecycleCall}

/-- What is no business of calls leaves them as they are. -/
theorem quiet (h : Conducted sockets l o) (hmanaged : Managed sockets l'.host o) (hcalls : l'.calls = l.calls)
    (hcalled : ∀ n call, .called n call ∈ l.journal → .called n call ∈ l'.journal)
    (hreturned : ∀ n call result, .returned n call result ∈ l'.journal → .returned n call result ∈ l.journal) :
    Conducted sockets l' o where
  managed := hmanaged
  leads m w hm := by
    obtain ⟨hmem, hpoint⟩ := h.leads m w (hcalls ▸ hm)
    exact ⟨hcalled m w.call hmem, hpoint⟩
  returned m call result hmem := by
    obtain ⟨hnone, hmem, hpoint⟩ := h.returned m call result (hreturned m call result hmem)
    exact ⟨hcalls ▸ hnone, hcalled m call hmem, hpoint⟩
  starter m p hm := hcalled m _ (h.starter m p hm)
  stopper m q hm := hcalled m _ (h.stopper m q hm)

/-- A call goes on, and the broker is what it should be then. -/
theorem go (h : Conducted sockets l o) {left left' : Left} {point' : Point} {host : Host} (hn : l.calls n = some ⟨call, left⟩)
    (hadmits : o.Admits n point') (hmanaged : Managed sockets host (o.moved n point')) (hleads : Working.Leads ⟨call, left'⟩ point')
    (hstart : ∀ p, point' = .starting p → call = .start) (hstop : ∀ q, point' = .stopping q → call = .stop) :
    Conducted sockets ((l.on host).sets n (some ⟨call, left'⟩) []) (o.moved n point') where
  managed := hmanaged
  leads m w hm := by
    rw [calls_sets] at hm
    split at hm
    · rename_i heq
      obtain rfl := Option.some.inj hm
      rw [heq]
      exact ⟨List.mem_append_left _ (h.leads n _ hn).1, point', Outline.places_moved hadmits, hleads⟩
    · rename_i hne
      obtain ⟨hmem, point, hplace, hpoint⟩ := h.leads m w hm
      exact ⟨List.mem_append_left _ hmem, point, hplace.moved_of_ne hne hadmits, hpoint⟩
  returned m call result hmem := by
    obtain ⟨hnone, hmem, point, hplace, hcomes⟩ := h.returned m call result ((List.mem_append.1 hmem).resolve_right List.not_mem_nil)
    have hne : m ≠ n := by
      rintro rfl
      rw [hn] at hnone
      cases hnone
    refine ⟨?_, List.mem_append_left _ hmem, point, hplace.moved_of_ne hne hadmits, hcomes⟩
    rw [calls_sets, if_neg hne]
    exact hnone
  starter m p hm := by
    refine List.mem_append_left _ ?_
    cases point' with
    | starting p' =>
      obtain ⟨rfl, -⟩ := Prod.mk.inj (Option.some.inj hm)
      exact hstart p' rfl ▸ (h.leads n _ hn).1
    | _ => exact h.starter m p hm
  stopper m q hm := by
    refine List.mem_append_left _ ?_
    cases point' with
    | stopping q' =>
      obtain ⟨rfl, -⟩ := Prod.mk.inj (Option.some.inj hm)
      exact hstop q' rfl ▸ (h.leads n _ hn).1
    | _ => exact h.stopper m q hm

/-- A call begins. -/
theorem call_begins (h : Conducted sockets l o) (hnew : ∀ other, .called n other ∉ l.journal) (call : LifecycleCall) :
    Conducted sockets (l.sets n (some ⟨call, .steps (call.program l.broker.config)⟩) [.called n call]) o where
  managed := h.managed
  leads m w hm := by
    rw [calls_sets] at hm
    split at hm
    · rename_i heq
      obtain rfl := Option.some.inj hm
      rw [heq]
      refine ⟨List.mem_append_right _ (List.mem_singleton.2 rfl), .asking, ⟨fun p hp => ?_, fun q hq => ?_⟩, ?_⟩
      · exact hnew _ (h.starter n p hp)
      · exact hnew _ (h.stopper n q hq)
      · exact LifecycleCall.leads_program l.broker.config call
    · obtain ⟨hmem, hpoint⟩ := h.leads m w hm
      exact ⟨List.mem_append_left _ hmem, hpoint⟩
  returned m other result hmem := by
    rcases List.mem_append.1 hmem with hmem | hmem
    · obtain ⟨hnone, hcalled, hpoint⟩ := h.returned m other result hmem
      refine ⟨?_, List.mem_append_left _ hcalled, hpoint⟩
      rw [calls_sets, if_neg]
      · exact hnone
      · rintro rfl
        exact hnew other hcalled
    · cases List.mem_singleton.1 hmem
  starter m p hm := List.mem_append_left _ (h.starter m p hm)
  stopper m q hm := List.mem_append_left _ (h.stopper m q hm)

/-- A call returns. -/
theorem call_ends (h : Conducted sockets l o) {result : Except BrokerError Unit}
    (hn : l.calls n = some ⟨call, .steps (.done result)⟩) : Conducted sockets (l.sets n none [.returned n call result]) o where
  managed := h.managed
  leads m w hm := by
    rw [calls_sets] at hm
    split at hm
    · cases hm
    · obtain ⟨hmem, hpoint⟩ := h.leads m w hm
      exact ⟨List.mem_append_left _ hmem, hpoint⟩
  returned m other result' hmem := by
    rcases List.mem_append.1 hmem with hmem | hmem
    · obtain ⟨hnone, hmem, hpoint⟩ := h.returned m other result' hmem
      refine ⟨?_, List.mem_append_left _ hmem, hpoint⟩
      rw [calls_sets]
      split
      · rfl
      · exact hnone
    · obtain ⟨rfl, rfl, rfl⟩ := Event.returned.inj (List.mem_singleton.1 hmem)
      obtain ⟨hmem, point, hplace, hleads⟩ := h.leads _ _ hn
      refine ⟨?_, List.mem_append_left _ hmem, point, hplace, hleads⟩
      rw [calls_sets, if_pos rfl]
  starter m p hm := List.mem_append_left _ (h.starter m p hm)
  stopper m q hm := List.mem_append_left _ (h.stopper m q hm)

/-- Whatever step a call makes. -/
theorem step (h : Conducted sockets l o) (hdrained : l.host.Drained) {op : LifecycleOp}
    {next : op.Reply → LifecycleProgram (Except BrokerError Unit)} {reply : op.Reply} {host : Host}
    (hn : l.calls n = some ⟨call, .steps (.ask op next)⟩) (hans : l.host.Answers files op reply host) :
    ∃ o', Conducted sockets ((l.on host).sets n (some ⟨call, .steps (next reply)⟩) []) o' ∧ o.Before o' := by
  obtain ⟨-, point, hplace, hasks, hnext⟩ := h.leads n _ hn
  obtain ⟨point', hmoves, hadmits, hmanaged⟩ := h.managed.step hdrained hplace hasks hans
  refine ⟨_, h.go hn hadmits hmanaged (hnext reply point' hmoves) ?_ ?_, Outline.before_moved hplace hasks hmoves hadmits⟩
  · rintro p rfl
    exact hmoves.eq_start hasks
  · rintro q rfl
    exact hmoves.eq_stop hasks

/-- A call begins to close the queues. -/
theorem close (h : Conducted sockets l o) {next : Except BrokerError Unit → LifecycleProgram (Except BrokerError Unit)}
    (hn : l.calls n = some ⟨call, .steps (.ask .closeQueues next)⟩) :
    ∃ accepted, o.stopper = some (n, .settled accepted) ∧
      Conducted sockets (l.sets n (some ⟨call, .closing Registry.closeAll next⟩) []) (o.moved n (.stopping (.closing accepted))) := by
  obtain ⟨-, point, hplace, hasks, hnext⟩ := h.leads n _ hn
  cases hasks with
  | @close accepted =>
    have hstopper : o.stopper = some (n, .settled accepted) := hplace
    have hmanaged : Managed sockets l.host (o.moved n (.stopping (.closing accepted))) :=
      h.managed.close hstopper (.settled (Managed.stopped_of_stopper hstopper)) (Or.inl rfl) rfl rfl
    have hleads : Working.Leads ⟨.stop, .closing Registry.closeAll next⟩ (.stopping (.closing accepted)) :=
      ⟨rfl, accepted, rfl, fun closed => hnext closed _ .closed⟩
    exact ⟨accepted, hstopper, h.go hn (Managed.admits_stopping hstopper) hmanaged hleads nofun fun _ _ => rfl⟩

/-- A call has closed the queues. -/
theorem closed (h : Conducted sockets l o) {result : Except BrokerError Unit}
    {next : Except BrokerError Unit → LifecycleProgram (Except BrokerError Unit)}
    (hn : l.calls n = some ⟨call, .closing (.done result) next⟩) :
    ∃ accepted, o.stopper = some (n, .closing accepted) ∧
      Conducted sockets (l.sets n (some ⟨call, .steps (next result)⟩) []) (o.moved n (.stopping (.stopped accepted result))) := by
  obtain ⟨-, point, hplace, hstop, accepted, rfl, hnext⟩ := h.leads n _ hn
  have hstopper : o.stopper = some (n, .closing accepted) := hplace
  have hmanaged : Managed sockets l.host (o.moved n (.stopping (.stopped accepted result))) :=
    h.managed.close hstopper (.closing (Managed.stopped_of_stopper hstopper)) (Or.inr ⟨_, rfl⟩) rfl rfl
  have hleads : Working.Leads ⟨call, .steps (next result)⟩ (.stopping (.stopped accepted result)) := hnext result
  exact ⟨accepted, hstopper, h.go hn (Managed.admits_stopping hstopper) hmanaged hleads nofun fun _ _ => hstop⟩

/-- Whatever happens, what is known of the broker and its calls stays known. -/
theorem goes (h : Conducted sockets l o) (hattended : l.Attended) (hgoes : Goes files l l') :
    ∃ o', Conducted sockets l' o' ∧ o.Before o' := by
  cases hgoes with
  | call call hnew => exact ⟨o, h.call_begins hnew call, .refl o⟩
  | step hn hans => exact h.step hattended.drained hn hans
  | close hn =>
    obtain ⟨accepted, hstopper, hclosing⟩ := h.close hn
    exact ⟨_, hclosing, Outline.before_stopping (Managed.admits_stopping hstopper) fun _ => .closing rfl⟩
  | @closing n call op p next reply store hn =>
    obtain ⟨-, point, hplace, hstop, hleads⟩ := h.leads n _ hn
    obtain ⟨accepted, rfl, -⟩ := id hleads
    have hstopper : o.stopper = some (n, .closing accepted) := hplace
    have hmanaged : Managed sockets ⟨l.broker, l.network, store⟩ (o.moved n (.stopping (.closing accepted))) :=
      h.managed.close hstopper (.closing (Managed.stopped_of_stopper hstopper)) (Or.inl rfl) rfl rfl
    have hnext : Working.Leads ⟨call, .closing (p reply) next⟩ (.stopping (.closing accepted)) := ⟨hstop, hleads⟩
    exact ⟨_, h.go hn (Managed.admits_stopping hstopper) hmanaged hnext nofun fun _ _ => hstop,
      Outline.before_stopping (Managed.admits_stopping hstopper) fun _ => .closing rfl⟩
  | closed hn =>
    obtain ⟨accepted, hstopper, hclosed⟩ := h.closed hn
    exact ⟨_, hclosed, Outline.before_stopping (Managed.admits_stopping hstopper) fun _ => .stopped rfl⟩
  | finish hn => exact ⟨o, h.call_ends hn, .refl o⟩
  | accept hk haccepts =>
    obtain ⟨a, hk, -, rfl⟩ := Host.of_acceptConnection haccepts
    refine ⟨o, h.quiet ?_ rfl (fun _ _ hmem => List.mem_append_left _ hmem) (by simp [tells, on]), .refl o⟩
    refine h.managed.same ?_ rfl rfl
    exact Host.loops_setAcceptor_of_bare (h := l.host) hk rfl
  | die cause hdies => exact ⟨o, h.quiet (h.managed.die hdies) rfl (fun _ _ => id) fun _ _ _ => id, .refl o⟩
  | advance hadvances => exact ⟨o, h.quiet (h.managed.advance hadvances) rfl (fun _ _ => id) fun _ _ _ => id, .refl o⟩
  | client => exact ⟨o, h.quiet (h.managed.setSession _ _) rfl (fun _ _ => id) fun _ _ _ => id, .refl o⟩
  | pass => exact ⟨o, h.quiet h.managed rfl (fun _ _ => id) fun _ _ _ => id, .refl o⟩
  | await => exact ⟨o, h.quiet (h.managed.setSession _ _) rfl (fun _ _ => id) fun _ _ _ => id, .refl o⟩
  | @wake _ _ _ _ turn =>
    refine ⟨o, ?_, .refl o⟩
    cases turn <;> exact h.quiet (h.managed.setSession _ _) rfl (fun _ _ => id) fun _ _ _ => id
  | work => exact ⟨o, h.quiet (h.managed.same rfl rfl rfl) rfl (fun _ _ => id) fun _ _ _ => id, .refl o⟩
  | apply => exact ⟨o, h.quiet h.managed rfl (fun _ _ => id) fun _ _ _ => id, .refl o⟩
  | reply =>
    refine ⟨o, h.quiet (h.managed.setSession _ _) rfl (fun _ _ hmem => List.mem_append_left _ hmem) ?_, .refl o⟩
    simp [tells, enters, on]

end Conducted

/-! ### Calls that return -/

/-- Whether every call that was made is under way or has returned. -/
def Accountable (l : Life) : Prop :=
  ∀ n call, .called n call ∈ l.journal → (∃ left, l.calls n = some ⟨call, left⟩) ∨ ∃ result, .returned n call result ∈ l.journal

namespace Accountable

variable {files : (op : FileOp) → Disk → op.Reply → Disk → Prop} {l l' : Life} {n : Nat}

theorem quiet (h : l.Accountable) (hcalls : l'.calls = l.calls) (hjournal : l.journal <+: l'.journal)
    (hcalled : ∀ n call, .called n call ∈ l'.journal → .called n call ∈ l.journal) : l'.Accountable := by
  intro n call hmem
  rw [hcalls]
  refine (h n call (hcalled n call hmem)).imp_right ?_
  rintro ⟨result, hreturned⟩
  exact ⟨result, hjournal.subset hreturned⟩

/-- A call is made, goes on or returns. -/
theorem sets (h : l.Accountable) (host : Host) {working : Option Working} {events : List Event}
    (hbefore : ∀ call left, l.calls n = some ⟨call, left⟩ →
      (∃ left', working = some ⟨call, left'⟩) ∨ ∃ result, .returned n call result ∈ events)
    (hcalled : ∀ m call, .called m call ∈ events → m = n ∧ ∃ left, working = some ⟨call, left⟩) :
    ((l.on host).sets n working events).Accountable := by
  intro m call hmem
  rw [calls_sets]
  rcases List.mem_append.1 hmem with hmem | hmem
  · rcases h m call hmem with ⟨left, hleft⟩ | ⟨result, hreturned⟩
    · split
      · rename_i heq
        subst heq
        refine (hbefore call left hleft).imp_right ?_
        rintro ⟨result, hreturned⟩
        exact ⟨result, List.mem_append_right _ hreturned⟩
      · exact Or.inl ⟨left, hleft⟩
    · exact Or.inr ⟨result, List.mem_append_left _ hreturned⟩
  · obtain ⟨rfl, hleft⟩ := hcalled m call hmem
    rw [if_pos rfl]
    exact Or.inl hleft

/-- A call goes on. -/
theorem go (h : l.Accountable) (host : Host) {call : LifecycleCall} {left : Left} (hn : l.calls n = some ⟨call, left⟩) (left' : Left) :
    ((l.on host).sets n (some ⟨call, left'⟩) []).Accountable := by
  refine h.sets host (fun other left'' hother => ?_) fun _ _ hmem => by cases hmem
  rw [hn] at hother
  obtain ⟨rfl, -⟩ := Working.mk.inj (Option.some.inj hother)
  exact Or.inl ⟨left', rfl⟩

theorem goes (h : l.Accountable) (hconducted : ∀ n w, l.calls n = some w → .called n w.call ∈ l.journal) (hgoes : Goes files l l') :
    l'.Accountable := by
  cases hgoes with
  | @call n call hnew =>
    refine h.sets l.host (fun other left hother => absurd (hconducted _ _ hother) (hnew other)) fun m other hmem => ?_
    obtain ⟨rfl, rfl⟩ := Event.called.inj (List.mem_singleton.1 hmem)
    exact ⟨rfl, _, rfl⟩
  | step hn => exact h.go _ hn _
  | close hn => exact h.go l.host hn _
  | closing hn => exact h.go _ hn _
  | closed hn => exact h.go l.host hn _
  | @finish n call result hn =>
    refine h.sets l.host (fun other left hother => ?_) fun _ _ hmem => by cases List.mem_singleton.1 hmem
    rw [hn] at hother
    obtain ⟨rfl, -⟩ := Working.mk.inj (Option.some.inj hother)
    exact Or.inr ⟨result, List.mem_singleton.2 rfl⟩
  | accept => exact h.quiet rfl (List.prefix_append _ _) (by simp [tells, on])
  | reply => exact h.quiet rfl (List.prefix_append _ _) (by simp [tells, enters, on])
  | @wake _ _ _ _ turn => cases turn <;> exact h.quiet rfl List.prefix_rfl fun _ _ => id
  | _ => exact h.quiet rfl List.prefix_rfl fun _ _ => id

end Accountable

variable {files : (op : FileOp) → Disk → op.Reply → Disk → Prop} {config : BrokerConfig} {host : Host} {now : Nat} {l l' : Life}

/-- A broker that is new was neither started nor stopped. -/
theorem conducted_start (hnew : Broker.new config = .ok host.broker) (now : Nat) :
    Conducted host.network.listeners (start host now) ⟨none, none⟩ := by
  obtain ⟨broker, network, store⟩ := host
  rw [Broker.new] at hnew
  split at hnew
  · cases hnew
  · cases hnew
    exact {
      managed := {
        state := rfl
        order := fun _ => rfl
        idle := fun _ => ⟨rfl, rfl, rfl⟩
        running := fun hstarted => by cases hstarted
        current := fun hstarted => by cases hstarted
        awaiting := fun _ hstopped => by cases hstopped
        settled := fun accepted hsettled => absurd hsettled (Outline.Untaken.not_settled (.running rfl) accepted)
        signalled := fun _ hstopped => by cases hstopped
        raised := fun hsignal => by cases hsignal
        sockets := rfl }
      leads := fun _ _ hn => by cases hn
      returned := fun _ _ _ hmem => by cases hmem
      starter := fun _ _ hn => by cases hn
      stopper := fun _ _ hn => by cases hn }

/-- All that is known of every life of a broker. -/
structure Kept (sockets : List Listener) (l : Life) (o : Outline) : Prop where
  attended : l.Attended
  accountable : l.Accountable
  conducted : Conducted sockets l o

theorem Kept.goes {sockets : List Listener} {o : Outline} (h : Kept sockets l o) (hgoes : Goes files l l') :
    ∃ o', Kept sockets l' o' ∧ o.Before o' := by
  obtain ⟨o', hconducted, hbefore⟩ := h.conducted.goes h.attended hgoes
  have haccountable := h.accountable.goes (fun n w hn => (h.conducted.leads n w hn).1) hgoes
  exact ⟨o', ⟨h.attended.goes hgoes, haccountable, hconducted⟩, hbefore⟩

theorem kept_start (hnew : Broker.new config = .ok host.broker) (now : Nat) :
    Kept host.network.listeners (start host now) ⟨none, none⟩ where
  attended := attended_start (List.map_eq_nil_iff.1 ((conducted_start hnew now).managed.idle nofun).1) now
  accountable _ _ hcalled := by cases hcalled
  conducted := conducted_start hnew now

end Life

end QueueBroker

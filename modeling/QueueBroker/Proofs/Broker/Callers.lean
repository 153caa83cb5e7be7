import QueueBroker.Proofs.Broker.Life

/-!
# How far the calls that start and stop a broker have come

At most one call gets to start a broker and at most one to stop it; all others are refused. `Point` says how far a call has come,
`Point.Asks` which step it may make there and `Point.Moves` where an answer leads, and `LifecycleCall.leads_program` takes the
programs apart by them. An `Outline` names the two calls that were not refused.
-/

namespace QueueBroker

/-! ## Points -/

/-- How far the call has come that starts a broker. -/
inductive StartPoint where
  /-- It has to make the directory of the queues and to listen. -/
  | binding
  /-- It listens, and is to begin accepting. -/
  | listening (listener : Listener)
  | unbound
  | started
  | failed

/-- How far the call has come that stops a broker. -/
inductive StopPoint where
  | stopping
  /-- All were told to end. -/
  | raised
  | awaiting (id : AcceptorId)
  /-- There is no accept loop to wait for any more; the queues are to be closed. -/
  | settled (accepted : Except BrokerError Unit)
  | closing (accepted : Except BrokerError Unit)
  | stopped (accepted closed : Except BrokerError Unit)

/-- How far a call has come. -/
inductive Point where
  | asking
  | refused
  | starting (p : StartPoint)
  | stopping (p : StopPoint)

namespace Point

/-- The steps that a call may make. -/
inductive Asks : LifecycleCall → Point → LifecycleOp → Prop where
  | start : Asks .start .asking (.pass .created .started)
  | make : Asks .start (.starting .binding) .makeStorage
  | listen : Asks .start (.starting .binding) .listen
  | accept {listener : Listener} : Asks .start (.starting (.listening listener)) (.beginAccepting listener)
  | giveUp : Asks .start (.starting .unbound) .giveUp
  | stop : Asks .stop .asking (.pass .started .stopped)
  | raise : Asks .stop (.stopping .stopping) .raiseSignal
  | take : Asks .stop (.stopping .raised) .takeAcceptor
  | await {id : AcceptorId} : Asks .stop (.stopping (.awaiting id)) (.awaitAcceptor id)
  | close {accepted : Except BrokerError Unit} : Asks .stop (.stopping (.settled accepted)) .closeQueues

/-- Where a call comes by what a step is answered with. -/
inductive Moves : Point → (op : LifecycleOp) → op.Reply → Point → Prop where
  | start : Moves .asking (.pass .created .started) none (.starting .binding)
  | stop : Moves .asking (.pass .started .stopped) none (.stopping .stopping)
  | refused {origin target state : BrokerState} : Moves .asking (.pass origin target) (some state) .refused
  | made : Moves (.starting .binding) .makeStorage (.ok ()) (.starting .binding)
  | unmade {cause : Errno} : Moves (.starting .binding) .makeStorage (.error cause) (.starting .unbound)
  | listens {listener : Listener} : Moves (.starting .binding) .listen (.ok listener) (.starting (.listening listener))
  | unbound {fault : NetworkFault} : Moves (.starting .binding) .listen (.error fault) (.starting .unbound)
  | accepts {listener : Listener} : Moves (.starting (.listening listener)) (.beginAccepting listener) () (.starting .started)
  | givesUp : Moves (.starting .unbound) .giveUp () (.starting .failed)
  | raised : Moves (.stopping .stopping) .raiseSignal () (.stopping .raised)
  | took {id : AcceptorId} : Moves (.stopping .raised) .takeAcceptor (some id) (.stopping (.awaiting id))
  | none : Moves (.stopping .raised) .takeAcceptor none (.stopping (.settled (.ok ())))
  | awaited {id : AcceptorId} {accepted : Except BrokerError Unit} :
      Moves (.stopping (.awaiting id)) (.awaitAcceptor id) accepted (.stopping (.settled accepted))
  | closed {accepted closed : Except BrokerError Unit} :
      Moves (.stopping (.settled accepted)) .closeQueues closed (.stopping (.stopped accepted closed))

end Point

/-! ## Programs of calls -/

namespace LifecycleCall

/-- What a call returns by how far it has come. -/
inductive Comes : LifecycleCall → Except BrokerError Unit → Point → Prop where
  | refused {call : LifecycleCall} {fault : StateFault} : Comes call (.error (.state fault)) .refused
  | started : Comes .start (.ok ()) (.starting .started)
  | failed {e : BrokerError} : Comes .start (.error e) (.starting .failed)
  | spoiled {e : BrokerError} {closed : Except BrokerError Unit} : Comes .stop (.error e) (.stopping (.stopped (.error e) closed))
  | stopped {closed : Except BrokerError Unit} : Comes .stop closed (.stopping (.stopped (.ok ()) closed))

/-- A program makes only steps that a call may make, and ends with a result and at a point that satisfy `Q`. -/
abbrev Leads {α : Type} (call : LifecycleCall) (p : LifecycleProgram α) (point : Point) (Q : α → Point → Prop) : Prop :=
  p.Guarded (Point.Asks call) Point.Moves point Q

theorem leads_bind (config : BrokerConfig) :
    start.Leads (Broker.bind config) (.starting .binding) fun result point =>
      (∃ e, result = .error e ∧ point = .starting .unbound) ∨ ∃ listener, result = .ok listener ∧ point = .starting (.listening listener) := by
  refine Program.Guarded.bind (Program.Guarded.request .make fun made point hmoves => ?_)
  cases hmoves with
  | unmade => exact Program.Guarded.pure (Or.inl ⟨_, rfl, rfl⟩)
  | made =>
    refine Program.Guarded.bind (Program.Guarded.request .listen fun listening point hmoves => ?_)
    cases hmoves with
    | unbound => exact Program.Guarded.pure (Or.inl ⟨_, rfl, rfl⟩)
    | listens => exact Program.Guarded.pure (Or.inr ⟨_, rfl, rfl⟩)

theorem leads_start (config : BrokerConfig) : start.Leads (Broker.start config) .asking start.Comes := by
  refine Program.Guarded.bind (Program.Guarded.request .start fun passed point hmoves => ?_)
  cases hmoves with
  | refused => exact Program.Guarded.pure .refused
  | start =>
    refine Program.Guarded.bind ((leads_bind config).mono ?_)
    rintro result point (⟨e, rfl, rfl⟩ | ⟨listener, rfl, rfl⟩)
    · refine Program.Guarded.bind (Program.Guarded.request .giveUp fun _ point hmoves => ?_)
      cases hmoves
      exact Program.Guarded.pure .failed
    · refine Program.Guarded.bind (Program.Guarded.request .accept fun _ point hmoves => ?_)
      cases hmoves
      exact Program.Guarded.pure .started

/-- Closing the queues is the last thing that is done. -/
theorem leads_closeQueues (accepted : Except BrokerError Unit) :
    stop.Leads (Program.request LifecycleOp.closeQueues >>= fun closed =>
      match accepted with
      | .error e => pure (.error e)
      | .ok _ => pure closed) (.stopping (.settled accepted)) stop.Comes := by
  refine Program.Guarded.bind (Program.Guarded.request .close fun closed point hmoves => ?_)
  cases hmoves
  cases accepted with
  | error e => exact Program.Guarded.pure .spoiled
  | ok _ => exact Program.Guarded.pure .stopped

theorem leads_stop : stop.Leads Broker.stop .asking stop.Comes := by
  refine Program.Guarded.bind (Program.Guarded.request .stop fun passed point hmoves => ?_)
  cases hmoves with
  | refused => exact Program.Guarded.pure .refused
  | stop =>
    refine Program.Guarded.bind (Program.Guarded.request .raise fun _ point hmoves => ?_)
    cases hmoves
    refine Program.Guarded.bind (Program.Guarded.request .take fun taken point hmoves => ?_)
    cases hmoves with
    | none => exact Program.Guarded.bind (Program.Guarded.pure (leads_closeQueues (.ok ())))
    | took =>
      refine Program.Guarded.bind (Program.Guarded.request .await fun accepted point hmoves => ?_)
      cases hmoves
      exact leads_closeQueues accepted

/-- Every call keeps to its points, and returns what its last point says. -/
theorem leads_program (config : BrokerConfig) (call : LifecycleCall) : call.Leads (call.program config) .asking call.Comes := by
  cases call with
  | start => exact leads_start config
  | stop => exact leads_stop

end LifecycleCall

/-! ## Outlines -/

/-- The calls that got to start and to stop a broker, and how far they have come. -/
structure Outline where
  starter : Option (Nat × StartPoint)
  stopper : Option (Nat × StopPoint)

namespace Outline

/-- How far the broker was started, and how far it was stopped. -/
def started (o : Outline) : Option StartPoint :=
  o.starter.map Prod.snd

def stopped (o : Outline) : Option StopPoint :=
  o.stopper.map Prod.snd

/-- Whether a call is at a point. Of a call that is at none of those to which only one call gets it may be any of the others. -/
def Places (o : Outline) (n : Nat) : Point → Prop
  | .asking | .refused => (∀ p, o.starter ≠ some (n, p)) ∧ ∀ p, o.stopper ≠ some (n, p)
  | .starting p => o.starter = some (n, p)
  | .stopping p => o.stopper = some (n, p)

/-- A call comes to a point. -/
def moved (o : Outline) (n : Nat) : Point → Outline
  | .asking | .refused => o
  | .starting p => { o with starter := some (n, p) }
  | .stopping p => { o with stopper := some (n, p) }

/-- Whether a call may come to a point, since no other call got there. -/
def Admits (o : Outline) (n : Nat) : Point → Prop
  | .asking | .refused => (∀ p, o.starter ≠ some (n, p)) ∧ ∀ p, o.stopper ≠ some (n, p)
  | .starting _ => ∀ m p, o.starter = some (m, p) → m = n
  | .stopping _ => ∀ m p, o.stopper = some (m, p) → m = n

variable {o : Outline} {n m : Nat} {point point' : Point}

theorem places_moved (h : o.Admits n point) : (o.moved n point).Places n point := by
  cases point with
  | asking => exact h
  | refused => exact h
  | starting p => rfl
  | stopping p => rfl

/-- Where one call comes matters to no other. -/
theorem Places.moved_of_ne (h : o.Places m point) (hne : m ≠ n) (hadmits : o.Admits n point') : (o.moved n point').Places m point := by
  cases point' with
  | asking => exact h
  | refused => exact h
  | starting p' =>
    cases point with
    | starting p => exact absurd (hadmits m p h) hne
    | stopping p => exact h
    | _ => exact ⟨fun p heq => hne (congrArg Prod.fst (Option.some.inj heq)).symm, h.2⟩
  | stopping p' =>
    cases point with
    | starting p => exact h
    | stopping p => exact absurd (hadmits m p h) hne
    | _ => exact ⟨h.1, fun p heq => hne (congrArg Prod.fst (Option.some.inj heq)).symm⟩

end Outline

end QueueBroker

import QueueBroker.Proofs.Broker.Fifo

/-!
# How far a session has come with a request

Between the steps of a request other sessions work on the same registry. What a session still knows then, and what it owes to the
others, is its `Stage`. `Request.Asks` says which step may be made in which stage and `Request.Moves` what stage an answer leads to;
`Request.Leads` takes the program of a request apart by them.
-/

namespace QueueBroker

/-- How far a session has come with a request. -/
inductive Stage where
  | asking
  /-- It may open queues. -/
  | opening
  /-- It may open queues, and none was entered for the destination. -/
  | absent
  /-- It opened a queue for the destination, which it has to enter. -/
  | opened (id : QueueId)
  /-- It may open queues, and found or entered one for the destination. -/
  | entered (id : QueueId)
  | found (id : QueueId)
  /-- What it did is done, and all that is left is to say so. -/
  | answered (response : Response)

namespace Stage

/-- Whether a session may open queues and all others may not. -/
def Locked : Stage → Prop
  | opening | absent | opened _ | entered _ => True
  | asking | found _ | answered _ => False

/-- The answer to a request for which everything is done. -/
def response? : Stage → Option Response
  | answered response => some response
  | _ => none

end Stage

namespace Request

/-- The steps that a session may make for a request. -/
inductive Asks (r : Request) : Stage → RegistryOp → Prop where
  | look : Asks r .asking (.lookup r.destination)
  | stat : Destination.fault? r.destination = none → (∀ m, r ≠ .send m) → Asks r .asking (.hasLog r.destination)
  | lock : Destination.fault? r.destination = none → Asks r .asking .lockOpening
  | lookAgain : Asks r .opening (.lookup r.destination)
  | make : Asks r .absent .makeStorage
  | openQueue : Destination.fault? r.destination = none → Asks r .absent (.openQueue r.destination)
  | insert {id : QueueId} : Asks r (.opened id) (.insert r.destination id)
  | unlock {id : QueueId} : Asks r (.entered id) .unlockOpening
  | hold {id : QueueId} : Asks r (.found id) (.lockQueue id)
  | put {id : QueueId} {m : Message} : r = .send m → Asks r (.found id) (.enqueue id m)
  | check {id : QueueId} {name : String} : r = .check name → Asks r (.found id) (.isEmpty id)
  | take {id : QueueId} {name : String} : r = .receive name → Asks r (.found id) (.dequeue id)
  | release {id : QueueId} {response : Response} : Asks r (.answered response) (.unlockQueue id)

/-- Where a session comes by what a step is answered with. Without a queue the answer to the request is that of no messages. -/
inductive Moves (r : Request) : Stage → (op : RegistryOp) → op.Reply → Stage → Prop where
  | found {id : QueueId} : Moves r .asking (.lookup r.destination) (some id) (.found id)
  | unknown : Destination.fault? r.destination = none → Moves r .asking (.lookup r.destination) none .asking
  | invalid {fault : NameFault} : Destination.fault? r.destination = some fault →
      Moves r .asking (.lookup r.destination) none (.answered (Fifo.answer r Fifo.empty).1)
  | logged : Moves r .asking (.hasLog r.destination) (.ok true) .asking
  | unlogged : Moves r .asking (.hasLog r.destination) (.ok false) (.answered (Fifo.answer r Fifo.empty).1)
  | lock : Moves r .asking .lockOpening () .opening
  | present {id : QueueId} : Moves r .opening (.lookup r.destination) (some id) (.entered id)
  | absent : Moves r .opening (.lookup r.destination) none .absent
  | made : Moves r .absent .makeStorage (.ok ()) .absent
  | opened {id : QueueId} : Moves r .absent (.openQueue r.destination) (.ok id) (.opened id)
  | insert {id : QueueId} : Moves r (.opened id) (.insert r.destination id) () (.entered id)
  | unlock {id : QueueId} : Moves r (.entered id) .unlockOpening () (.found id)
  | hold {id : QueueId} : Moves r (.found id) (.lockQueue id) () (.found id)
  | put {id : QueueId} {m : Message} : Moves r (.found id) (.enqueue id m) (.ok ()) (.answered .ack)
  | check {id : QueueId} {isEmpty : Bool} : Moves r (.found id) (.isEmpty id) isEmpty (.answered (.available !isEmpty))
  | take {id : QueueId} {m? : Option Message} : Moves r (.found id) (.dequeue id) (.ok m?) (.answered (m?.elim .empty .message))
  | release {id : QueueId} {response : Response} : Moves r (.answered response) (.unlockQueue id) () (.answered response)

variable {α β : Type} {r : Request} {stage : Stage} {Q : α → Stage → Prop} {op : RegistryOp}

/-- A program makes only steps that it may make for a request, and ends with a result and in a stage that satisfy `Q`. -/
def Leads (r : Request) : RegistryProgram α → Stage → (α → Stage → Prop) → Prop
  | .done a, stage, Q => Q a stage
  | .ask op next, stage, Q => r.Asks stage op ∧ ∀ reply stage', r.Moves stage op reply stage' → Leads r (next reply) stage' Q

theorem Leads.pure {a : α} (h : Q a stage) : r.Leads (pure a) stage Q :=
  h

theorem Leads.mono {p : RegistryProgram α} {R : α → Stage → Prop} (h : r.Leads p stage R) (hsub : ∀ a stage', R a stage' → Q a stage') :
    r.Leads p stage Q := by
  induction p generalizing stage with
  | done a => exact hsub a stage h
  | ask op next ih =>
    obtain ⟨hasks, hnext⟩ := h
    exact ⟨hasks, fun reply stage' hmoves => ih reply (hnext reply stage' hmoves)⟩

theorem Leads.bind {p : RegistryProgram β} {f : β → RegistryProgram α}
    (h : r.Leads p stage fun b stage' => r.Leads (f b) stage' Q) : r.Leads (p >>= f) stage Q := by
  change r.Leads (p.bind f) stage Q
  induction p generalizing stage with
  | done b => exact h
  | ask op next ih =>
    obtain ⟨hasks, hnext⟩ := h
    exact ⟨hasks, fun reply stage' hmoves => ih reply (hnext reply stage' hmoves)⟩

theorem Leads.request {Q : op.Reply → Stage → Prop} (hasks : r.Asks stage op)
    (h : ∀ reply stage', r.Moves stage op reply stage' → Q reply stage') : r.Leads (Program.request op) stage Q :=
  ⟨hasks, h⟩

/-! ## Finding queues -/

/-- What is done while others may not open queues leads to a queue that is entered. -/
theorem Leads.whileOpening {p : RegistryProgram α} (hvalid : Destination.fault? r.destination = none)
    (h : r.Leads p .opening fun a stage' => ∃ id, stage' = .entered id ∧ Q a (.found id)) :
    r.Leads (Registry.whileOpening p) .asking Q := by
  refine Leads.bind (Leads.request (.lock hvalid) fun _ stage' hmoves => ?_)
  cases hmoves
  refine Leads.bind (h.mono ?_)
  rintro a _ ⟨id, rfl, hq⟩
  refine Leads.bind (Leads.request .unlock fun _ stage' hmoves => ?_)
  cases hmoves
  exact Leads.pure hq

theorem leads_openAndInsert (hvalid : Destination.fault? r.destination = none) :
    r.Leads (Registry.openAndInsert r.destination) .absent fun result stage => ∃ id, result = .ok id ∧ stage = .entered id := by
  refine Leads.bind (Leads.request (.openQueue hvalid) fun reply stage hmoves => ?_)
  cases hmoves with
  | @opened id =>
    refine Leads.bind (Leads.request .insert fun _ stage hmoves => ?_)
    cases hmoves
    exact Leads.pure ⟨id, rfl, rfl⟩

/-- A session that wants a queue made has found it, or the name is refused. -/
theorem leads_getOrCreate (r : Request) :
    r.Leads (Registry.getOrCreate r.destination) .asking fun result stage =>
      (∃ id, result = .ok id ∧ stage = .found id) ∨ ∃ fault, Destination.fault? r.destination = some fault ∧
        result = .error (.destination (.refused r.destination fault)) ∧ stage = .answered (Fifo.answer r Fifo.empty).1 := by
  refine Leads.bind (Leads.request .look fun reply stage hmoves => ?_)
  cases hmoves with
  | @found id => exact Leads.pure (Or.inl ⟨id, rfl, rfl⟩)
  | @invalid fault hfault =>
    dsimp only
    rw [Destination.validate, hfault]
    exact Leads.pure (Or.inr ⟨fault, rfl, rfl, rfl⟩)
  | unknown hvalid =>
    dsimp only
    rw [DurableQueue.validate_eq_ok hvalid]
    refine Leads.whileOpening hvalid (Leads.bind (Leads.request .lookAgain fun reply stage hmoves => ?_))
    cases hmoves with
    | @present id => exact Leads.pure ⟨id, rfl, Or.inl ⟨id, rfl, rfl⟩⟩
    | absent =>
      refine Leads.bind (Leads.request .make fun reply stage hmoves => ?_)
      cases hmoves
      refine (leads_openAndInsert hvalid).mono ?_
      rintro _ _ ⟨id, rfl, rfl⟩
      exact ⟨id, rfl, Or.inl ⟨id, rfl, rfl⟩⟩

/-- A session that only looks for a queue has found it, or there is none. -/
theorem leads_get (hsend : ∀ m, r ≠ .send m) :
    r.Leads (Registry.get r.destination) .asking fun result stage =>
      (∃ id, result = .ok (some id) ∧ stage = .found id) ∨ result = .ok none ∧ stage = .answered (Fifo.answer r Fifo.empty).1 := by
  refine Leads.bind (Leads.request .look fun reply stage hmoves => ?_)
  cases hmoves with
  | @found id => exact Leads.pure (Or.inl ⟨id, rfl, rfl⟩)
  | invalid hfault =>
    dsimp only
    rw [Destination.validate, hfault]
    exact Leads.pure (Or.inr ⟨rfl, rfl⟩)
  | unknown hvalid =>
    dsimp only
    rw [DurableQueue.validate_eq_ok hvalid]
    refine Leads.bind (Leads.request (.stat hvalid hsend) fun reply stage hmoves => ?_)
    cases hmoves with
    | unlogged => exact Leads.pure (Or.inr ⟨rfl, rfl⟩)
    | logged =>
      refine Leads.whileOpening hvalid (Leads.bind (Leads.request .lookAgain fun reply stage hmoves => ?_))
      cases hmoves with
      | @present id => exact Leads.pure ⟨id, rfl, Or.inl ⟨id, rfl, rfl⟩⟩
      | absent =>
        refine Leads.bind ((leads_openAndInsert hvalid).mono ?_)
        rintro _ _ ⟨id, rfl, rfl⟩
        exact Leads.pure ⟨id, rfl, Or.inl ⟨id, rfl, rfl⟩⟩

/-! ## Whole requests -/

/-- What is done to a queue that was found does all that there is to do. -/
theorem Leads.whileHolding {id : QueueId} {Q : op.Reply → Stage → Prop} (hasks : r.Asks (.found id) op)
    (h : ∀ reply stage', r.Moves (.found id) op reply stage' → ∃ response, stage' = .answered response ∧ Q reply stage') :
    r.Leads (Registry.whileHolding id (Program.request op)) (.found id) Q := by
  refine Leads.bind (Leads.request .hold fun _ stage' hmoves => ?_)
  cases hmoves
  refine Leads.bind (Leads.request hasks fun reply stage' hmoves => ?_)
  obtain ⟨response, rfl, hq⟩ := h reply stage' hmoves
  refine Leads.bind (Leads.request .release fun _ stage'' hmoves => ?_)
  cases hmoves
  exact Leads.pure hq

/-- What the client is to be told was done. -/
def Tells (result : Except BrokerError Response) (stage : Stage) : Prop :=
  ∃ response, stage = .answered response ∧ Shared.Told result response

theorem leads_handleSend (m : Message) : (send m).Leads (handleSend m) .asking Tells := by
  refine Leads.bind ((leads_getOrCreate (send m)).mono ?_)
  rintro _ _ (⟨id, rfl, rfl⟩ | ⟨fault, hfault, rfl, rfl⟩)
  · refine Leads.bind (Leads.whileHolding (.put rfl) fun reply stage hmoves => ?_)
    cases hmoves
    exact ⟨_, rfl, Leads.pure ⟨_, rfl, .ok _⟩⟩
  · refine Leads.pure ⟨_, rfl, ?_⟩
    have hdestination : Destination.fault? m.destination = some fault := hfault
    rw [Fifo.answer, hdestination]
    exact .error _

theorem leads_handleCheck (name : String) : (check name).Leads (handleCheck name) .asking Tells := by
  have hget := leads_get fun m (h : check name = send m) => nomatch h
  refine Leads.bind (hget.mono ?_)
  rintro _ _ (⟨id, rfl, rfl⟩ | ⟨rfl, rfl⟩)
  · refine Leads.bind (Leads.whileHolding (.check rfl) fun reply stage hmoves => ?_)
    cases hmoves
    exact ⟨_, rfl, Leads.pure ⟨_, rfl, .ok _⟩⟩
  · exact Leads.pure ⟨_, rfl, .ok _⟩

theorem leads_handleReceive (name : String) : (receive name).Leads (handleReceive name) .asking Tells := by
  have hget := leads_get fun m (h : receive name = send m) => nomatch h
  refine Leads.bind (hget.mono ?_)
  rintro _ _ (⟨id, rfl, rfl⟩ | ⟨rfl, rfl⟩)
  · refine Leads.bind (Leads.whileHolding (.take rfl) fun reply stage hmoves => ?_)
    cases hmoves with
    | @take _ m? =>
      refine ⟨_, rfl, ?_⟩
      cases m? with
      | none => exact Leads.pure ⟨_, rfl, .ok _⟩
      | some m => exact Leads.pure ⟨_, rfl, .ok _⟩
  · exact Leads.pure ⟨_, rfl, .ok _⟩

/-- A session that has come to the end of a request has done what it says. -/
theorem leads_handle (r : Request) : r.Leads r.handle .asking fun response stage => stage = .answered response := by
  have hattempt : r.Leads r.attempt .asking Tells := by
    cases r with
    | send m => exact leads_handleSend m
    | check name => exact leads_handleCheck name
    | receive name => exact leads_handleReceive name
  refine Leads.bind (hattempt.mono ?_)
  rintro result stage ⟨response, rfl, htold⟩
  cases htold with
  | ok response => exact Leads.pure rfl
  | error e => exact Leads.pure rfl

end Request

end QueueBroker

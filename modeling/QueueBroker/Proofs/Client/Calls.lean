import QueueBroker.Client.Connection
import QueueBroker.Proofs.Runs
import QueueBroker.Session.Handling

/-!
# How far a call of a client has come

A call holds the connection from before its request to after its reply, and drops it if no reply comes. Between its steps other
calls run, and bytes travel both ways. `Stage.Asks` says which step a call may make in which stage, `Stage.Moves` what stage an
answer leads to, and `Call.guarded_program` that the program of every call keeps to them, up to a result that `Call.Comes` says.
-/

namespace QueueBroker

/-! ## Replies of the right kind -/

/-- Whether a reply is one of those that a request may get. -/
inductive Request.Fits : Request → Response → Prop where
  | stored {m : Message} : Fits (.send m) .ack
  | available {destination : String} {waiting : Bool} : Fits (.check destination) (.available waiting)
  | message {destination : String} {m : Message} : Fits (.receive destination) (.message m)
  | empty {destination : String} : Fits (.receive destination) .empty
  | error {r : Request} {reply : ErrorReply} : Fits r (.error reply)

namespace Request

variable {σ : Type} {answers : (op : RegistryOp) → σ → op.Reply → σ → Prop} {s s' : σ}

theorem fits_of_handleSend {m : Message} {response : Response} (h : (handleSend m).Runs answers s (.ok response) s') :
    (send m).Fits response := by
  obtain ⟨found, s₁, -, h⟩ := Program.runs_bind_iff.1 h
  cases found with
  | error e => cases (Program.runs_pure_iff.1 h).1
  | ok id =>
    obtain ⟨stored, s₂, -, h⟩ := Program.runs_bind_iff.1 h
    cases stored with
    | error e => cases (Program.runs_pure_iff.1 h).1
    | ok _ =>
      cases (Program.runs_pure_iff.1 h).1
      exact .stored

theorem fits_of_handleCheck {destination : String} {response : Response}
    (h : (handleCheck destination).Runs answers s (.ok response) s') : (check destination).Fits response := by
  obtain ⟨found, s₁, -, h⟩ := Program.runs_bind_iff.1 h
  match found with
  | .error e => cases (Program.runs_pure_iff.1 h).1
  | .ok none =>
    cases (Program.runs_pure_iff.1 h).1
    exact .available
  | .ok (some id) =>
    obtain ⟨isEmpty, s₂, -, h⟩ := Program.runs_bind_iff.1 h
    cases (Program.runs_pure_iff.1 h).1
    exact .available

theorem fits_of_handleReceive {destination : String} {response : Response}
    (h : (handleReceive destination).Runs answers s (.ok response) s') : (receive destination).Fits response := by
  obtain ⟨found, s₁, -, h⟩ := Program.runs_bind_iff.1 h
  match found with
  | .error e => cases (Program.runs_pure_iff.1 h).1
  | .ok none =>
    cases (Program.runs_pure_iff.1 h).1
    exact .empty
  | .ok (some id) =>
    obtain ⟨taken, s₂, -, h⟩ := Program.runs_bind_iff.1 h
    match taken with
    | .error e => cases (Program.runs_pure_iff.1 h).1
    | .ok none =>
      cases (Program.runs_pure_iff.1 h).1
      exact .empty
    | .ok (some m) =>
      cases (Program.runs_pure_iff.1 h).1
      exact .message

/-- However the registry answers, a request gets a reply of the right kind. -/
theorem fits_of_handle {r : Request} {response : Response} (h : r.handle.Runs answers s response s') : r.Fits response := by
  obtain ⟨result, s₁, hattempt, h⟩ := Program.runs_bind_iff.1 h
  cases result with
  | error e =>
    cases (Program.runs_pure_iff.1 h).1
    exact .error
  | ok made =>
    cases (Program.runs_pure_iff.1 h).1
    cases r with
    | send m => exact fits_of_handleSend hattempt
    | check destination => exact fits_of_handleCheck hattempt
    | receive destination => exact fits_of_handleReceive hattempt

end Request

/-! ## Failures -/

/-- Whether an error is of a kind that an error reply tells, and with its text. -/
inductive ErrorReply.Tells : ErrorReply → BrokerError → Prop where
  | storage (fault : StorageFault) : Tells ⟨.storageFailure, fault.message⟩ (.storage fault)
  | destination (fault : DestinationFault) : Tells ⟨.invalidDestination, fault.message⟩ (.destination fault)
  | state (fault : StateFault) : Tells ⟨.illegalState, fault.message⟩ (.state fault)
  | server (fault : ServerFault) : Tells ⟨.internal, fault.message⟩ (.server fault)

theorem ErrorReply.tells_toError (reply : ErrorReply) : reply.Tells reply.toError := by
  obtain ⟨kind, message⟩ := reply
  cases kind with
  | storageFailure => exact .storage (.reported message)
  | invalidDestination => exact .destination (.reported message)
  | illegalState => exact .state (.reported message)
  | internal => exact .server (.reported message)

/-- Whether an error says that a call got no reply that it could read, on a connection that it had. -/
def BrokerError.Local : BrokerError → Prop
  | stream _ => True
  | protocol .frameTooBig => True
  | protocol (.undecodable _) => True
  | connection _ => True
  | timeout _ => True
  | _ => False

/-- Whether an error says that a call got no reply. -/
def BrokerError.Unanswered (e : BrokerError) : Prop :=
  e = .notConnected ∨ e.Local

/-- An error that the broker told is not one that a call makes itself. -/
theorem ErrorReply.Tells.not_unanswered {reply : ErrorReply} {e : BrokerError} (h : reply.Tells e) : ¬e.Unanswered := by
  cases h <;> exact fun h => h.elim nofun id

namespace Client

/-! ## Calls and what they come to -/

/-- A call of a client. -/
inductive Call where
  | ask (request : Request)
  | close

/-- What a call returns that does not fail. -/
inductive Value where
  | stored
  | available (waiting : Bool)
  | message (message? : Option Message)
  | closed

/-- What a call returns. -/
abbrev Result := Except BrokerError Value

/-- What a call does. -/
def Call.program (config : ClientConfig) : Call → ClientProgram Result
  | ask (.send m) => do pure ((← send config m).map fun _ => .stored)
  | ask (.check destination) => do pure ((← check config destination).map .available)
  | ask (.receive destination) => do pure ((← receive config destination).map .message)
  | close => do pure ((← Client.close).map fun _ => .closed)

/-- What the reply to a request means to the caller: an error is one of the same kind with the same text. -/
inductive Translates : Request → Response → Result → Prop where
  | stored {m : Message} : Translates (.send m) .ack (.ok .stored)
  | available {destination : String} {waiting : Bool} :
      Translates (.check destination) (.available waiting) (.ok (.available waiting))
  | message {destination : String} {m : Message} : Translates (.receive destination) (.message m) (.ok (.message (some m)))
  | empty {destination : String} : Translates (.receive destination) .empty (.ok (.message none))
  | error {r : Request} {reply : ErrorReply} {e : BrokerError} : reply.Tells e → Translates r (.error reply) (.error e)

/-- How a call went: there was no connection, its exchange failed, it got a reply, or it closed the connection. -/
inductive Verdict where
  | refused
  | failed
  | replied (response : Response)
  | closed

/-- What a call returns by how it went. -/
inductive Call.Comes : Call → Verdict → Result → Prop where
  | refused {r : Request} : Comes (.ask r) .refused (.error .notConnected)
  | failed {r : Request} {e : BrokerError} : e.Local → Comes (.ask r) .failed (.error e)
  | replied {r : Request} {response : Response} {result : Result} : (r.Fits response → Translates r response result) →
      Comes (.ask r) (.replied response) result
  | closed {result : Result} : (∀ e, result = .error e → e.Local) → Comes .close .closed result
  | idle : Comes .close .refused (.ok .closed)

/-! ## Stages -/

/-- How far a call has come. -/
inductive Stage where
  /-- Another call may hold the connection. -/
  | waiting
  | holding
  /-- It holds a connection and has not asked for anything yet. -/
  | ready
  /-- Its request is written, and the reply has not come yet. -/
  | asked
  /-- Its exchange failed, and the connection is to be dropped. -/
  | broken
  /-- It has closed the connection, which is to be dropped. -/
  | closing
  /-- All that is left is to release the connection. -/
  | settled (verdict : Verdict)
  | done (verdict : Verdict)

/-- The steps that a call may make. -/
inductive Stage.Asks (config : ClientConfig) (call : Call) : Stage → ClientOp → Prop where
  | hold : Asks config call .waiting .hold
  | look : Asks config call .holding .isConnected
  | write {r : Request} {frame : Bytes} : call = .ask r → r.frame config.maxFrameLength.toNat = .ok frame →
      Asks config call .ready (.write frame)
  | forgo : Asks config call .ready .drop
  | close : call = .close → Asks config call .ready .close
  | await : Asks config call .asked .awaitReply
  | drop : Asks config call .broken .drop
  | forget : Asks config call .closing .drop
  | release {verdict : Verdict} : Asks config call (.settled verdict) .release

/-- Where a call comes by what a step is answered with. -/
inductive Stage.Moves : Stage → (op : ClientOp) → op.Reply → Stage → Prop where
  | held : Moves .waiting .hold () .holding
  | connected : Moves .holding .isConnected true .ready
  | unconnected : Moves .holding .isConnected false (.settled .refused)
  | wrote {frame : Bytes} : Moves .ready (.write frame) (.arrived ()) .asked
  | unwritten {frame : Bytes} {e : BrokerError} : e.Local → Moves .ready (.write frame) (.failed e) .broken
  | stuck {frame : Bytes} : Moves .ready (.write frame) .elapsed .broken
  | forwent : Moves .ready .drop () (.settled .failed)
  | closed {result : Except BrokerError Unit} : (∀ e, result = .error e → e.Local) → Moves .ready .close result .closing
  | replied {response : Response} : Moves .asked .awaitReply (.arrived (some response)) (.settled (.replied response))
  | hungUp : Moves .asked .awaitReply (.arrived none) .broken
  | unread {e : BrokerError} : e.Local → Moves .asked .awaitReply (.failed e) .broken
  | late : Moves .asked .awaitReply .elapsed .broken
  | dropped : Moves .broken .drop () (.settled .failed)
  | forgot : Moves .closing .drop () (.settled .closed)
  | released {verdict : Verdict} : Moves (.settled verdict) .release () (.done verdict)

/-! ## Programs of calls -/

variable {config : ClientConfig} {call : Call} {r : Request} {α : Type} {stage : Stage} {Q : α → Stage → Prop}

/-- A program of a call makes only steps that the call may make, and ends with a result and in a stage that satisfy `Q`. -/
abbrev Call.Leads (config : ClientConfig) (call : Call) (p : ClientProgram α) (stage : Stage) (Q : α → Stage → Prop) : Prop :=
  p.Guarded (Stage.Asks config call) Stage.Moves stage Q

/-- What comes of an exchange on a connection that is held. -/
inductive Exchanged : Awaited Response → Stage → Prop where
  | arrived {response : Response} : Exchanged (.arrived response) (.settled (.replied response))
  | unsent {e : BrokerError} : e.Local → Exchanged (.failed e) .ready
  | failed {e : BrokerError} : e.Local → Exchanged (.failed e) .broken
  | elapsed : Exchanged .elapsed .broken

theorem leads_exchange (config : ClientConfig) (r : Request) :
    (Call.ask r).Leads config (exchange config r) .ready Exchanged := by
  rw [exchange]
  cases hframe : r.frame config.maxFrameLength.toNat with
  | error e =>
    refine Program.Guarded.pure (.unsent ?_)
    unfold Request.frame Frame.encode at hframe
    split at hframe
    · cases hframe
      trivial
    · cases hframe
  | ok frame =>
    refine Program.Guarded.bind (Program.Guarded.request (.write rfl hframe) fun reply stage hmoves => ?_)
    cases hmoves with
    | unwritten hlocal => exact Program.Guarded.pure (.failed hlocal)
    | stuck => exact Program.Guarded.pure .elapsed
    | wrote =>
      refine Program.Guarded.bind (Program.Guarded.request .await fun reply stage hmoves => ?_)
      cases hmoves with
      | replied => exact Program.Guarded.pure .arrived
      | hungUp => exact Program.Guarded.pure (.failed trivial)
      | unread hlocal => exact Program.Guarded.pure (.failed hlocal)
      | late => exact Program.Guarded.pure .elapsed

/-- What a request comes to by how it went. -/
inductive Requested : Verdict → Except BrokerError Response → Prop where
  | refused : Requested .refused (.error .notConnected)
  | failed {e : BrokerError} : e.Local → Requested .failed (.error e)
  | error {reply : ErrorReply} : Requested (.replied (.error reply)) (.error reply.toError)
  | replied {response : Response} : (∀ reply, response ≠ .error reply) → Requested (.replied response) (.ok response)

/-- Releasing the connection is the last thing that is done. -/
theorem leads_release {verdict : Verdict} {result : α} (h : Q result (.done verdict)) :
    call.Leads config (Program.request ClientOp.release >>= fun _ => pure result) (.settled verdict) Q := by
  refine Program.Guarded.bind (Program.Guarded.request .release fun _ stage hmoves => ?_)
  cases hmoves
  exact Program.Guarded.pure h

theorem leads_request (config : ClientConfig) (r : Request) :
    (Call.ask r).Leads config (request config r) .waiting fun result stage => ∃ verdict, stage = .done verdict ∧ Requested verdict result := by
  refine Program.Guarded.bind (Program.Guarded.request .hold fun _ stage hmoves => ?_)
  cases hmoves
  refine Program.Guarded.bind (Program.Guarded.request .look fun connected stage hmoves => ?_)
  cases hmoves with
  | unconnected => exact leads_release ⟨_, rfl, .refused⟩
  | connected =>
    refine Program.Guarded.bind ((leads_exchange config r).mono ?_)
    intro outcome stage houtcome
    cases houtcome with
    | @arrived response =>
      cases response with
      | error reply => exact leads_release ⟨_, rfl, .error⟩
      | _ => exact leads_release ⟨_, rfl, .replied (by simp)⟩
    | unsent hlocal =>
      refine Program.Guarded.bind (Program.Guarded.request .forgo fun _ stage hmoves => ?_)
      cases hmoves
      exact leads_release ⟨_, rfl, .failed hlocal⟩
    | failed hlocal =>
      refine Program.Guarded.bind (Program.Guarded.request .drop fun _ stage hmoves => ?_)
      cases hmoves
      exact leads_release ⟨_, rfl, .failed hlocal⟩
    | elapsed =>
      refine Program.Guarded.bind (Program.Guarded.request .drop fun _ stage hmoves => ?_)
      cases hmoves
      exact leads_release ⟨_, rfl, .failed trivial⟩

theorem leads_close (config : ClientConfig) :
    Call.close.Leads config close .waiting fun result stage =>
      ∃ verdict, stage = .done verdict ∧ Call.close.Comes verdict (result.map fun _ => .closed) := by
  refine Program.Guarded.bind (Program.Guarded.request .hold fun _ stage hmoves => ?_)
  cases hmoves
  refine Program.Guarded.bind (Program.Guarded.request .look fun connected stage hmoves => ?_)
  cases hmoves with
  | unconnected => exact leads_release ⟨_, rfl, .idle⟩
  | connected =>
    refine Program.Guarded.bind (Program.Guarded.request (.close rfl) fun closed stage hmoves => ?_)
    cases hmoves with
    | closed hlocal =>
      refine Program.Guarded.bind (Program.Guarded.request .forget fun _ stage hmoves => ?_)
      cases hmoves
      refine leads_release ⟨_, rfl, .closed fun e he => ?_⟩
      cases closed with
      | ok _ => cases he
      | error e' =>
        cases he
        exact hlocal e rfl

theorem Requested.comes_of_error {verdict : Verdict} {e : BrokerError} (h : Requested verdict (.error e)) :
    (Call.ask r).Comes verdict (.error e) := by
  cases h with
  | refused => exact .refused
  | failed hlocal => exact .failed hlocal
  | error => exact .replied fun _ => .error (ErrorReply.tells_toError _)

theorem Requested.comes_of_ok {verdict : Verdict} {response : Response} {result : Result} (h : Requested verdict (.ok response))
    (htranslates : r.Fits response → (∀ reply, response ≠ .error reply) → Translates r response result) :
    (Call.ask r).Comes verdict result := by
  cases h with
  | replied hne => exact .replied fun hfits => htranslates hfits hne

/-- A call is over, and returns what comes of how it went. -/
def Call.Ends (call : Call) (result : Result) (stage : Stage) : Prop :=
  ∃ verdict, stage = .done verdict ∧ call.Comes verdict result

/-- Every call keeps to its stages, and returns what its last stage says. -/
theorem Call.leads_program (config : ClientConfig) (call : Call) : call.Leads config (call.program config) .waiting call.Ends := by
  cases call with
  | close =>
    refine Program.Guarded.bind ((leads_close config).mono ?_)
    rintro result _ ⟨verdict, rfl, hcomes⟩
    exact Program.Guarded.pure ⟨verdict, rfl, hcomes⟩
  | ask r =>
    -- The three kinds of requests differ only in the replies that they accept.
    cases r with
    | send m =>
      refine Program.Guarded.bind (Program.Guarded.bind ((leads_request config (.send m)).mono ?_))
      rintro result _ ⟨verdict, rfl, hrequested⟩
      cases result with
      | error e => exact ⟨verdict, rfl, hrequested.comes_of_error⟩
      | ok response =>
        cases response with
        | ack => exact ⟨verdict, rfl, hrequested.comes_of_ok fun _ _ => .stored⟩
        | _ => exact ⟨verdict, rfl, hrequested.comes_of_ok fun hfits hne => by cases hfits <;> exact absurd rfl (hne _)⟩
    | check destination =>
      refine Program.Guarded.bind (Program.Guarded.bind ((leads_request config (.check destination)).mono ?_))
      rintro result _ ⟨verdict, rfl, hrequested⟩
      cases result with
      | error e => exact ⟨verdict, rfl, hrequested.comes_of_error⟩
      | ok response =>
        cases response with
        | available waiting => exact ⟨verdict, rfl, hrequested.comes_of_ok fun _ _ => .available⟩
        | _ => exact ⟨verdict, rfl, hrequested.comes_of_ok fun hfits hne => by cases hfits <;> exact absurd rfl (hne _)⟩
    | receive destination =>
      refine Program.Guarded.bind (Program.Guarded.bind ((leads_request config (.receive destination)).mono ?_))
      rintro result _ ⟨verdict, rfl, hrequested⟩
      cases result with
      | error e => exact ⟨verdict, rfl, hrequested.comes_of_error⟩
      | ok response =>
        cases response with
        | message m => exact ⟨verdict, rfl, hrequested.comes_of_ok fun _ _ => .message⟩
        | empty => exact ⟨verdict, rfl, hrequested.comes_of_ok fun _ _ => .empty⟩
        | _ => exact ⟨verdict, rfl, hrequested.comes_of_ok fun hfits hne => by cases hfits <;> exact absurd rfl (hne _)⟩

end Client

end QueueBroker

import QueueBroker.Proofs.Client.Exchanges

/-!
# What the calls of a client return

Whatever happens on a line, a call that returns a value or the error of an error reply returns what the session made of its own
request. Once a call has failed otherwise, or closed the connection, nothing is written any more, and all later calls are refused.
-/

namespace QueueBroker

namespace Session

variable {σ : Type} {answers : (op : RegistryOp) → σ → op.Reply → σ → Prop} {store store' : σ} {done : List (Request × Response)}

/-- What was applied was made of its request. -/
theorem Applies.exists_runs (h : Applies answers store done store') {request : Request} {response : Response}
    (hmem : (request, response) ∈ done) : ∃ before after, request.handle.Runs answers before response after := by
  induction h with
  | nil => cases hmem
  | snoc _ hrun ih =>
    rcases List.mem_append.1 hmem with hmem | hmem
    · exact ih hmem
    · cases List.mem_singleton.1 hmem
      exact ⟨_, _, hrun⟩

end Session

namespace Client

open Session (applied)

variable {σ : Type} {answers : (op : RegistryOp) → σ → op.Reply → σ → Prop} {settings : SessionSettings} {now : Nat} {store : σ}
  {config : ClientConfig}

/-- Whether a call that returned like this leaves no connection behind: it closed the connection, it got no reply, or there was no
connection. -/
def Call.Severs (call : Call) (result : Result) : Prop :=
  call = .close ∨ ∃ e, result = .error e ∧ e.Unanswered

/-- Whether a call in this stage has found no connection, or will find none if there is none now. -/
def Stage.Barred : Stage → Prop
  | waiting => True
  | holding => True
  | settled verdict => verdict = .refused
  | done verdict => verdict = .refused
  | _ => False

/-- The steps of a check that gets its reply. -/
theorem Call.program_check (config : ClientConfig) (destination : String) {frame : Bytes}
    (hframe : (Request.check destination).frame config.maxFrameLength.toNat = .ok frame) :
    ∃ look, (Call.ask (.check destination)).program config = .ask .hold look ∧
      ∃ write, look () = .ask .isConnected write ∧ ∃ await, write true = .ask (.write frame) await ∧
        ∃ release, await (.arrived ()) = .ask .awaitReply release ∧
          ∀ waiting, release (.arrived (some (.available waiting))) = .ask .release fun _ => .done (.ok (.available waiting)) := by
  refine ⟨_, rfl, _, rfl, ?_⟩
  simp only [exchange, hframe]
  exact ⟨_, rfl, _, rfl, fun waiting => rfl⟩

namespace Line

variable {l l' base : Line σ} {id other : Nat} {call : Call} {result : Result} {stage : Stage} {op : ClientOp} {reply : op.Reply}

/-! ## Own replies -/

/-- The reply that a call took answers its request, and what it returns means that reply. -/
theorem Kept.own_reply (h : l.Kept answers settings now store config) {request : Request}
    (hcalled : .called id (.ask request) ∈ l.journal) (hended : .ended id result ∈ l.journal) :
    (l.connection = none ∧ ∃ e, result = .error e ∧ e.Unanswered) ∨
      ∃ (place : Nat) (response : Response), l.asked[place]? = some (id, request) ∧
        (applied l.trace)[place]? = some (request, response) ∧ Translates request response result := by
  obtain ⟨call, verdict, hcalled', hholds, hcomes⟩ := h.results id result hended
  obtain rfl := h.unique id _ _ hcalled hcalled'
  cases hcomes with
  | refused => exact Or.inl ⟨hholds, _, rfl, Or.inl rfl⟩
  | failed hlocal => exact Or.inl ⟨hholds, _, rfl, Or.inr hlocal⟩
  | @replied _ response _ htranslates =>
    obtain ⟨request', place, hcall, hasked, happlied⟩ := hholds
    cases hcall
    have hserved := Session.serves_in_order h.served.steps []
    obtain ⟨before, after, hrun⟩ := hserved.applies.exists_runs (List.mem_of_getElem? happlied)
    exact Or.inr ⟨place, response, hasked, happlied, htranslates (Request.fits_of_handle hrun)⟩

/-- After a call that leaves no connection behind there is none. -/
theorem Kept.cut_of_severs (h : l.Kept answers settings now store config) (hcalled : .called id call ∈ l.journal)
    (hended : .ended id result ∈ l.journal) (hsevers : call.Severs result) : l.connection = none := by
  cases call with
  | close =>
    obtain ⟨call, verdict, hcalled', hholds, hcomes⟩ := h.results id result hended
    obtain rfl := h.unique id _ _ hcalled hcalled'
    cases hcomes with
    | closed => exact hholds
    | idle => exact hholds
  | ask request =>
    obtain ⟨e, rfl, he⟩ := hsevers.resolve_left nofun
    rcases h.own_reply hcalled hended with ⟨hcut, -⟩ | ⟨_, _, _, _, htranslates⟩
    · exact hcut
    · cases htranslates with
      | error htells => exact absurd he htells.not_unanswered

/-! ## Calls without a connection -/

/-- What is kept of a line whose connection is gone: nothing is written any more, and calls that are made find no connection. -/
structure Severed (config : ClientConfig) (base l : Line σ) : Prop where
  cut : l.connection = none
  asked : l.asked = base.asked
  journal : ∃ more, l.journal = base.journal ++ more ∧ ∀ id call, .called id call ∈ more →
    (∀ working, l.calls id = some working → working.call = call ∧
      ∃ stage, working.call.Leads config working.left stage working.call.Ends ∧ stage.Barred) ∧
    ∀ result, .ended id result ∈ more → call.Comes .refused result

theorem severed_refl (hcut : base.connection = none) : Severed config base base :=
  ⟨hcut, rfl, [], (List.append_nil _).symm, fun _ _ hmem => absurd hmem List.not_mem_nil⟩

/-- A call that finds no connection goes on without one. -/
theorem exists_barred (hcut : l.connection = none) (hbarred : stage.Barred) (hasks : stage.Asks config call op)
    (hans : Answers id call op l reply l') : ∃ stage', stage.Moves op reply stage' ∧ stage'.Barred := by
  cases hasks with
  | hold =>
    cases hans
    exact ⟨_, .held, trivial⟩
  | look =>
    cases hans with
    | isConnected =>
      rw [hcut]
      exact ⟨_, .unconnected, rfl⟩
  | release =>
    cases hans
    exact ⟨_, .released, hbarred⟩
  | write => exact hbarred.elim
  | forgo => exact hbarred.elim
  | close => exact hbarred.elim
  | await => exact hbarred.elim
  | drop => exact hbarred.elim
  | forget => exact hbarred.elim

/-- Without a connection nothing is written. -/
theorem Kept.asked_eq (h : l.Kept answers settings now store config) (hcut : l.connection = none)
    {next : op.Reply → ClientProgram Result} (hcall : l.calls id = some ⟨call, .ask op next⟩)
    (hans : Answers id call op l reply l') : l'.asked = l.asked := by
  obtain ⟨-, stage, ⟨hasks, -⟩, hrely⟩ := h.calls id _ hcall
  cases hasks with
  | write =>
    obtain ⟨-, -, hconnection, -⟩ := hrely
    rw [hcut] at hconnection
    cases hconnection
  | _ => cases hans <;> rfl

/-- A call that is made without a connection has it all before it. -/
theorem Severed.called (h : Severed config base l) (hkept : l.Kept answers settings now store config) {id : Nat}
    (hfresh : ∀ other, .called id other ∉ l.journal) (call : Call) :
    Severed config base (l.sets id (some ⟨call, call.program config⟩) [.called id call]) := by
  obtain ⟨more, hmore, hlate⟩ := h.journal
  refine ⟨h.cut, h.asked, more ++ [.called id call], by rw [sets, hmore, List.append_assoc], fun other call' hmem => ?_⟩
  have hended : ∀ result, .ended other result ∈ more ++ [.called id call] → .ended other result ∈ more := by
    intro result hresult
    exact (List.mem_append.1 hresult).resolve_right fun hlast => by cases List.mem_singleton.1 hlast
  rcases List.mem_append.1 hmem with hold | hnew
  · have hne : other ≠ id := by
      rintro rfl
      exact hfresh call' (hmore ▸ List.mem_append_right _ hold)
    rw [calls_sets_of_ne hne]
    exact ⟨(hlate other call' hold).1, fun result hresult => (hlate other call' hold).2 result (hended result hresult)⟩
  · cases List.mem_singleton.1 hnew
    refine ⟨fun working hworking => ?_, fun result hresult => ?_⟩
    · cases (calls_sets_self l id _ _).symm.trans hworking
      exact ⟨rfl, .waiting, call.leads_program config, trivial⟩
    · obtain ⟨earlier, -, hcalled, -⟩ := hkept.results id result (hmore ▸ List.mem_append_right _ (hended result hresult))
      exact absurd hcalled (hfresh earlier)

/-- A call that makes a step without a connection gets no further towards one. -/
theorem Severed.work (h : Severed config base l) (hkept : l.Kept answers settings now store config)
    {next : op.Reply → ClientProgram Result} (hcall : l.calls id = some ⟨call, .ask op next⟩) (hans : Answers id call op l reply l') :
    Severed config base (l'.sets id (some ⟨call, next reply⟩) []) := by
  obtain ⟨more, hmore, hlate⟩ := h.journal
  refine ⟨hans.onward.cut h.cut, (hkept.asked_eq h.cut hcall hans).trans h.asked, more, ?_, fun other call' hmem => ?_⟩
  · rw [sets, List.append_nil]
    exact hans.journal_eq.trans hmore
  · refine ⟨fun working hworking => ?_, (hlate other call' hmem).2⟩
    by_cases hne : other = id
    · subst hne
      cases (calls_sets_self l' other _ _).symm.trans hworking
      obtain ⟨hsame, stage, ⟨hasks, hnext⟩, hbarred⟩ := (hlate other call' hmem).1 _ hcall
      obtain ⟨stage', hmoves, hbarred'⟩ := exists_barred h.cut hbarred hasks hans
      exact ⟨hsame, stage', hnext reply stage' hmoves, hbarred'⟩
    · rw [calls_sets_of_ne hne, hans.calls_eq] at hworking
      exact (hlate other call' hmem).1 working hworking

/-- A call that ends without a connection was refused, if it was made without one. -/
theorem Severed.finish (h : Severed config base l) (hcall : l.calls id = some ⟨call, .done result⟩) :
    Severed config base (l.sets id none [.ended id result]) := by
  obtain ⟨more, hmore, hlate⟩ := h.journal
  refine ⟨h.cut, h.asked, more ++ [.ended id result], by rw [sets, hmore, List.append_assoc], fun other call' hmem => ?_⟩
  have hold : .called other call' ∈ more :=
    (List.mem_append.1 hmem).resolve_right fun hlast => by cases List.mem_singleton.1 hlast
  obtain ⟨hworks, hends⟩ := hlate other call' hold
  refine ⟨fun working hworking => ?_, fun result' hresult => ?_⟩
  · have hne : other ≠ id := by
      rintro rfl
      cases (calls_sets_self l other _ _).symm.trans hworking
    rw [calls_sets_of_ne hne] at hworking
    exact hworks working hworking
  · rcases List.mem_append.1 hresult with hresult | hresult
    · exact hends result' hresult
    · cases List.mem_singleton.1 hresult
      obtain ⟨rfl, _, ⟨verdict, rfl, hcomes⟩, rfl⟩ := hworks _ hcall
      exact hcomes

theorem Severed.step (h : Severed config base l) (hkept : l.Kept answers settings now store config)
    (hgoes : Goes answers config l l') : Severed config base l' := by
  cases hgoes with
  | call id call hfresh => exact h.called hkept hfresh call
  | work hcall hans => exact h.work hkept hcall hans
  | finish hcall => exact h.finish hcall
  | receive hr => cases hr.symm.trans h.cut
  | look hr => cases hr.symm.trans h.cut
  | reach => exact ⟨h.cut, h.asked, h.journal⟩
  | serve => exact ⟨h.cut, h.asked, h.journal⟩

/-- Once the connection is gone, nothing is written, and the calls that are made then are refused. -/
theorem Kept.severed (h : l.Kept answers settings now store config) (hcut : l.connection = none) (hlater : Later answers config l l') :
    l'.Kept answers settings now store config ∧ Severed config l l' := by
  induction hlater with
  | refl => exact ⟨h, severed_refl hcut⟩
  | tail _ hgoes ih =>
    obtain ⟨hkept, hsevered⟩ := ih
    refine ⟨hkept.step (fun hsome => ?_) hgoes, hsevered.step hkept hgoes⟩
    rw [hsevered.cut] at hsome
    cases hsome

/-! ## Calls end -/

/-- A step that a call may make can be answered, unless it waits for the connection. -/
theorem exists_answer (l : Line σ) (id : Nat) (hasks : stage.Asks config call op) (hfree : stage = .waiting → l.holder = none) :
    ∃ reply l' stage', Answers id call op l reply l' ∧ stage.Moves op reply stage' ∧ stage' ≠ .waiting ∧
      ∀ verdict, stage' = .done verdict → l'.holder = none := by
  cases hasks with
  | hold => exact ⟨(), _, .holding, .hold (hfree rfl), .held, nofun, nofun⟩
  | look =>
    have hans : Answers id call .isConnected l l.connection.isSome l := .isConnected
    cases hconnection : l.connection.isSome with
    | true => exact ⟨true, l, .ready, hconnection ▸ hans, .connected, nofun, nofun⟩
    | false => exact ⟨false, l, .settled .refused, hconnection ▸ hans, .unconnected, nofun, nofun⟩
  | write hcall => exact ⟨.elapsed, _, .broken, .writeLate 0 hcall, .stuck, nofun, nofun⟩
  | forgo => exact ⟨(), _, .settled .failed, .drop, .forwent, nofun, nofun⟩
  | close => exact ⟨.ok (), _, .closing, .close, .closed nofun, nofun, nofun⟩
  | await => exact ⟨.elapsed, _, .broken, .late, .late, nofun, nofun⟩
  | drop => exact ⟨(), _, .settled .failed, .drop, .dropped, nofun, nofun⟩
  | forget => exact ⟨(), _, .settled .closed, .drop, .forgot, nofun, nofun⟩
  | @release verdict => exact ⟨(), _, .done verdict, .release, .released, nofun, fun _ _ => rfl⟩

/-- A call that does not wait for the connection can go on to its end, and releases the connection on the way. -/
theorem exists_ended_of_leads {left : ClientProgram Result} (hleads : call.Leads config left stage call.Ends)
    (hcall : l.calls id = some ⟨call, left⟩) (hfree : stage = .waiting → l.holder = none) :
    ∃ l' result, Later answers config l l' ∧ .ended id result ∈ l'.journal ∧
      (∀ other, other ≠ id → l'.calls other = l.calls other) ∧
      (l'.holder = none ∨ (∃ verdict, stage = .done verdict) ∧ l'.holder = l.holder) := by
  -- The induction is on what is left of the call; each step is given the answer that needs nothing of the broker.
  induction left generalizing l stage with
  | done result =>
    obtain ⟨verdict, rfl, -⟩ := hleads
    refine ⟨_, result, .single (.finish hcall), List.mem_append_right _ (List.mem_singleton_self _), fun other hne => ?_,
      Or.inr ⟨⟨verdict, rfl⟩, rfl⟩⟩
    exact calls_sets_of_ne hne _ _ _
  | ask op next ih =>
    obtain ⟨hasks, hnext⟩ := hleads
    obtain ⟨reply, l₁, stage', hans, hmoves, hwaits, hreleased⟩ := exists_answer l id hasks hfree
    obtain ⟨l', result, hlater, hended, hcalls, hholder⟩ :=
      ih reply (hnext reply stage' hmoves) (calls_sets_self l₁ id _ []) fun hwaiting => absurd hwaiting hwaits
    refine ⟨l', result, .head (.work hcall hans) hlater, hended, fun other hne => ?_, Or.inl ?_⟩
    · rw [hcalls other hne, calls_sets_of_ne hne, hans.calls_eq]
    · rcases hholder with hnone | ⟨⟨verdict, hover⟩, hsame⟩
      · exact hnone
      · exact hsame.trans (hreleased verdict hover)

/-- Whether every call can come to its end. -/
def CanEnd (answers : (op : RegistryOp) → σ → op.Reply → σ → Prop) (config : ClientConfig) (l : Line σ) : Prop :=
  ∀ id working, l.calls id = some working → ∃ l' result, Later answers config l l' ∧ .ended id result ∈ l'.journal

/-- Every call can come to its end, at the latest after the one that holds the connection. -/
theorem Kept.canEnd (h : l.Kept answers settings now store config) : l.CanEnd answers config := by
  intro id working hcall
  obtain ⟨-, stage, hleads, hrely⟩ := h.calls id working hcall
  by_cases hfree : stage = .waiting → l.holder = none
  · obtain ⟨l', result, hlater, hended, -⟩ := exists_ended_of_leads hleads hcall hfree
    exact ⟨l', result, hlater, hended⟩
  · push Not at hfree
    obtain ⟨rfl, hheld⟩ := hfree
    obtain ⟨other, hholder⟩ := Option.ne_none_iff_exists'.1 hheld
    have hne : id ≠ other := by
      rintro rfl
      exact hrely.1 hholder
    obtain ⟨first, hfirst⟩ := h.holder other hholder
    obtain ⟨-, stage', hleads', hrely'⟩ := h.calls other first hfirst
    have hwaits : stage' ≠ .waiting := by
      rintro rfl
      exact hrely'.1 hholder
    obtain ⟨l₁, -, hlater₁, -, hcalls, hreleased⟩ :=
      exists_ended_of_leads hleads' hfirst fun hwaiting => absurd hwaiting hwaits
    have hnone : l₁.holder = none := by
      rcases hreleased with hnone | ⟨⟨verdict, rfl⟩, -⟩
      · exact hnone
      · exact absurd hholder hrely'.1
    obtain ⟨l', result, hlater, hended, -⟩ := exists_ended_of_leads hleads ((hcalls id hne).trans hcall) fun _ => hnone
    exact ⟨l', result, hlater₁.trans hlater, hended⟩

/-! ## What calls return -/

/-- What is asked of the calls of a client and its session. -/
structure RepliesMatch (answers : (op : RegistryOp) → σ → op.Reply → σ → Prop) (config : ClientConfig) (l : Line σ) : Prop where
  /-- The requests applied are the first of those written, and each call writes one at most. -/
  order : (applied l.trace).map Prod.fst <+: l.asked.map Prod.snd ∧ (l.asked.map Prod.fst).Nodup
  /-- A call that returns got no reply, or it returns the translation of what was made of its own request. -/
  own : ∀ id request result, .called id (.ask request) ∈ l.journal → .ended id result ∈ l.journal →
    (∃ e, result = .error e ∧ e.Unanswered) ∨ ∃ (place : Nat) (response : Response), l.asked[place]? = some (id, request) ∧
      (applied l.trace)[place]? = some (request, response) ∧ Translates request response result
  /-- After a call that leaves no connection behind nothing is written, and the calls made then return that there is none. -/
  severed : ∀ id call result, .called id call ∈ l.journal → .ended id result ∈ l.journal → call.Severs result →
    ∀ l', Later answers config l l' → l'.asked = l.asked ∧ l'.CanEnd answers config ∧ ∃ more, l'.journal = l.journal ++ more ∧
      ∀ id request result, .called id (.ask request) ∈ more → .ended id result ∈ more → result = .error .notConnected
  canEnd : l.CanEnd answers config

/-- However calls, bytes, the session, timeouts and failures interleave on a connection, calls get their own replies. -/
theorem replies_match {l : Line σ} (hlater : Later answers config (.start config settings now store) l) (hplain : l.Plain) :
    l.RepliesMatch answers config := by
  have hkept := (kept_start answers config settings now store).later hlater hplain
  exact {
    order := ⟨hkept.served.applied_prefix hplain, hkept.distinct⟩
    own := fun id request result hcalled hended => (hkept.own_reply hcalled hended).imp_left And.right
    severed := fun id call result hcalled hended hsevers l' hlater' => by
      obtain ⟨hkept', hsevered⟩ := hkept.severed (hkept.cut_of_severs hcalled hended hsevers) hlater'
      obtain ⟨more, hmore, hlate⟩ := hsevered.journal
      refine ⟨hsevered.asked, hkept'.canEnd, more, hmore, fun id' request result' hcalled' hended' => ?_⟩
      cases (hlate id' _ hcalled').2 result' hended'
      rfl
    canEnd := hkept.canEnd }

/-- A check on an idle broker, whose request and reply travel in one piece. -/
theorem replies_match_checked : ∃ l : Line Store,
    l.RepliesMatch (Store.Answers FileOp.Performs) { maxFrameLength := 100 } ∧
      .ended 0 (.ok (.available false)) ∈ l.journal ∧ l.asked = [(0, .check "q")] ∧
      applied l.trace = [(.check "q", .available false)] := by
  let config : ClientConfig := { maxFrameLength := 100 }
  obtain ⟨left, hrun⟩ := Session.exists_runs_check
  obtain ⟨answer, hanswer⟩ := Session.exists_frame_available
  obtain ⟨frame, hframe⟩ : ∃ frame, Frame.encode 100 Session.checkBody = .ok frame := ⟨_, Session.encode_checkBody⟩
  -- The session takes the request off its stream, and the client the reply.
  let fed : Session := (Session.start ⟨100, none⟩ 0).feed frame
  let taken : Session := { fed with receiver := ⟨100, none, []⟩ }
  have hfirst : Frame.first fed.receiver.limit Request.parse fed.receiver.unread = .ok (some (.check "q", [])) := by
    have hwhole := Frame.first_of_encode hframe Session.parse_checkBody []
    rwa [List.append_nil] at hwhole
  have htake : fed.turn false 0 = (.serve (.check "q"), taken) :=
    Session.turn_of_first_eq_some (Receiver.sound_start 100) hfirst 0
  have hreply : taken.reply 0 (.available false) = (some answer, taken) := Session.reply_of_frame hanswer rfl 0
  have hparse : Response.parse (Response.available false).toJson.bytes = .ok (.available false) :=
    Response.parse_bytes (by simp) (by simp) (by simp)
  have hread : Receiver.next Response.parse ((Receiver.start 100).feed answer) = (.ok (some (.available false)), ⟨100, none, []⟩) := by
    have hwhole := Frame.first_of_encode hanswer hparse []
    rw [List.append_nil] at hwhole
    exact Receiver.next_of_first_eq_some (Receiver.sound_start 100) hwhole
  obtain ⟨look, hhold, write, hlook, await, hwrite, release, hawait, hrelease⟩ :=
    Call.program_check config "q" hframe
  -- The call writes its request,
  obtain ⟨l₁, hasked, hcall₁, hconnection₁, houtgoing₁, hincoming₁, hconversation₁, hrest₁⟩ : ∃ l₁,
      Later (Store.Answers FileOp.Performs) config (.start config ⟨100, none⟩ 0 Session.idleStore) l₁ ∧
        l₁.calls 0 = some ⟨.ask (.check "q"), .ask .awaitReply release⟩ ∧ l₁.connection = some (.start 100) ∧
        l₁.outgoing = frame ++ [] ∧ l₁.incoming = [] ∧ l₁.conversation = .start ⟨100, none⟩ 0 Session.idleStore ∧
        l₁.journal = [.called 0 (.ask (.check "q"))] ∧ l₁.asked = [(0, .check "q")] ∧ l₁.trace = [] := by
    have hcall : Later (Store.Answers FileOp.Performs) config (.start config ⟨100, none⟩ 0 Session.idleStore) _ :=
      .single (.call 0 (.ask (.check "q")) (fun _ => List.not_mem_nil))
    rw [hhold] at hcall
    have hheld := hcall.tail (.work (calls_sets_self _ _ _ _) (.hold rfl))
    rw [hlook] at hheld
    have hlooked := hheld.tail
      (.work (calls_sets_self _ _ _ _) (show Answers 0 (.ask (.check "q")) .isConnected _ true _ from .isConnected))
    rw [hwrite] at hlooked
    have hasked := hlooked.tail (.work (calls_sets_self _ _ _ _) (.write rfl))
    rw [hawait] at hasked
    exact ⟨_, hasked, calls_sets_self _ _ _ _, rfl, (List.append_nil frame).symm, rfl, rfl, rfl, rfl, rfl⟩
  -- the session takes it, applies it and writes the reply,
  obtain ⟨l₂, hserved, hcall₂, hconnection₂, hincoming₂, hrest₂⟩ : ∃ l₂,
      Later (Store.Answers FileOp.Performs) config (.start config ⟨100, none⟩ 0 Session.idleStore) l₂ ∧
        l₂.calls 0 = some ⟨.ask (.check "q"), .ask .awaitReply release⟩ ∧ l₂.connection = some (.start 100) ∧
        l₂.incoming = answer ++ [] ∧
        l₂.journal = [.called 0 (.ask (.check "q"))] ∧ l₂.asked = [(0, .check "q")] ∧
        l₂.trace = [.arrived frame, .applied (.check "q") (.available false), .written answer] := by
    have harrive : Session.Step (Store.Answers FileOp.Performs) l₁.conversation [.arrived frame]
        ⟨fed, Session.idleStore, 0, false, .looking⟩ := by
      rw [hconversation₁]
      exact .arrive (by simp [Session.Conversation.start]) rfl
    have hreached := hasked.tail (.reach houtgoing₁ harrive)
    have hserved := (((hreached.tail (.serve rfl (.await rfl rfl))).tail (.serve rfl (.wake rfl htake))).tail
      (.serve rfl (.apply rfl hrun))).tail (.serve rfl (.write rfl hreply))
    refine ⟨_, hserved, hcall₁, hconnection₁, ?_, hrest₁.1, hrest₁.2.1, ?_⟩
    · simp [hincoming₁, Session.written]
    · simp [hrest₁.2.2]
  -- and the call takes the reply, which ends it.
  obtain ⟨hjournal, hasked, htrace⟩ := hrest₂
  have hreceived := hserved.tail (.receive hconnection₂ hincoming₂)
  have hreplied := hreceived.tail (.work hcall₂ (.reply rfl hread))
  rw [hrelease] at hreplied
  have hreleased := hreplied.tail (.work (calls_sets_self _ _ _ _) .release)
  have hended := hreleased.tail (.finish (calls_sets_self _ _ _ _))
  have happlied : applied l₂.trace = [(.check "q", .available false)] := by simp [htrace, applied]
  refine ⟨_, replies_match hended ⟨fun id m hm => ?_, fun r m hm => ?_⟩, ?_, hasked, happlied⟩
  · simp [sets, hjournal] at hm
  · change (r, .message m) ∈ applied l₂.trace at hm
    simp [happlied] at hm
  · simp [sets]

end Line

end Client

end QueueBroker

import QueueBroker.Proofs.Client.Line

/-!
# Requests and replies on a line

While the connection is there and nobody waits for a reply, no reply is on its way: every request written was applied, and its reply
was taken. `Stage.Says` says of each stage what a call may rely on in it, `Kept` what is kept whatever happens, and from it follows
that the reply a call takes is the one that the session wrote for its own request.
-/

namespace QueueBroker.Client

open Session (arrived applied written)

variable {σ : Type} {answers : (op : RegistryOp) → σ → op.Reply → σ → Prop} {settings : SessionSettings} {now : Nat} {store : σ}
  {config : ClientConfig}

/-- What stands at a place of a list stands there in every list that begins with it. -/
theorem getElem?_of_prefix {α : Type} {as bs : List α} {a : α} {place : Nat} (h : as <+: bs) (hget : as[place]? = some a) :
    bs[place]? = some a := by
  obtain ⟨hlt, rfl⟩ := List.getElem?_eq_some_iff.1 hget
  exact List.prefix_iff_getElem?.1 h place hlt

namespace Line

variable {l l' : Line σ} {id other : Nat} {limit taken : Nat} {r r' : Receiver} {response : Response}

/-! ## Bytes on their way -/

/-- The frames of the requests that were written. -/
def Framed (limit : Nat) (l : Line σ) (frames : List Bytes) : Prop :=
  List.Forall₂ (fun (asked : Nat × Request) frame => asked.2.frame limit = .ok frame) l.asked frames

/-- What is on its way when the requests were written in whole and the client has taken some replies. -/
structure Flow (limit taken : Nat) (l : Line σ) (r : Receiver) : Prop where
  sound : r.Sound
  sameLimit : r.limit = limit
  /-- All bytes of the requests have reached the session or are on their way to it. -/
  whole : ∃ frames, l.Framed limit frames ∧ arrived l.trace ++ l.outgoing = frames.flatten
  taken_le : taken ≤ (written l.trace).length
  /-- What is there for the client to read are the replies after those. -/
  unread : r.unread ++ l.incoming = ((written l.trace).drop taken).flatten

/-- On a connection that is there the replies after the first `taken` are on their way. -/
def Flows (limit taken : Nat) (l : Line σ) : Prop :=
  ∀ r, l.connection = some r → l.Flow limit taken r

theorem flows_of_cut (h : l.connection = none) : l.Flows limit taken :=
  fun _ hr => nomatch hr.symm.trans h

theorem Flow.same (h : l.Flow limit taken r) (htrace : l'.trace = l.trace) (houtgoing : l'.outgoing = l.outgoing)
    (hincoming : l'.incoming = l.incoming) (hasked : l'.asked = l.asked) : l'.Flow limit taken r where
  sound := h.sound
  sameLimit := h.sameLimit
  whole := by simpa only [Framed, htrace, houtgoing, hasked] using h.whole
  taken_le := by
    rw [htrace]
    exact h.taken_le
  unread := by
    rw [htrace, hincoming]
    exact h.unread

theorem Flows.same (h : l.Flows limit taken) (hconnection : l'.connection = l.connection) (htrace : l'.trace = l.trace)
    (houtgoing : l'.outgoing = l.outgoing) (hincoming : l'.incoming = l.incoming) (hasked : l'.asked = l.asked) :
    l'.Flows limit taken :=
  fun r hr => (h r (hconnection ▸ hr)).same htrace houtgoing hincoming hasked

theorem Framed.write {frames : List Bytes} (h : l.Framed limit frames) {request : Request} {frame sent : Bytes}
    (hframe : request.frame limit = .ok frame) :
    Framed limit { l with outgoing := l.outgoing ++ sent, asked := l.asked ++ [(id, request)] } (frames ++ [frame]) :=
  List.rel_append h (.cons hframe .nil)

/-- A request that is written in whole is on its way with the others. -/
theorem Flow.write (h : l.Flow limit taken r) {request : Request} {frame : Bytes} (hframe : request.frame limit = .ok frame) :
    Flow limit taken { l with outgoing := l.outgoing ++ frame, asked := l.asked ++ [(id, request)] } r where
  sound := h.sound
  sameLimit := h.sameLimit
  whole := by
    obtain ⟨frames, hframed, hwhole⟩ := h.whole
    refine ⟨frames ++ [frame], hframed.write hframe, ?_⟩
    rw [List.flatten_append, List.flatten_singleton, ← hwhole, List.append_assoc]
  taken_le := h.taken_le
  unread := h.unread

/-- What the session and the bytes that it got or will get are for. -/
structure Served (answers : (op : RegistryOp) → σ → op.Reply → σ → Prop) (settings : SessionSettings) (now : Nat) (store : σ)
    (limit : Nat) (l : Line σ) : Prop where
  steps : Session.Steps answers (.start settings now store) l.trace l.conversation
  sent : ∃ frames, l.Framed limit frames ∧ arrived l.trace ++ l.outgoing <+: frames.flatten
  known : ∀ asked ∈ l.asked, .called asked.1 (.ask asked.2) ∈ l.journal

/-- A request that is written, in whole or in part, comes after the others. -/
theorem Served.write (h : l.Served answers settings now store limit) (hflow : l.Flow limit taken r) {request : Request}
    {frame sent : Bytes} (hcalled : .called id (.ask request) ∈ l.journal) (hframe : request.frame limit = .ok frame)
    (hsent : sent <+: frame) :
    Served answers settings now store limit { l with outgoing := l.outgoing ++ sent, asked := l.asked ++ [(id, request)] } where
  steps := h.steps
  sent := by
    obtain ⟨frames, hframed, hwhole⟩ := hflow.whole
    refine ⟨frames ++ [frame], hframed.write hframe, ?_⟩
    rw [List.flatten_append, List.flatten_singleton, ← hwhole, ← List.append_assoc]
    exact (List.prefix_append_right_inj _).2 hsent
  known asked hmem := by
    rcases List.mem_append.1 hmem with hmem | hmem
    · exact h.known asked hmem
    · cases List.mem_singleton.1 hmem
      exact hcalled

/-- Bytes that reach the session are still those of the requests. -/
theorem arrived_reach {chunk rest : Bytes} (houtgoing : l.outgoing = chunk ++ rest) :
    arrived (l.trace ++ [.arrived chunk]) ++ rest = arrived l.trace ++ l.outgoing := by
  rw [Session.arrived_append, houtgoing, ← List.append_assoc]
  simp [arrived]

theorem arrived_serve {events : List Session.Event} (hcalm : arrived events = []) : arrived (l.trace ++ events) = arrived l.trace := by
  rw [Session.arrived_append, hcalm, List.append_nil]

/-- Bytes that reach the client were on their way to it. -/
theorem Flow.receive (h : l.Flow limit taken r) {chunk rest : Bytes} (hincoming : l.incoming = chunk ++ rest) :
    Flow limit taken { l with connection := some (r.feed chunk), incoming := rest } (r.feed chunk) where
  sound := h.sound.feed chunk
  sameLimit := h.sameLimit
  whole := h.whole
  taken_le := h.taken_le
  unread := by
    rw [Receiver.unread_feed, List.append_assoc, ← hincoming]
    exact h.unread

/-- Looking for a reply that is not complete takes nothing. -/
theorem Flow.look (h : l.Flow limit taken r) (hnext : r.next Response.parse = (.ok none, r')) :
    Flow limit taken { l with connection := some r' } r' := by
  obtain ⟨hsound, hlimit, hunread⟩ := Receiver.of_next_eq_none h.sound hnext
  refine ⟨hsound, hlimit.trans h.sameLimit, h.whole, h.taken_le, ?_⟩
  rw [hunread]
  exact h.unread

theorem Flow.reach (h : l.Flow limit taken r) {chunk rest : Bytes} (houtgoing : l.outgoing = chunk ++ rest)
    (conversation : Session.Conversation σ) :
    Flow limit taken { l with outgoing := rest, conversation, trace := l.trace ++ [.arrived chunk] } r := by
  have hwritten : written (l.trace ++ [.arrived chunk]) = written l.trace := by simp [written]
  obtain ⟨frames, hframed, hwhole⟩ := h.whole
  refine ⟨h.sound, h.sameLimit, ⟨frames, hframed, (arrived_reach houtgoing).trans hwhole⟩, ?_, ?_⟩
  · rw [hwritten]
    exact h.taken_le
  · rw [hwritten]
    exact h.unread

/-- The replies that the session writes come after those that are on their way. -/
theorem Flow.serve (h : l.Flow limit taken r) {events : List Session.Event} (hcalm : arrived events = [])
    (conversation : Session.Conversation σ) :
    Flow limit taken { l with incoming := l.incoming ++ (written events).flatten, conversation, trace := l.trace ++ events } r := by
  obtain ⟨frames, hframed, hwhole⟩ := h.whole
  refine ⟨h.sound, h.sameLimit, ⟨frames, hframed, (arrived_serve hcalm).symm ▸ hwhole⟩, ?_, ?_⟩
  · rw [Session.written_append, List.length_append]
    exact Nat.le_add_right_of_le h.taken_le
  · rw [Session.written_append, List.drop_append_of_le_length h.taken_le, List.flatten_append, ← List.append_assoc, h.unread]

theorem Served.reach (h : l.Served answers settings now store limit) {chunk rest : Bytes} {conversation : Session.Conversation σ}
    (houtgoing : l.outgoing = chunk ++ rest) (hstep : Session.Step answers l.conversation [.arrived chunk] conversation) :
    Served answers settings now store limit { l with outgoing := rest, conversation, trace := l.trace ++ [.arrived chunk] } where
  steps := h.steps.step hstep
  sent := by
    obtain ⟨frames, hframed, hsent⟩ := h.sent
    exact ⟨frames, hframed, (arrived_reach houtgoing).symm ▸ hsent⟩
  known := h.known

theorem Served.serve (h : l.Served answers settings now store limit) {events : List Session.Event}
    {conversation : Session.Conversation σ} (hcalm : arrived events = [])
    (hstep : Session.Step answers l.conversation events conversation) :
    Served answers settings now store limit
      { l with incoming := l.incoming ++ (written events).flatten, conversation, trace := l.trace ++ events } where
  steps := h.steps.step hstep
  sent := by
    obtain ⟨frames, hframed, hsent⟩ := h.sent
    exact ⟨frames, hframed, (arrived_serve hcalm).symm ▸ hsent⟩
  known := h.known

/-- The requests that were applied are the first of those that were written. -/
theorem Served.applied_prefix (h : Served answers settings now store limit l) (hplain : l.Plain) :
    (applied l.trace).map Prod.fst <+: l.asked.map Prod.snd := by
  obtain ⟨frames, hframed, later, hlater⟩ := h.sent
  have hrequests : ∀ asked ∈ l.asked, ∀ m, asked.2 = .send m → m.Plain := by
    intro asked hmem m hm
    exact hplain.sent asked.1 m (hm ▸ h.known asked hmem)
  have hmade : List.Forall₂ (Frame.MadeFor Request.parse limit) (l.asked.map Prod.snd) frames := by
    rw [List.forall₂_map_left_iff]
    refine ((List.forall₂_and_left _ _).2 ⟨hrequests, hframed⟩).imp ?_
    rintro asked frame ⟨hmessage, hframe⟩
    exact Request.madeFor_frame hmessage hframe
  have hdocuments := Frame.documents_prefix_of_frames hmade settings.maxFrameLength
  rw [← hlater, List.append_assoc] at hdocuments
  exact (Session.serves_in_order h.steps (l.outgoing ++ later)).requests.trans hdocuments

/-- The request at a place of those that were written is at this place of those that were applied, if any is. -/
theorem Served.request_eq (h : Served answers settings now store limit l) (hplain : l.Plain) {place : Nat}
    {request request' : Request} (happlied : (applied l.trace)[place]? = some (request', response))
    (hasked : l.asked[place]? = some (id, request)) : request' = request := by
  have hfirst : ((applied l.trace).map Prod.fst)[place]? = some request' := by
    rw [List.getElem?_map, happlied]
    rfl
  have hsecond : (l.asked.map Prod.snd)[place]? = some request := by
    rw [List.getElem?_map, hasked]
    rfl
  have hsame := getElem?_of_prefix (h.applied_prefix hplain) hfirst
  exact Option.some.inj (hsame.symm.trans hsecond)

/-- The frames that were written hold the replies to the first requests that were applied. -/
theorem Served.exists_reply (h : Served answers settings now store limit l) {frame : Bytes}
    (hframe : (written l.trace)[taken]? = some frame) :
    ∃ request response, (applied l.trace)[taken]? = some (request, response) ∧
      response.frame settings.maxFrameLength = .ok frame := by
  obtain ⟨answered, missing, heq, -, hframes⟩ := (Session.serves_in_order h.steps []).replies
  obtain ⟨hwritten, rfl⟩ := List.getElem?_eq_some_iff.1 hframe
  have hanswered : taken < answered.length := hframes.length_eq ▸ hwritten
  have hresponse : ((applied l.trace).map Prod.snd)[taken]? = some answered[taken] := by
    rw [heq, List.getElem?_append_left hanswered, List.getElem?_eq_getElem hanswered]
  rw [List.getElem?_map, Option.map_eq_some_iff] at hresponse
  obtain ⟨⟨request, response⟩, happlied, hsame⟩ := hresponse
  obtain rfl : response = answered[taken] := hsame
  exact ⟨request, _, happlied, hframes.get hanswered hwritten⟩

theorem Served.written_length_le (h : Served answers settings now store limit l) (hplain : l.Plain) :
    (written l.trace).length ≤ l.asked.length := by
  obtain ⟨answered, missing, heq, -, hframes⟩ := (Session.serves_in_order h.steps []).replies
  have happlied := congrArg List.length heq
  have hasked := (h.applied_prefix hplain).length_le
  rw [List.length_map, List.length_append] at happlied
  rw [List.length_map, List.length_map] at hasked
  rw [← hframes.length_eq]
  omega

/-- The reply that a client takes is the one that the session wrote for the request that was applied last. -/
theorem Flow.take (h : l.Flow limit taken r) (hserved : l.Served answers settings now store limit) (hplain : l.Plain)
    (hlength : l.asked.length = taken + 1) (hnext : r.next Response.parse = (.ok (some response), r')) :
    (∃ request, (applied l.trace)[taken]? = some (request, response)) ∧
      Flow limit (taken + 1) { l with connection := some r' } r' := by
  obtain ⟨rest, hfirst, rfl⟩ := Receiver.of_next_eq_some h.sound hnext
  have hfirst := Frame.first_append_of_some hfirst l.incoming
  rw [h.unread] at hfirst
  have hle := hserved.written_length_le hplain
  -- There is a reply to be taken, and no other is on its way.
  obtain ⟨frame, hdrop⟩ : ∃ frame, (written l.trace).drop taken = [frame] := by
    have hlast : ((written l.trace).drop taken).length ≤ 1 := by
      rw [List.length_drop]
      omega
    match hdrop : (written l.trace).drop taken with
    | [] =>
      rw [hdrop] at hfirst
      cases hfirst
    | [frame] => exact ⟨frame, rfl⟩
    | _ :: _ :: _ =>
      rw [hdrop] at hlast
      simp at hlast
  have hframe : (written l.trace)[taken]? = some frame := by
    rw [← List.head?_drop, hdrop]
    rfl
  obtain ⟨request, response', happlied, hmade⟩ := hserved.exists_reply hframe
  have hmessage : ∀ m, response' = .message m → m.Plain := by
    rintro m rfl
    exact hplain.taken request m (List.mem_of_getElem? happlied)
  rw [hdrop, List.flatten_singleton, ← List.append_nil frame] at hfirst
  obtain ⟨rfl, hrest⟩ := (Response.madeFor_frame hmessage hmade).of_first_append hfirst
  refine ⟨⟨request, happlied⟩, (fun _ hannounced => nomatch hannounced), h.sameLimit, h.whole, ?_, ?_⟩
  · exact (List.getElem?_eq_some_iff.1 hframe).1
  · rw [← List.drop_drop, hdrop]
    exact hrest

end Line

/-! ## What calls rely on -/

/-- What is true of a line, of the call `id`, by how the call went. -/
def Verdict.Holds {σ : Type} (l : Line σ) (id : Nat) (call : Call) : Verdict → Prop
  | refused => l.connection = none
  | failed => l.connection = none
  | closed => l.connection = none
  | replied response => ∃ (request : Request) (place : Nat), call = .ask request ∧ l.asked[place]? = some (id, request) ∧
      (applied l.trace)[place]? = some (request, response)

/-- What is true of a line, of the call `id`, by how far the call has come. -/
def Stage.Says {σ : Type} (limit : Nat) (l : Line σ) (id : Nat) (call : Call) : Stage → Prop
  | waiting => l.holder ≠ some id ∧ id ∉ l.asked.map Prod.fst
  | holding => l.holder = some id ∧ id ∉ l.asked.map Prod.fst ∧ l.Flows limit l.asked.length
  | ready => l.holder = some id ∧ id ∉ l.asked.map Prod.fst ∧ l.connection.isSome ∧ l.Flows limit l.asked.length
  | asked => l.holder = some id ∧ ∃ before request, call = .ask request ∧ l.asked = before ++ [(id, request)] ∧
      l.Flows limit before.length
  | broken => l.holder = some id
  | closing => l.holder = some id
  | settled verdict => l.holder = some id ∧ l.Flows limit l.asked.length ∧ verdict.Holds l id call
  | done verdict => l.holder ≠ some id ∧ verdict.Holds l id call

theorem Verdict.Holds.mono {σ : Type} {l l' : Line σ} {id : Nat} {call : Call} {verdict : Verdict} (h : verdict.Holds l id call)
    (honward : l.Onward l') : verdict.Holds l' id call := by
  cases verdict with
  | refused => exact honward.cut h
  | failed => exact honward.cut h
  | closed => exact honward.cut h
  | replied response =>
    obtain ⟨request, place, hcall, hasked, happlied⟩ := h
    exact ⟨request, place, hcall, getElem?_of_prefix honward.asked hasked, getElem?_of_prefix (honward.trace.filterMap _) happlied⟩

/-- What is true of a call in a stage stays true while nobody makes a step and bytes travel. -/
theorem Stage.Says.carry {σ : Type} {l l' : Line σ} {id : Nat} {call : Call} {stage : Stage} {limit : Nat}
    (h : stage.Says limit l id call) (honward : l.Onward l') (hholder : l'.holder = l.holder) (hasked : l'.asked = l.asked)
    (hconnection : l.connection.isSome → l'.connection.isSome) (hflows : ∀ taken, l.Flows limit taken → l'.Flows limit taken) :
    stage.Says limit l' id call := by
  cases stage with
  | waiting => exact ⟨hholder ▸ h.1, hasked ▸ h.2⟩
  | holding => exact ⟨hholder.trans h.1, hasked ▸ h.2.1, hasked ▸ hflows _ h.2.2⟩
  | ready => exact ⟨hholder.trans h.1, hasked ▸ h.2.1, hconnection h.2.2.1, hasked ▸ hflows _ h.2.2.2⟩
  | asked =>
    obtain ⟨hheld, before, request, hcall, hlast, hbefore⟩ := h
    exact ⟨hholder.trans hheld, before, request, hcall, hasked.trans hlast, hflows _ hbefore⟩
  | broken => exact hholder.trans h
  | closing => exact hholder.trans h
  | settled verdict => exact ⟨hholder.trans h.1, hasked ▸ hflows _ h.2.1, h.2.2.mono honward⟩
  | done verdict => exact ⟨hholder ▸ h.1, h.2.mono honward⟩

/-- What is true of a call that does not hold the connection stays true while another makes a step. -/
theorem Stage.Says.elsewhere {σ : Type} {l l' : Line σ} {id : Nat} {call : Call} {stage : Stage} {limit : Nat}
    (h : stage.Says limit l id call) (honward : l.Onward l') (hne : l.holder ≠ some id) (hne' : l'.holder ≠ some id)
    (hasked : id ∈ l'.asked.map Prod.fst → id ∈ l.asked.map Prod.fst) : stage.Says limit l' id call := by
  cases stage with
  | waiting => exact ⟨hne', fun hmem => h.2 (hasked hmem)⟩
  | done verdict => exact ⟨hne', h.2.mono honward⟩
  | holding => exact absurd h.1 hne
  | ready => exact absurd h.1 hne
  | asked => exact absurd h.1 hne
  | broken => exact absurd h hne
  | closing => exact absurd h hne
  | settled verdict => exact absurd h.1 hne

/-- A call that makes a step holds the connection, or nobody does. -/
theorem Stage.Says.alone {σ : Type} {l l' : Line σ} {id : Nat} {call : Call} {stage : Stage} {limit : Nat} {config : ClientConfig}
    {op : ClientOp} {reply : op.Reply} (h : stage.Says limit l id call) (hasks : stage.Asks config call op)
    (hans : Line.Answers id call op l reply l') : l.holder = none ∨ l.holder = some id := by
  cases hasks with
  | hold =>
    cases hans with
    | hold hnone => exact Or.inl hnone
  | look => exact Or.inr h.1
  | write => exact Or.inr h.1
  | forgo => exact Or.inr h.1
  | close => exact Or.inr h.1
  | await => exact Or.inr h.1
  | drop => exact Or.inr h
  | forget => exact Or.inr h
  | release => exact Or.inr h.1

namespace Line

variable {l l' : Line σ} {id other : Nat} {limit : Nat} {call : Call} {stage : Stage} {op : ClientOp} {reply : op.Reply}

/-- What is kept whatever happens on a line. -/
structure Kept (answers : (op : RegistryOp) → σ → op.Reply → σ → Prop) (settings : SessionSettings) (now : Nat) (store : σ)
    (config : ClientConfig) (l : Line σ) : Prop where
  served : l.Served answers settings now store config.maxFrameLength.toNat
  distinct : (l.asked.map Prod.fst).Nodup
  unique : ∀ id call call', .called id call ∈ l.journal → .called id call' ∈ l.journal → call = call'
  holder : ∀ id, l.holder = some id → ∃ working, l.calls id = some working
  free : l.holder = none → l.Flows config.maxFrameLength.toNat l.asked.length
  calls : ∀ id working, l.calls id = some working → .called id working.call ∈ l.journal ∧
    ∃ stage, working.call.Leads config working.left stage working.call.Ends ∧
      stage.Says config.maxFrameLength.toNat l id working.call
  results : ∀ id result, .ended id result ∈ l.journal → ∃ call verdict, .called id call ∈ l.journal ∧
    verdict.Holds l id call ∧ call.Comes verdict result

/-- What a step of a call comes to, for the line and for the call. -/
structure Advances (answers : (op : RegistryOp) → σ → op.Reply → σ → Prop) (settings : SessionSettings) (now : Nat) (store : σ)
    (limit : Nat) (id : Nat) (call : Call) (op : ClientOp) (reply : op.Reply) (stage : Stage) (l l' : Line σ) : Prop where
  served : l'.Served answers settings now store limit
  distinct : (l'.asked.map Prod.fst).Nodup
  asked : ∀ other, other ≠ id → other ∈ l'.asked.map Prod.fst → other ∈ l.asked.map Prod.fst
  elsewhere : ∀ other, other ≠ id → l'.holder ≠ some other
  free : l'.holder = none → l'.Flows limit l'.asked.length
  stage : ∃ stage', stage.Moves op reply stage' ∧ stage'.Says limit l' id call

theorem Kept.advances_of_same (h : l.Kept answers settings now store config) (hconversation : l'.conversation = l.conversation)
    (htrace : l'.trace = l.trace) (houtgoing : l'.outgoing = l.outgoing) (hasked : l'.asked = l.asked)
    (hjournal : l'.journal = l.journal) (hholder : l'.holder = none ∨ l'.holder = some id)
    (hfree : l'.holder = none → l'.Flows config.maxFrameLength.toNat l'.asked.length)
    (hstage : ∃ stage', stage.Moves op reply stage' ∧ stage'.Says config.maxFrameLength.toNat l' id call) :
    Advances answers settings now store config.maxFrameLength.toNat id call op reply stage l l' where
  served :=
    { steps := by
        rw [htrace, hconversation]
        exact h.served.steps
      sent := by simpa only [Framed, htrace, houtgoing, hasked] using h.served.sent
      known := by
        rw [hasked, hjournal]
        exact h.served.known }
  distinct := hasked ▸ h.distinct
  asked other _ hmem := hasked ▸ hmem
  elsewhere other hne heq := by
    rcases hholder with hnone | hsome
    · cases hnone.symm.trans heq
    · exact hne (Option.some.inj (heq.symm.trans hsome))
  free := hfree
  stage := hstage

/-- The request that a call has written is the last of those that were written. -/
theorem Kept.advances_write (h : l.Kept answers settings now store config) {request : Request} {frame sent : Bytes}
    {r : Receiver} (hflow : l.Flow config.maxFrameLength.toNat l.asked.length r)
    (hcalled : .called id (.ask request) ∈ l.journal) (hframe : request.frame config.maxFrameLength.toNat = .ok frame)
    (hsent : sent <+: frame) (hholder : l.holder = some id) (hfresh : id ∉ l.asked.map Prod.fst)
    (hstage : ∃ stage', stage.Moves op reply stage' ∧ stage'.Says config.maxFrameLength.toNat
      { l with outgoing := l.outgoing ++ sent, asked := l.asked ++ [(id, request)] } id call) :
    Advances answers settings now store config.maxFrameLength.toNat id call op reply stage l
      { l with outgoing := l.outgoing ++ sent, asked := l.asked ++ [(id, request)] } where
  served := h.served.write hflow hcalled hframe hsent
  distinct := by
    rw [List.map_append, List.nodup_append]
    refine ⟨h.distinct, List.pairwise_singleton _ _, fun other hmem last hlast heq => hfresh ?_⟩
    obtain rfl : last = id := List.mem_singleton.1 hlast
    exact heq ▸ hmem
  asked other hne hmem := by
    rw [List.map_append, List.map_singleton, List.mem_append, List.mem_singleton] at hmem
    exact hmem.resolve_right hne
  elsewhere other hne heq := hne (Option.some.inj (heq.symm.trans hholder))
  free hnone := nomatch hnone.symm.trans hholder
  stage := hstage

/-- A call that holds the connection keeps the others from it, whatever becomes of the connection. -/
theorem Kept.advances_holding (h : l.Kept answers settings now store config) (connection : Option Receiver)
    (hholder : l.holder = some id)
    (hstage : ∃ stage', stage.Moves op reply stage' ∧ stage'.Says config.maxFrameLength.toNat { l with connection } id call) :
    Advances answers settings now store config.maxFrameLength.toNat id call op reply stage l { l with connection } :=
  h.advances_of_same rfl rfl rfl rfl rfl (Or.inr hholder) (fun hnone => nomatch hnone.symm.trans hholder) hstage

/-- A connection that is dropped has no replies on it. -/
theorem Kept.advances_drop (h : l.Kept answers settings now store config) (hholder : l.holder = some id) {verdict : Verdict}
    (hmoves : stage.Moves op reply (.settled verdict)) (hholds : verdict.Holds { l with connection := none } id call) :
    Advances answers settings now store config.maxFrameLength.toNat id call op reply stage l { l with connection := none } :=
  h.advances_holding none hholder ⟨_, hmoves, hholder, flows_of_cut rfl, hholds⟩

/-- The reply that a call takes is that to its own request, and no other is left on the connection. -/
theorem Kept.advances_reply (h : l.Kept answers settings now store config) (hplain : l.Plain) {before : List (Nat × Request)}
    {request : Request} {r r' : Receiver} {response : Response} (hholder : l.holder = some id)
    (hasked : l.asked = before ++ [(id, request)]) (hflow : l.Flow config.maxFrameLength.toNat before.length r)
    (hnext : r.next Response.parse = (.ok (some response), r')) :
    Advances answers settings now store config.maxFrameLength.toNat id (.ask request) .awaitReply (.arrived (some response)) .asked l
      { l with connection := some r' } := by
  have hlength : l.asked.length = before.length + 1 := by rw [hasked, List.length_append, List.length_singleton]
  have hlast : l.asked[before.length]? = some (id, request) := by
    rw [hasked]
    exact List.getElem?_concat_length
  obtain ⟨⟨request', happlied⟩, hflow'⟩ := hflow.take h.served hplain hlength hnext
  obtain rfl := h.served.request_eq hplain happlied hlast
  refine h.advances_holding (some r') hholder
    ⟨.settled (.replied response), .replied, hholder, ?_, request', before.length, rfl, hlast, happlied⟩
  rintro _ ⟨⟩
  exact hlength ▸ hflow'

/-- Every step that a call makes leads it on, and keeps what the others rely on. -/
theorem Kept.advances (h : l.Kept answers settings now store config) (hplain : l.connection.isSome → l.Plain) (hcalled : .called id call ∈ l.journal)
    (hrely : stage.Says config.maxFrameLength.toNat l id call) (hasks : stage.Asks config call op)
    (hans : Answers id call op l reply l') :
    Advances answers settings now store config.maxFrameLength.toNat id call op reply stage l l' := by
  cases hasks with
  | hold =>
    cases hans with
    | hold hnone =>
      have hflows := h.free hnone
      refine h.advances_of_same rfl rfl rfl rfl rfl (Or.inr rfl) nofun ⟨.holding, .held, rfl, hrely.2, ?_⟩
      exact hflows.same rfl rfl rfl rfl rfl
  | look =>
    cases hans with
    | isConnected =>
      obtain ⟨hholder, hfresh, hflows⟩ := hrely
      refine h.advances_holding l.connection hholder ?_
      cases hconnection : l.connection.isSome with
      | true => exact ⟨.ready, .connected, hholder, hfresh, hconnection, hflows⟩
      | false => exact ⟨.settled .refused, .unconnected, hholder, hflows, Option.not_isSome_iff_eq_none.1 (by simp [hconnection])⟩
  | @write request frame hcall hframe =>
    obtain ⟨hholder, hfresh, hconnection, hflows⟩ := hrely
    obtain ⟨r, hr⟩ := Option.isSome_iff_exists.1 hconnection
    have hflow := hflows r hr
    subst hcall
    cases hans with
    | write hcall =>
      cases hcall
      refine h.advances_write hflow hcalled hframe List.prefix_rfl hholder hfresh ⟨.asked, .wrote, hholder, l.asked, request, rfl, rfl, ?_⟩
      exact fun r' hr' => (hflows r' hr').write hframe
    | writeFails fault sent hcall =>
      cases hcall
      exact h.advances_write hflow hcalled hframe (List.take_prefix _ _) hholder hfresh ⟨.broken, .unwritten trivial, hholder⟩
    | writeLate sent hcall =>
      cases hcall
      exact h.advances_write hflow hcalled hframe (List.take_prefix _ _) hholder hfresh ⟨.broken, .stuck, hholder⟩
  | forgo =>
    cases hans with
    | drop => exact h.advances_drop hrely.1 .forwent rfl
  | close hcall =>
    cases hans with
    | close => exact h.advances_holding l.connection hrely.1 ⟨.closing, .closed nofun, hrely.1⟩
    | closeFails fault =>
      refine h.advances_holding l.connection hrely.1 ⟨.closing, .closed ?_, hrely.1⟩
      rintro _ ⟨⟩
      trivial
  | await =>
    obtain ⟨hholder, before, request, rfl, hasked, hflows⟩ := hrely
    cases hans with
    | reply hr hnext => exact h.advances_reply (hplain (hr ▸ rfl)) hholder hasked (hflows _ hr) hnext
    | badReply hr hnext =>
      refine h.advances_holding _ hholder ⟨.broken, .unread ?_, hholder⟩
      rcases Receiver.of_next_eq_error hnext with rfl | ⟨failure, rfl⟩ <;> trivial
    | replyFails fault => exact h.advances_holding l.connection hholder ⟨.broken, .unread trivial, hholder⟩
    | hungUp => exact h.advances_holding l.connection hholder ⟨.broken, .hungUp, hholder⟩
    | late => exact h.advances_holding l.connection hholder ⟨.broken, .late, hholder⟩
  | drop =>
    cases hans with
    | drop => exact h.advances_drop hrely .dropped rfl
  | forget =>
    cases hans with
    | drop => exact h.advances_drop hrely .forgot rfl
  | @release verdict =>
    cases hans with
    | release =>
      obtain ⟨hholder, hflows, hholds⟩ := hrely
      refine h.advances_of_same rfl rfl rfl rfl rfl (Or.inl rfl) (fun _ => hflows.same rfl rfl rfl rfl rfl) ?_
      exact ⟨.done verdict, .released, nofun, hholds.mono ⟨fun hcut => hcut, List.prefix_rfl, List.prefix_rfl, List.prefix_rfl⟩⟩

theorem Flows.sets {taken : Nat} (h : l.Flows limit taken) (working : Option Working) (events : List Event) :
    (l.sets id working events).Flows limit taken :=
  h.same rfl rfl rfl rfl rfl

theorem says_sets (h : stage.Says limit l other call) (working : Option Working) (events : List Event) :
    stage.Says limit (l.sets id working events) other call :=
  h.carry (onward_sets _ _ _ _) rfl rfl (fun hsome => hsome) fun _ hflows => hflows.sets _ _

theorem Served.sets (h : l.Served answers settings now store limit) (working : Option Working) (events : List Event) :
    (l.sets id working events).Served answers settings now store limit where
  steps := h.steps
  sent := h.sent
  known asked hmem := List.mem_append_left _ (h.known asked hmem)

theorem Answers.calls_eq (h : Answers id call op l reply l') : l'.calls = l.calls := by
  cases h <;> rfl

theorem Answers.journal_eq (h : Answers id call op l reply l') : l'.journal = l.journal := by
  cases h <;> rfl

/-- A new call changes nothing for the others. -/
theorem Kept.called (h : l.Kept answers settings now store config) (hfresh : ∀ other, .called id other ∉ l.journal) (call : Call) :
    (l.sets id (some ⟨call, call.program config⟩) [.called id call]).Kept answers settings now store config where
  served := h.served.sets _ _
  distinct := h.distinct
  unique other call₁ call₂ h₁ h₂ := by
    rcases List.mem_append.1 h₁ with h₁ | h₁ <;> rcases List.mem_append.1 h₂ with h₂ | h₂
    · exact h.unique other call₁ call₂ h₁ h₂
    · cases List.mem_singleton.1 h₂
      exact absurd h₁ (hfresh _)
    · cases List.mem_singleton.1 h₁
      exact absurd h₂ (hfresh _)
    · cases List.mem_singleton.1 h₁
      cases List.mem_singleton.1 h₂
      rfl
  holder other hother := by
    by_cases hne : other = id
    · subst hne
      exact ⟨_, calls_sets_self _ _ _ _⟩
    · rw [calls_sets_of_ne hne]
      exact h.holder other hother
  free hnone := (h.free hnone).sets _ _
  calls other working hworking := by
    by_cases hne : other = id
    · subst hne
      cases (calls_sets_self l other _ _).symm.trans hworking
      refine ⟨List.mem_append_right _ (List.mem_singleton_self _), .waiting, call.leads_program config, ?_, fun hmem => ?_⟩
      · intro hheld
        obtain ⟨old, hold⟩ := h.holder other hheld
        exact hfresh _ (h.calls other old hold).1
      · obtain ⟨⟨_, request⟩, hasked, rfl⟩ := List.mem_map.1 hmem
        exact hfresh _ (h.served.known _ hasked)
    · rw [calls_sets_of_ne hne] at hworking
      obtain ⟨hcalled, stage, hleads, hrely⟩ := h.calls other working hworking
      exact ⟨List.mem_append_left _ hcalled, stage, hleads, says_sets hrely _ _⟩
  results other result hended := by
    rcases List.mem_append.1 hended with hended | hended
    · obtain ⟨call', verdict, hcalled, hholds, hcomes⟩ := h.results other result hended
      exact ⟨call', verdict, List.mem_append_left _ hcalled, hholds.mono (onward_sets _ _ _ _), hcomes⟩
    · cases List.mem_singleton.1 hended

/-- A call that ends returns what comes of how it went. -/
theorem Kept.finish (h : l.Kept answers settings now store config) {result : Result}
    (hcall : l.calls id = some ⟨call, .done result⟩) :
    (l.sets id none [.ended id result]).Kept answers settings now store config := by
  obtain ⟨hcalled, _, ⟨verdict, rfl, hcomes⟩, hheld, hholds⟩ := h.calls id _ hcall
  exact {
    served := h.served.sets _ _
    distinct := h.distinct
    unique := fun other call₁ call₂ h₁ h₂ => by
      rcases List.mem_append.1 h₁ with h₁ | h₁
      · rcases List.mem_append.1 h₂ with h₂ | h₂
        · exact h.unique other call₁ call₂ h₁ h₂
        · cases List.mem_singleton.1 h₂
      · cases List.mem_singleton.1 h₁
    holder := fun other hother => by
      have hne : other ≠ id := by
        rintro rfl
        exact hheld hother
      rw [calls_sets_of_ne hne]
      exact h.holder other hother
    free := fun hnone => (h.free hnone).sets _ _
    calls := fun other working hworking => by
      have hne : other ≠ id := by
        rintro rfl
        cases (calls_sets_self l other _ _).symm.trans hworking
      rw [calls_sets_of_ne hne] at hworking
      obtain ⟨hcalled, stage, hleads, hrely⟩ := h.calls other working hworking
      exact ⟨List.mem_append_left _ hcalled, stage, hleads, says_sets hrely _ _⟩
    results := fun other result' hended => by
      rcases List.mem_append.1 hended with hended | hended
      · obtain ⟨call', verdict', hcalled', hholds', hcomes'⟩ := h.results other result' hended
        exact ⟨call', verdict', List.mem_append_left _ hcalled', hholds'.mono (onward_sets _ _ _ _), hcomes'⟩
      · cases List.mem_singleton.1 hended
        exact ⟨call, verdict, List.mem_append_left _ hcalled, hholds.mono (onward_sets _ _ _ _), hcomes⟩ }

/-- A step of a call keeps what all rely on. -/
theorem Kept.work (h : l.Kept answers settings now store config) (hplain : l.connection.isSome → l.Plain) {next : op.Reply → ClientProgram Result}
    (hcall : l.calls id = some ⟨call, .ask op next⟩) (hans : Answers id call op l reply l') :
    (l'.sets id (some ⟨call, next reply⟩) []).Kept answers settings now store config := by
  obtain ⟨hcalled, stage, ⟨hasks, hnext⟩, hrely⟩ := h.calls id _ hcall
  have hadvances := h.advances hplain hcalled hrely hasks hans
  obtain ⟨stage', hmoves, hrely'⟩ := hadvances.stage
  have honward := hans.onward
  have hjournal : (l'.sets id (some ⟨call, next reply⟩) []).journal = l.journal := by
    rw [sets, List.append_nil]
    exact hans.journal_eq
  have hcalls {other : Nat} (hne : other ≠ id) : (l'.sets id (some ⟨call, next reply⟩) []).calls other = l.calls other := by
    rw [calls_sets_of_ne hne, hans.calls_eq]
  exact {
    served := hadvances.served.sets _ _
    distinct := hadvances.distinct
    unique := hjournal ▸ h.unique
    holder := fun other hother => by
      by_cases hne : other = id
      · subst hne
        exact ⟨_, calls_sets_self _ _ _ _⟩
      · exact absurd hother (hadvances.elsewhere other hne)
    free := fun hnone => (hadvances.free hnone).sets _ _
    calls := fun other working hworking => by
      rw [hjournal]
      by_cases hne : other = id
      · subst hne
        cases (calls_sets_self l' other _ _).symm.trans hworking
        exact ⟨hcalled, stage', hnext reply stage' hmoves, says_sets hrely' _ _⟩
      · rw [hcalls hne] at hworking
        obtain ⟨hcalled', stage₁, hleads, hrely₁⟩ := h.calls other working hworking
        have hapart : l.holder ≠ some other := by
          rcases hrely.alone hasks hans with hnone | hsome
          · rw [hnone]
            nofun
          · rw [hsome]
            exact fun heq => hne (Option.some.inj heq).symm
        exact ⟨hcalled', stage₁, hleads,
          says_sets (hrely₁.elsewhere honward hapart (hadvances.elsewhere other hne) (hadvances.asked other hne)) _ _⟩
    results := fun other result hended => by
      rw [hjournal] at hended ⊢
      obtain ⟨call', verdict, hcalled', hholds, hcomes⟩ := h.results other result hended
      exact ⟨call', verdict, hcalled', hholds.mono (honward.trans (onward_sets _ _ _ _)), hcomes⟩ }

/-- Bytes that travel, and what the session does with them, keep what the calls rely on. -/
theorem Kept.carry (h : l.Kept answers settings now store config) (honward : l.Onward l') (hcalls : l'.calls = l.calls)
    (hholder : l'.holder = l.holder) (hjournal : l'.journal = l.journal) (hasked : l'.asked = l.asked)
    (hconnection : l.connection.isSome → l'.connection.isSome)
    (hserved : l'.Served answers settings now store config.maxFrameLength.toNat)
    (hflows : ∀ taken, l.Flows config.maxFrameLength.toNat taken → l'.Flows config.maxFrameLength.toNat taken) :
    l'.Kept answers settings now store config where
  served := hserved
  distinct := hasked ▸ h.distinct
  unique := hjournal ▸ h.unique
  holder := by
    rw [hholder, hcalls]
    exact h.holder
  free hnone := hasked ▸ hflows _ (h.free (hholder ▸ hnone))
  calls id working hworking := by
    rw [hcalls] at hworking
    obtain ⟨hcalled, stage, hleads, hrely⟩ := h.calls id working hworking
    exact ⟨hjournal ▸ hcalled, stage, hleads, hrely.carry honward hholder hasked hconnection hflows⟩
  results id result hended := by
    rw [hjournal] at hended ⊢
    obtain ⟨call, verdict, hcalled, hholds, hcomes⟩ := h.results id result hended
    exact ⟨call, verdict, hcalled, hholds.mono honward, hcomes⟩

/-- Whatever happens, all of this is kept. What the messages are like matters only as long as there is a connection. -/
theorem Kept.step (h : l.Kept answers settings now store config) (hplain : l.connection.isSome → l.Plain) (hgoes : Goes answers config l l') :
    l'.Kept answers settings now store config := by
  have honward := hgoes.onward
  cases hgoes with
  | call id call hfresh => exact h.called hfresh call
  | work hcall hans => exact h.work hplain hcall hans
  | finish hcall => exact h.finish hcall
  | @receive r chunk rest hr hincoming =>
    refine h.carry honward rfl rfl rfl rfl (fun _ => rfl) ⟨h.served.steps, h.served.sent, h.served.known⟩ ?_
    rintro taken hflows _ ⟨⟩
    exact (hflows r hr).receive hincoming
  | @look r r' hr hnext =>
    refine h.carry honward rfl rfl rfl rfl (fun _ => rfl) ⟨h.served.steps, h.served.sent, h.served.known⟩ ?_
    rintro taken hflows _ ⟨⟩
    exact (hflows r hr).look hnext
  | reach houtgoing hstep =>
    refine h.carry honward rfl rfl rfl rfl (fun hsome => hsome) (h.served.reach houtgoing hstep) fun taken hflows r hr => ?_
    exact (hflows r hr).reach houtgoing _
  | serve hcalm hstep =>
    refine h.carry honward rfl rfl rfl rfl (fun hsome => hsome) (h.served.serve hcalm hstep) fun taken hflows r hr => ?_
    exact (hflows r hr).serve hcalm _

theorem kept_start (answers : (op : RegistryOp) → σ → op.Reply → σ → Prop) (config : ClientConfig) (settings : SessionSettings)
    (now : Nat) (store : σ) : (start config settings now store).Kept answers settings now store config where
  served := ⟨.none, ⟨[], .nil, List.nil_prefix⟩, nofun⟩
  distinct := .nil
  unique _ _ _ hcalled := nomatch hcalled
  holder _ hholder := nomatch hholder
  free _ := by
    rintro _ ⟨⟩
    exact ⟨Receiver.sound_start _, rfl, ⟨[], .nil, rfl⟩, Nat.le_refl 0, rfl⟩
  calls _ _ hworking := nomatch hworking
  results _ _ hended := nomatch hended

theorem Kept.later (h : l.Kept answers settings now store config) (hlater : Later answers config l l') (hplain : l'.Plain) :
    l'.Kept answers settings now store config := by
  induction hlater with
  | refl => exact h
  | tail _ hgoes ih =>
    have hbefore := hgoes.onward.plain hplain
    exact (ih hbefore).step (fun _ => hbefore) hgoes

end Line

end QueueBroker.Client

import QueueBroker.Proofs.Session.Clock

/-!
# How sessions end

A session is over because the broker ends, because a reply could not be written, because nothing was asked for too long, or because
of what its client said. In the last case its outcome is a function of the stream alone: it is good if all that the client said
before it ended its input is complete, as far as the receiver can see, and an error otherwise.
-/

namespace QueueBroker.Session

variable {σ : Type} {answers : (op : RegistryOp) → σ → op.Reply → σ → Prop} {settings : SessionSettings} {now : Nat} {store : σ}
  {trace events : List Event} {c c' : Conversation σ} {s s' : Session}

/-- A reply that is not written is too long, or nobody is left to read it. -/
theorem unwritable_of_reply {response : Response} (h : s.reply now response = (none, s')) :
    s.peerGone = true ∨ ∀ frame, response.frame s.settings.maxFrameLength ≠ .ok frame := by
  rw [reply] at h
  cases hframe : response.frame s.settings.maxFrameLength with
  | error e =>
    right
    rintro frame ⟨⟩
  | ok frame =>
    rw [hframe] at h
    dsimp only at h
    split at h
    · rename_i hgone
      exact Or.inl hgone
    · cases h

/-! ## Why sessions end -/

/-- Why a session that was set up in a certain way ended. -/
inductive Cause (settings : SessionSettings) (trace : List Event) (c : Conversation σ) : Prop where
  | signalled : .signalled ∈ trace → Cause settings trace c
  | unwritten {response : Response} : response ∈ (applied trace).map Prod.snd →
      (c.session.peerGone = true ∨ ∀ frame, response.frame settings.maxFrameLength ≠ .ok frame) → Cause settings trace c
  | idle : settings.idleTimeout ≠ none → Cause settings trace c
  | bad {requests : List Request} {e : BrokerError} :
      Frame.Told settings.maxFrameLength Request.parse (arrived trace) requests (.error e) →
      c.session.outcome = some (.error e) → Cause settings trace c
  | drained {requests : List Request} {rest : Bytes} {outcome : Except BrokerError Unit} : c.session.inputOver = true →
      Frame.Told settings.maxFrameLength Request.parse (arrived trace) requests (.ok rest) →
      c.session.outcome = some outcome → (outcome = .ok () ↔ Frame.Unmissed settings.maxFrameLength rest) → Cause settings trace c

/-- Nothing that happens after the end changes how a session ended. -/
theorem Cause.calm (h : Cause settings trace c) (hevents : arrived events = [] ∧ applied events = [])
    (houtcome : c'.session.outcome = c.session.outcome) (hinput : c.session.inputOver = true → c'.session.inputOver = true)
    (hpeer : c.session.peerGone = true → c'.session.peerGone = true) : Cause settings (trace ++ events) c' := by
  have harrived : arrived (trace ++ events) = arrived trace := by rw [arrived_append, hevents.1, List.append_nil]
  have happlied : applied (trace ++ events) = applied trace := by rw [applied_append, hevents.2, List.append_nil]
  cases h with
  | signalled hmem => exact .signalled (List.mem_append_left _ hmem)
  | unwritten hmem hwhy => exact .unwritten (happlied ▸ hmem) (hwhy.imp_left hpeer)
  | idle hidle => exact .idle hidle
  | bad htold herror => exact .bad (harrived ▸ htold) (houtcome.trans herror)
  | drained hover htold hsome hiff => exact .drained (hinput hover) (harrived ▸ htold) (houtcome.trans hsome) hiff

/-- What is known of the end of a session while it may still come, and of its reason when it came. -/
structure Closing (settings : SessionSettings) (trace : List Event) (c : Conversation σ) : Prop where
  deadline : c.session.deadline ≠ none → settings.idleTimeout ≠ none
  cause : c.phase = .ended → Cause settings trace c

theorem deadlineFrom_ne_none (h : deadlineFrom settings now ≠ none) : settings.idleTimeout ≠ none :=
  fun hnone => h (by rw [deadlineFrom, hnone]; rfl)

theorem closing_start (settings : SessionSettings) (now : Nat) (store : σ) :
    Closing settings [] (.start settings now store) :=
  ⟨deadlineFrom_ne_none, nofun⟩

/-- Nothing that leaves a session as it is ends it. -/
theorem Closing.calm (h : Closing settings trace c) (hevents : arrived events = [] ∧ applied events = [])
    (hphase : c'.phase = c.phase) (hdeadline : c'.session.deadline = c.session.deadline)
    (houtcome : c'.session.outcome = c.session.outcome) (hinput : c.session.inputOver = true → c'.session.inputOver = true)
    (hpeer : c.session.peerGone = true → c'.session.peerGone = true) : Closing settings (trace ++ events) c' where
  deadline := hdeadline ▸ h.deadline
  cause hover := (h.cause (hphase.symm.trans hover)).calm hevents houtcome hinput hpeer

/-- A session that is over when it wakes is over for what its client said, or said too late. -/
theorem Closing.finish (h : Closing settings trace c) {taken : List Request} {outcome : Except BrokerError Unit} {r : Receiver}
    (hconsumed : Consumed settings.maxFrameLength (arrived trace) taken c.session.receiver)
    (hfinishes : c.session.Finishes c.now outcome) :
    Cause settings trace { c with session := { c.session with receiver := r, outcome := some outcome }, phase := .ended } := by
  obtain ⟨-, hlimit, before, hsplit, htold⟩ := hconsumed
  rw [← hlimit] at htold
  cases hfinishes with
  | bad hfirst => exact .bad (by rw [hsplit, ← hlimit]; exact htold.append (.fails hfirst)) rfl
  | drained hover hfirst hiff => exact .drained hover (by rw [hsplit, ← hlimit]; exact htold.append (.waits hfirst)) rfl (hlimit ▸ hiff)
  | idle _ _ hdeadline => exact .idle (h.deadline (by rw [hdeadline]; nofun))

theorem Closing.wake (h : Closing settings trace c) (hkept : Kept answers settings store trace c) (hphase : c.phase = .waiting)
    {turn : Turn} (hturn : c.session.turn false c.now = (turn, s)) :
    Closing settings trace { c with session := s.settle turn, phase := phaseAfter turn } := by
  have hconsumed := hkept.consumed (by rw [hphase]; nofun) (by rw [hphase]; rfl)
  have hwoken := woken_turn hconsumed.sound c.now
  have hturned := turned_turn hconsumed.sound c.now
  rw [hturn] at hwoken hturned
  cases hwoken with
  | wait => exact ⟨h.deadline, nofun⟩
  | serve => exact ⟨h.deadline, nofun⟩
  | finish =>
    cases hturned with
    | finish hfinishes => exact ⟨h.deadline, fun _ => h.finish hconsumed hfinishes⟩

/-- A reply that is due is that to a request that was applied. -/
theorem Kept.mem_applied (h : Kept answers settings store trace c) {response : Response} (hphase : c.phase = .replying response) :
    response ∈ (applied trace).map Prod.snd := by
  obtain ⟨answered, missing, heq, hmissing, -⟩ := h.replies
  cases hmissing with
  | none hne => exact absurd hphase (hne _)
  | failed hover => rw [hphase] at hover; cases hover
  | pending hpending =>
    rw [hphase] at hpending
    cases hpending
    rw [heq]
    exact List.mem_append_right _ (List.mem_singleton_self _)

/-- Whatever happens, a session that is over is over for a reason. -/
theorem Closing.step (h : Closing settings trace c) (hkept : Kept answers settings store trace c) (hstep : Step answers c events c') :
    Closing settings (trace ++ events) c' := by
  cases hstep with
  | arrive hne _ => exact ⟨h.deadline, fun hover => absurd hover hne⟩
  | endInput => exact h.calm ⟨rfl, rfl⟩ rfl rfl rfl (fun _ => rfl) id
  | hangUp => exact h.calm ⟨rfl, rfl⟩ rfl rfl rfl (fun _ => rfl) fun _ => rfl
  | pass _ => exact h.calm ⟨rfl, rfl⟩ rfl rfl rfl id id
  | signal => exact h.calm ⟨rfl, rfl⟩ rfl rfl rfl id id
  | await _ _ => exact ⟨h.deadline, nofun⟩
  | notice _ hsignalled hturn =>
    rw [List.append_nil]
    cases hturn
    exact ⟨h.deadline, fun _ => .signalled (hkept.signal.1 hsignalled)⟩
  | wake hphase hturn =>
    rw [List.append_nil]
    exact h.wake hkept hphase hturn
  | apply _ _ => exact ⟨h.deadline, nofun⟩
  | write hphase hreply =>
    obtain ⟨-, rfl⟩ := of_reply_eq_some hreply
    exact ⟨fun hdeadline => deadlineFrom_ne_none (hkept.sameSettings ▸ hdeadline), nofun⟩
  | fail hphase hreply =>
    rw [List.append_nil]
    have hunwritable := unwritable_of_reply hreply
    obtain ⟨e, rfl⟩ := of_reply_eq_none hreply
    rw [hkept.sameSettings] at hunwritable
    exact ⟨h.deadline, fun _ => .unwritten (hkept.mem_applied hphase) hunwritable⟩

theorem Steps.closing (h : Steps answers (.start settings now store) trace c) : Closing settings trace c := by
  induction h with
  | none => exact closing_start settings now store
  | step hsteps hstep ih => exact ih.step (hsteps.kept (kept_start answers settings now store)) hstep

/-! ## The outcome of a session -/

theorem Cause.outcome (h : Cause settings trace c) (hidle : settings.idleTimeout = none) (hsignal : .signalled ∉ trace)
    (hpeer : c.session.peerGone = false)
    (hfits : ∀ response ∈ (applied trace).map Prod.snd, ∃ frame, response.frame settings.maxFrameLength = .ok frame)
    {later : Bytes} (hlater : c.session.inputOver = true → later = []) :
    ∃ outcome, c.session.outcome = some outcome ∧
      (outcome = .ok () ↔ Frame.Complete settings.maxFrameLength Request.parse (arrived trace ++ later)) := by
  cases h with
  | signalled hmem => exact absurd hmem hsignal
  | idle hne => exact absurd hidle hne
  | unwritten hmem hwhy =>
    obtain ⟨frame, hframe⟩ := hfits _ hmem
    rcases hwhy with hgone | hlong
    · cases hpeer.symm.trans hgone
    · exact absurd hframe (hlong frame)
  | bad htold herror => exact ⟨_, herror, iff_of_false nofun (Frame.not_complete_of_told (htold.append_of_error later))⟩
  | drained hover htold houtcome hiff =>
    rw [hlater hover, List.append_nil]
    exact ⟨_, houtcome, hiff.trans (Frame.complete_iff_of_told htold).symm⟩

/-- How a session ends that nobody hurries, whose client reads its replies and says `later` after what has arrived. -/
structure EndsByStream (answers : (op : RegistryOp) → σ → op.Reply → σ → Prop) (settings : SessionSettings) (trace : List Event)
    (later : Bytes) (c : Conversation σ) : Prop where
  /-- It has an outcome, which is good exactly if the stream is complete as far as the session can see. -/
  outcome : c.phase = .ended → ∃ outcome, c.session.outcome = some outcome ∧
    (outcome = .ok () ↔ Frame.Complete settings.maxFrameLength Request.parse (arrived trace ++ later))
  /-- When the client has said all, the session comes to its end by itself. -/
  ends : c.session.inputOver = true → ∃ more c', Steps answers c more c' ∧ c'.phase = .ended ∧ arrived more = [] ∧
    .signalled ∉ more ∧ c'.session.peerGone = c.session.peerGone

/-- A session comes to its end once its input is over. -/
theorem Kept.exists_end (h : Kept answers settings store trace c) (htotal : ∀ op s, ∃ reply s', answers op s reply s')
    (hsignal : .signalled ∉ trace) (hinput : c.session.inputOver = true) :
    ∃ more c', Steps answers c more c' ∧ c'.phase = .ended ∧ arrived more = [] ∧ .signalled ∉ more ∧
      c'.session.peerGone = c.session.peerGone := by
  have hgoes : c.GoesOn := ⟨eq_false_of_ne_true fun hsignalled => hsignal (h.signal.1 hsignalled), fun hne => (h.running hne).sound⟩
  obtain ⟨log, c', halone, hend⟩ := hgoes.exists_rest htotal
  obtain ⟨hsame, hpeer, -, hnone⟩ := halone.ticks.same
  rcases hend with hover | ⟨-, hresting⟩
  · exact ⟨_, c', halone.ticks.steps, hover, halone.noArrivals, hnone, hpeer⟩
  · cases hresting.inputOpen.symm.trans (hsame.trans hinput)

/-- Whatever a client says and in whatever chunks it arrives, the outcome of its session tells whether the stream was complete, but
for a frame of which only the length arrived. -/
theorem ends_by_stream (htotal : ∀ op s, ∃ reply s', answers op s reply s') (h : Steps answers (.start settings now store) trace c)
    (hidle : settings.idleTimeout = none) (hsignal : .signalled ∉ trace) (hpeer : c.session.peerGone = false)
    (hfits : ∀ response ∈ (applied trace).map Prod.snd, ∃ frame, response.frame settings.maxFrameLength = .ok frame)
    (later : Bytes) (hlater : c.session.inputOver = true → later = []) : EndsByStream answers settings trace later c where
  outcome hover := (h.closing.cause hover).outcome hidle hsignal hpeer hfits hlater
  ends hinput := (h.kept (kept_start answers settings now store)).exists_end htotal hsignal hinput

theorem exists_answers_performs (op : RegistryOp) (s : Store) : ∃ reply s', Store.Answers FileOp.Performs op s reply s' := by
  rcases hrun : (s.shared.perform op).run s.disk with ⟨⟨reply, shared⟩, disk⟩
  exact ⟨reply, ⟨shared, disk⟩, FileProgram.runs_performs_iff.2 hrun⟩

/-- A stream that is cut right after the length of a frame ends well, although no sequence of whole frames is such a stream. -/
theorem ends_by_stream_cut : ∃ c : Conversation Store,
    EndsByStream (Store.Answers FileOp.Performs) ⟨100, none⟩ [.arrived [0, 0, 0, 5]] [] c ∧ c.phase = .ended ∧
      c.session.outcome = some (.ok ()) ∧ ¬Frame.WholeThen 100 Request.parse [0, 0, 0, 5] [] := by
  let opened : Session := .start ⟨100, none⟩ 0
  let fed : Session := (opened.feed [0, 0, 0, 5]).endInput
  let taken : Session := { fed with receiver := ⟨100, some 5, []⟩ }
  have hturn : fed.turn false 0 = (.finish (.ok ()), taken) := rfl
  have hbegin : Step (Store.Answers FileOp.Performs) (.start ⟨100, none⟩ 0 idleStore) [.arrived [0, 0, 0, 5]]
      ⟨opened.feed [0, 0, 0, 5], idleStore, 0, false, .looking⟩ := .arrive nofun rfl
  have hend : Step (Store.Answers FileOp.Performs) ⟨fed, idleStore, 0, false, .waiting⟩ []
      ⟨taken.finish (.ok ()), idleStore, 0, false, .ended⟩ := .wake (c := ⟨fed, idleStore, 0, false, .waiting⟩) rfl hturn
  have hover := (((Steps.none.step hbegin).step .endInput).step (.await rfl rfl)).step hend
  refine ⟨_, ends_by_stream exists_answers_performs hover rfl nofun rfl nofun [] fun _ => rfl, rfl, rfl, ?_⟩
  intro hwhole
  obtain ⟨as, htold⟩ := Frame.exists_told_iff.2 ⟨hwhole, rfl⟩
  have hlength : Frame.Unmissed 100 [0, 0, 0, 5] := .length (n := 5) (by decide) (by decide)
  cases (htold.unique (.waits (hlength.first_eq_none _))).2

end QueueBroker.Session

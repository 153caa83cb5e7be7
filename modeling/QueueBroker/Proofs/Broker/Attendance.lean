import QueueBroker.Proofs.Broker.Coordination
import QueueBroker.Proofs.Session.Conversation

/-!
# What sessions of a broker owe

Every request that a session called is being applied or was answered, and every answer is about to be written or was attempted to be.
An accept loop ends only when all its sessions are over, so nothing is owed any more then (`Life.Attended`).
-/

namespace QueueBroker

namespace Session

variable {s s' : Session} {shutdown : Bool} {now : Nat} {turn : Turn}

/-- Waking alone does not end a session. -/
theorem outcome_of_turn (h : s.turn shutdown now = (turn, s')) : s'.outcome = s.outcome := by
  unfold Session.turn at h
  split at h
  · obtain ⟨-, rfl⟩ := Prod.mk.inj h
    rfl
  · dsimp only at h
    split at h
    · obtain ⟨-, rfl⟩ := Prod.mk.inj h
      rfl
    · obtain ⟨-, rfl⟩ := Prod.mk.inj h
      rfl
    · split at h
      · obtain ⟨-, rfl⟩ := Prod.mk.inj h
        rfl
      · obtain ⟨-, rfl⟩ := Prod.mk.inj h
        rfl

end Session

namespace Host

variable {h h' : Host} {id : Nat} {s s' : Session} {k : AcceptorId} {a a' : Acceptor}

theorem Drained.setAcceptor (hd : h.Drained) (a' : Acceptor)
    (ha' : ∀ outcome, a'.phase = .ended outcome → ∀ s ∈ a'.sessions, s.isOver = true) (k : AcceptorId) :
    (h.setAcceptor k a').Drained := by
  intro b hb
  rcases List.mem_or_eq_of_mem_set hb with hb | rfl
  · exact hd b hb
  · exact ha'

/-- Sessions of accept loops that ended are over for good. -/
theorem Drained.setSession (hd : h.Drained) (hid : h.session? id = some s) (hover : s.isOver = true → s'.isOver = true) :
    (h.setSession id s').Drained := by
  obtain ⟨a, ha, hs⟩ := exists_acceptor hid
  rw [Host.setSession, ha]
  refine hd.setAcceptor _ (fun outcome hphase other hother => ?_) _
  have hall := hd a (List.mem_of_getElem? ha) outcome hphase
  rcases List.mem_or_eq_of_mem_set hother with hother | rfl
  · exact hall other hother
  · exact hover (hall s (List.mem_of_getElem? hs))

/-- A step of a call changes no session, and ends no accept loop. -/
theorem Answers.sessions {files : (op : FileOp) → Disk → op.Reply → Disk → Prop} {op : LifecycleOp} {reply : op.Reply}
    (hans : h.Answers files op reply h') (hd : h.Drained) : (∀ id, h'.session? id = h.session? id) ∧ h'.Drained := by
  cases hans.makes hd with
  | began listener =>
    constructor
    · intro id
      unfold session?
      dsimp only [perform]
      rw [List.getElem?_append]
      split
      · rfl
      · rename_i hge
        rw [List.getElem?_eq_none (Nat.le_of_not_lt hge)]
        cases id.unpair.1 - h.broker.acceptors.length <;> rfl
    · intro a ha
      rcases List.mem_append.1 ha with ha | ha
      · exact hd a ha
      · rw [List.mem_singleton] at ha
        rw [ha]
        exact fun _ heq => by cases heq
  | _ => exact ⟨fun _ => rfl, hd⟩

theorem Drained.stopListening (hd : h.Drained) (k : AcceptorId) (a : Acceptor) (outcome : Except BrokerError Unit) :
    (h.stopListening k a outcome).Drained :=
  hd.setAcceptor _ (fun _ heq => by cases heq) k

end Host

namespace Life

/-- What is known of sessions and their requests. -/
structure Attended (l : Life) : Prop where
  absent : ∀ id, l.host.session? id = none → l.phases id = .looking
  finished : ∀ id s, l.host.session? id = some s → (s.isOver = true ↔ l.phases id = .ended)
  applying : ∀ id call, l.traffic.calls id = some call → l.phases id = .applying
  drained : l.host.Drained
  /-- A request that was called is being applied or was answered, -/
  called : ∀ place session request, l.traffic.history[place]? = some (.called session request) →
    (∃ left, l.traffic.calls session = some ⟨place, request, left⟩) ∨ ∃ response, .answered place response ∈ l.traffic.history
  /-- and an answer is about to be written or was attempted to be. -/
  answered : ∀ place response, .answered place response ∈ l.traffic.history →
    (∃ id, l.phases id = .replying place response) ∨ ∃ frame?, .attempted place response frame? ∈ l.journal
  replying : ∀ id place response, l.phases id = .replying place response → .answered place response ∈ l.traffic.history
  attempted : ∀ place response frame?, .attempted place response frame? ∈ l.journal → .answered place response ∈ l.traffic.history
  accepted : ∀ id, .accepted id ∈ l.journal → l.host.session? id ≠ none

variable {files : (op : FileOp) → Disk → op.Reply → Disk → Prop} {l l' : Life} {id : Nat} {s : Session} {phase : Phase}

theorem Attended.calls_eq_none (h : l.Attended) (hne : l.phases id ≠ .applying) : l.traffic.calls id = none := by
  cases hcall : l.traffic.calls id with
  | none => rfl
  | some call => exact absurd (h.applying id call hcall) hne

/-- What is no business of sessions leaves them as they are. -/
theorem Attended.quiet (h : l.Attended) (hsessions : ∀ id, l'.host.session? id = l.host.session? id) (hdrained : l'.host.Drained)
    (hphases : l'.phases = l.phases) (hcalls : l'.traffic.calls = l.traffic.calls) (hhistory : l'.traffic.history = l.traffic.history)
    (hattempted : ∀ place response frame?, .attempted place response frame? ∈ l'.journal ↔ .attempted place response frame? ∈ l.journal)
    (haccepted : ∀ id, .accepted id ∈ l'.journal → .accepted id ∈ l.journal) : l'.Attended where
  absent id hid := by
    rw [hphases]
    exact h.absent id (hsessions id ▸ hid)
  finished id s hid := by
    rw [hphases]
    exact h.finished id s (hsessions id ▸ hid)
  applying id call hcall := by
    rw [hphases]
    exact h.applying id call (hcalls ▸ hcall)
  drained := hdrained
  called := by
    rw [hcalls, hhistory]
    exact h.called
  answered place response hmem := by
    rw [hphases]
    rcases h.answered place response (hhistory ▸ hmem) with hreplying | ⟨frame?, hattempt⟩
    · exact Or.inl hreplying
    · exact Or.inr ⟨frame?, (hattempted place response frame?).2 hattempt⟩
  replying := by
    rw [hphases, hhistory]
    exact h.replying
  attempted place response frame? hattempt := by
    rw [hhistory]
    exact h.attempted place response frame? ((hattempted place response frame?).1 hattempt)
  accepted id hid := by
    rw [hsessions id]
    exact h.accepted id (haccepted id hid)

/-- A session that has no request comes to something else, and what it still owed was attempted. -/
theorem Attended.enters_telling (h : l.Attended) {s' : Session} (hid : l.host.session? id = some s) (hne : l.phases id ≠ .ended)
    (hidle : l.traffic.calls id = none) (hover : s'.isOver = true ↔ phase = .ended)
    (hphase : ∀ place response, phase ≠ .replying place response) {events : List Event}
    (hevents : ∀ place response, l.phases id = .replying place response → ∃ frame?, .attempted place response frame? ∈ events)
    (hattempts : ∀ place response frame?, .attempted place response frame? ∈ events → .answered place response ∈ l.traffic.history)
    (haccepts : ∀ id, .accepted id ∉ events) :
    Attended { l.enters id s' phase with journal := l.journal ++ events } where
  absent other hother := by
    have hsame := (session?_enters hid s' phase other).symm.trans hother
    have hbefore := phases_enters l id s' phase other
    split at hsame
    · cases hsame
    · rename_i hdiffers
      rw [if_neg hdiffers] at hbefore
      exact hbefore.trans (h.absent other hsame)
  finished other t hother := by
    have hsame := (session?_enters hid s' phase other).symm.trans hother
    have hbefore := phases_enters l id s' phase other
    change t.isOver = true ↔ (l.enters id s' phase).phases other = .ended
    split at hsame
    · rename_i heq
      rw [hbefore, if_pos heq, ← Option.some.inj hsame]
      exact hover
    · rename_i hdiffers
      rw [hbefore, if_neg hdiffers]
      exact h.finished other t hsame
  applying other call hcall := by
    have hdiffers : other ≠ id := by
      rintro rfl
      exact absurd (hidle.symm.trans hcall) nofun
    refine (phases_enters l id s' phase other).trans ?_
    rw [if_neg hdiffers]
    exact h.applying other call hcall
  drained := h.drained.setSession hid fun hbefore => absurd ((h.finished id s hid).1 hbefore) hne
  called := h.called
  answered place response hmem := by
    rcases h.answered place response hmem with ⟨other, hreplying⟩ | ⟨frame?, hattempt⟩
    · by_cases heq : other = id
      · rw [heq] at hreplying
        obtain ⟨frame?, hattempt⟩ := hevents place response hreplying
        exact Or.inr ⟨frame?, List.mem_append_right _ hattempt⟩
      · refine Or.inl ⟨other, (phases_enters l id s' phase other).trans ?_⟩
        rw [if_neg heq]
        exact hreplying
    · exact Or.inr ⟨frame?, List.mem_append_left _ hattempt⟩
  replying other place response hreplying := by
    have hbefore := (phases_enters l id s' phase other).symm.trans hreplying
    split at hbefore
    · exact absurd hbefore (hphase place response)
    · exact h.replying other place response hbefore
  attempted place response frame? hattempt := by
    rcases List.mem_append.1 hattempt with hattempt | hattempt
    · exact h.attempted place response frame? hattempt
    · exact hattempts place response frame? hattempt
  accepted other hother := by
    have haccepted : .accepted other ∈ l.journal := by
      rcases List.mem_append.1 hother with hother | hother
      · exact hother
      · exact absurd hother (haccepts other)
    intro hnone
    have hsame := (session?_enters hid s' phase other).symm.trans hnone
    split at hsame
    · cases hsame
    · exact h.accepted other haccepted hsame

/-- A session that owes nothing comes to something else. -/
theorem Attended.enters (h : l.Attended) {s' : Session} (hid : l.host.session? id = some s)
    (hfree : l.phases id = .looking ∨ l.phases id = .waiting) (hover : s'.isOver = true ↔ phase = .ended)
    (hphase : ∀ place response, phase ≠ .replying place response) : (l.enters id s' phase).Attended := by
  have hne : l.phases id ≠ .ended := by rcases hfree with heq | heq <;> rw [heq] <;> nofun
  have hidle : l.traffic.calls id = none := h.calls_eq_none (by rcases hfree with heq | heq <;> rw [heq] <;> nofun)
  have hreplying : ∀ place response, l.phases id = .replying place response →
      ∃ frame?, Event.attempted place response frame? ∈ ([] : List Event) := by
    intro place response hreplying
    rcases hfree with heq | heq <;> rw [heq] at hreplying <;> cases hreplying
  have htold := h.enters_telling hid hne hidle hover hphase hreplying nofun nofun
  rwa [List.append_nil] at htold

/-- A session calls a request. -/
theorem Attended.called_request (h : l.Attended) (hphase : l.phases id = .applying) (hidle : l.traffic.calls id = none)
    (request : Request) : (l.asked id request).Attended where
  absent := h.absent
  finished := h.finished
  applying other call hcall := by
    have hcall := (Traffic.calls_called l.traffic id request other).symm.trans hcall
    split at hcall
    · rename_i heq
      rw [heq]
      exact hphase
    · exact h.applying other call hcall
  drained := h.drained
  called place session r hplace := by
    change (∃ left, (l.traffic.called id request).calls session = some ⟨place, r, left⟩) ∨ _
    rw [Traffic.calls_called]
    rcases of_getElem?_append_singleton hplace with hold | ⟨rfl, heq⟩
    · rcases h.called place session r hold with ⟨left, hcall⟩ | ⟨response, hmem⟩
      · have hdiffers : session ≠ id := by
          rintro rfl
          rw [hidle] at hcall
          cases hcall
        rw [if_neg hdiffers]
        exact Or.inl ⟨left, hcall⟩
      · exact Or.inr ⟨response, List.mem_append_left _ hmem⟩
    · obtain ⟨rfl, rfl⟩ := QueueBroker.Event.called.inj heq
      rw [if_pos rfl]
      exact Or.inl ⟨_, rfl⟩
  answered place response hmem := by
    rcases List.mem_append.1 hmem with hmem | hmem
    · exact h.answered place response hmem
    · cases List.mem_singleton.1 hmem
  replying other place response hreplying := List.mem_append_left _ (h.replying other place response hreplying)
  attempted place response frame? hattempt := List.mem_append_left _ (h.attempted place response frame? hattempt)
  accepted := h.accepted

/-- A session goes on with its request. -/
theorem Attended.worked (h : l.Attended) {place : Nat} {request : Request} {left left' : RegistryProgram Response}
    (hcall : l.traffic.calls id = some ⟨place, request, left⟩) (store : Store) :
    (l.worked id ⟨place, request, left⟩ left' store).Attended where
  absent := h.absent
  finished := h.finished
  applying other call hother := by
    have hother := (Traffic.calls_worked l.traffic id _ left' store other).symm.trans hother
    split at hother
    · rename_i heq
      rw [heq]
      exact h.applying id _ hcall
    · exact h.applying other call hother
  drained := h.drained
  called place' session r hplace := by
    change (∃ left'', (l.traffic.worked id ⟨place, request, left⟩ left' store).calls session = some ⟨place', r, left''⟩) ∨ _
    rw [Traffic.calls_worked]
    rcases h.called place' session r hplace with ⟨before, hbefore⟩ | hanswered
    · split
      · rename_i heq
        rw [heq, hcall] at hbefore
        obtain ⟨rfl, rfl, -⟩ := Call.mk.inj (Option.some.inj hbefore)
        exact Or.inl ⟨left', rfl⟩
      · exact Or.inl ⟨before, hbefore⟩
    · exact Or.inr hanswered
  answered := h.answered
  replying := h.replying
  attempted := h.attempted
  accepted := h.accepted

/-- A session was answered, and is about to write the reply. -/
theorem Attended.applied (h : l.Attended) {place : Nat} {request : Request} {response : Response}
    (hcall : l.traffic.calls id = some ⟨place, request, .done response⟩) : (l.applied id place response).Attended where
  absent other hother := by
    have hlooking := h.absent other hother
    rw [phases_applied, if_neg]
    · exact hlooking
    · rintro rfl
      rw [h.applying other _ hcall] at hlooking
      cases hlooking
  finished other t hother := by
    rw [h.finished other t hother, phases_applied]
    split
    · rename_i heq
      rw [heq, h.applying id _ hcall]
      exact ⟨nofun, nofun⟩
    · exact Iff.rfl
  applying other call hother := by
    have hbefore := (Traffic.calls_answered l.traffic id place response other).symm.trans hother
    rw [phases_applied]
    split at hbefore
    · cases hbefore
    · rename_i hdiffers
      rw [if_neg hdiffers]
      exact h.applying other call hbefore
  drained := h.drained
  called place' session r hplace := by
    change (∃ left, (l.traffic.answered id place response).calls session = some ⟨place', r, left⟩) ∨ _
    rw [Traffic.calls_answered]
    rcases of_getElem?_append_singleton hplace with hold | ⟨-, heq⟩
    · rcases h.called place' session r hold with ⟨left, hbefore⟩ | ⟨response', hmem⟩
      · split
        · rename_i heq
          rw [heq, hcall] at hbefore
          obtain ⟨rfl, -, -⟩ := Call.mk.inj (Option.some.inj hbefore)
          exact Or.inr ⟨response, List.mem_append_right _ (List.mem_singleton.2 rfl)⟩
        · exact Or.inl ⟨left, hbefore⟩
      · exact Or.inr ⟨response', List.mem_append_left _ hmem⟩
    · cases heq
  answered place' response' hmem := by
    rcases List.mem_append.1 hmem with hmem | hmem
    · rcases h.answered place' response' hmem with ⟨other, hreplying⟩ | hattempted
      · refine Or.inl ⟨other, ?_⟩
        rw [phases_applied, if_neg]
        · exact hreplying
        · rintro rfl
          rw [h.applying other _ hcall] at hreplying
          cases hreplying
      · exact Or.inr hattempted
    · obtain ⟨rfl, rfl⟩ := QueueBroker.Event.answered.inj (List.mem_singleton.1 hmem)
      refine Or.inl ⟨id, ?_⟩
      rw [phases_applied, if_pos rfl]
  replying other place' response' hreplying := by
    rw [phases_applied] at hreplying
    split at hreplying
    · obtain ⟨rfl, rfl⟩ := Phase.replying.inj hreplying
      exact List.mem_append_right _ (List.mem_singleton.2 rfl)
    · exact List.mem_append_left _ (h.replying other place' response' hreplying)
  attempted place' response' frame? hattempt := List.mem_append_left _ (h.attempted place' response' frame? hattempt)
  accepted := h.accepted

/-- A session writes the reply that it owes, or fails to, and is over then. -/
theorem Attended.reply (h : l.Attended) {s' : Session} {place : Nat} {response : Response} {frame? : Option Bytes}
    (hid : l.host.session? id = some s) (hphase : l.phases id = .replying place response)
    (hreply : s.reply l.now response = (frame?, s')) :
    ((l.enters id s' (if frame?.isSome then .looking else .ended)).tells (.attempted place response frame?)).Attended := by
  have hopen : s.isOver = false := by
    have hover := h.finished id s hid
    rw [hphase] at hover
    exact Bool.eq_false_iff.2 fun htrue => nomatch hover.1 htrue
  have hover : s'.isOver = true ↔ (if frame?.isSome then Phase.looking else Phase.ended) = .ended := by
    cases frame? with
    | some frame =>
      obtain ⟨-, rfl⟩ := Session.of_reply_eq_some hreply
      change s.isOver = true ↔ Phase.looking = .ended
      rw [hopen]
      exact ⟨nofun, nofun⟩
    | none =>
      obtain ⟨e, rfl⟩ := Session.of_reply_eq_none hreply
      exact ⟨fun _ => rfl, fun _ => rfl⟩
  refine h.enters_telling hid (by rw [hphase]; nofun) (h.calls_eq_none (by rw [hphase]; nofun)) hover ?_ ?_ ?_ ?_
  · intro place' response'
    cases frame? <;> nofun
  · intro place' response' hreplying
    rw [hphase] at hreplying
    obtain ⟨rfl, rfl⟩ := Phase.replying.inj hreplying
    exact ⟨frame?, List.mem_singleton.2 rfl⟩
  · intro place' response' frame?' hattempt
    obtain ⟨rfl, rfl, rfl⟩ := Event.attempted.inj (List.mem_singleton.1 hattempt)
    exact h.replying id _ _ hphase
  · intro other hother
    cases List.mem_singleton.1 hother

/-- A session wakes. -/
theorem Attended.wake (h : l.Attended) {s' : Session} {shutdown : Bool} {turn : Turn} (hid : l.host.session? id = some s)
    (hfree : l.phases id = .looking ∨ l.phases id = .waiting) (hturn : s.turn shutdown l.now = (turn, s')) :
    (l.woken id s' turn).Attended := by
  have hopen : s'.isOver = false := by
    rw [Session.isOver, Session.outcome_of_turn hturn, ← Session.isOver]
    refine Bool.eq_false_iff.2 fun htrue => ?_
    have hended := (h.finished id s hid).1 htrue
    rcases hfree with heq | heq <;> rw [heq] at hended <;> cases hended
  have hidle : l.traffic.calls id = none := h.calls_eq_none (by rcases hfree with heq | heq <;> rw [heq] <;> nofun)
  cases turn with
  | wait => exact h.enters hid hfree (by rw [hopen]; exact ⟨nofun, nofun⟩) nofun
  | finish outcome => exact h.enters hid hfree ⟨fun _ => rfl, fun _ => rfl⟩ nofun
  | serve request =>
    have hentered : (l.enters id s' .applying).Attended := h.enters hid hfree (by rw [hopen]; exact ⟨nofun, nofun⟩) nofun
    exact hentered.called_request (by rw [phases_enters, if_pos rfl]) hidle request

/-- An accept loop takes a connection, whose session is about to look whether the broker ends. -/
theorem Attended.accept (h : l.Attended) {k : AcceptorId} {a : Acceptor} {host : Host} (hk : l.broker.acceptors[k]? = some a)
    (haccepts : l.host.acceptConnection k l.now = some host) :
    ((l.on host).tells (.accepted (Nat.pair k a.sessions.length))).Attended := by
  obtain ⟨a', hk', hphase, rfl⟩ := Host.of_acceptConnection haccepts
  obtain rfl : a = a' := Option.some.inj (hk.symm.trans hk')
  have hsessions := Host.session?_append (h := l.host) hk (.start l.broker.config.server.toSession l.now)
  have hnew : l.host.session? (Nat.pair k a.sessions.length) = none := by
    rw [Host.session?_eq (h := l.host) hk (by rw [Nat.unpair_pair]), Nat.unpair_pair]
    exact List.getElem?_eq_none (Nat.le_refl _)
  refine ⟨fun id hid => ?_, fun id s hid => ?_, h.applying, ?_, h.called, fun place response hmem => ?_, h.replying,
    fun place response frame? hattempt => ?_, fun id hid hnone => ?_⟩
  · have hbefore := (hsessions id).symm.trans hid
    split at hbefore
    · cases hbefore
    · exact h.absent id hbefore
  · have hbefore := (hsessions id).symm.trans hid
    split at hbefore
    · rename_i heq
      rw [← Option.some.inj hbefore, heq]
      change false = true ↔ l.phases _ = .ended
      rw [h.absent _ hnew]
      exact ⟨nofun, nofun⟩
    · exact h.finished id s hbefore
  · refine h.drained.setAcceptor _ (fun outcome hended => ?_) k
    rw [hphase] at hended
    cases hended
  · rcases h.answered place response hmem with hreplying | ⟨frame?, hattempt⟩
    · exact Or.inl hreplying
    · exact Or.inr ⟨frame?, List.mem_append_left _ hattempt⟩
  · rcases List.mem_append.1 hattempt with hattempt | hattempt
    · exact h.attempted place response frame? hattempt
    · cases List.mem_singleton.1 hattempt
  · have hbefore := (hsessions id).symm.trans hnone
    split at hbefore
    · cases hbefore
    · rename_i hne
      rcases List.mem_append.1 hid with hid | hid
      · exact h.accepted id hid hbefore
      · exact hne (Event.accepted.inj (List.mem_singleton.1 hid))

/-- A client does something to its session. -/
theorem Attended.client (h : l.Attended) {s' : Session} (hid : l.host.session? id = some s) (hopen : s.isOver = false)
    (hclient : Client s s') : (l.on (l.host.setSession id s')).Attended := by
  have hsame : s'.isOver = s.isOver := by cases hclient <;> rfl
  have hsessions := Host.session?_setSession hid s'
  refine ⟨fun other hother => ?_, fun other t hother => ?_, h.applying, ?_, h.called, h.answered, h.replying, h.attempted,
    fun other hother hnone => ?_⟩
  · have hbefore := (hsessions other).symm.trans hother
    split at hbefore
    · cases hbefore
    · exact h.absent other hbefore
  · have hbefore := (hsessions other).symm.trans hother
    split at hbefore
    · rename_i heq
      rw [← Option.some.inj hbefore, hsame, heq]
      exact h.finished id s hid
    · exact h.finished other t hbefore
  · exact h.drained.setSession hid fun htrue => by rw [hopen] at htrue; cases htrue
  · have hbefore := (hsessions other).symm.trans hnone
    split at hbefore
    · cases hbefore
    · exact h.accepted other hother hbefore

/-- What is told of calls is nothing about sessions. -/
theorem Attended.calls (h : l.Attended) {host : Host} (hsessions : ∀ id, host.session? id = l.host.session? id) (hdrained : host.Drained)
    {n : Nat} {working : Option Working} {events : List Event} (hattempts : ∀ place response frame?, .attempted place response frame? ∉ events)
    (haccepts : ∀ id, .accepted id ∉ events) : ((l.on host).sets n working events).Attended := by
  refine h.quiet hsessions hdrained rfl rfl rfl (fun place response frame? => ⟨fun hmem => ?_, List.mem_append_left _⟩) fun id hmem => ?_
  · exact (List.mem_append.1 hmem).resolve_right (hattempts place response frame?)
  · exact (List.mem_append.1 hmem).resolve_right (haccepts id)

/-- Whatever happens, nothing is owed that was not. -/
theorem Attended.goes (h : l.Attended) (hgoes : Goes files l l') : l'.Attended := by
  cases hgoes with
  | call => exact h.calls (fun _ => rfl) h.drained (by simp) (by simp)
  | step _ hans =>
    obtain ⟨hsessions, hdrained⟩ := hans.sessions h.drained
    exact h.calls hsessions hdrained (by simp) (by simp)
  | close => exact h.calls (fun _ => rfl) h.drained (by simp) (by simp)
  | closing =>
    exact h.quiet (fun _ => rfl) h.drained rfl rfl rfl (by simp [sets, on]) (by simp [sets, on])
  | closed => exact h.calls (fun _ => rfl) h.drained (by simp) (by simp)
  | finish => exact h.calls (fun _ => rfl) h.drained (by simp) (by simp)
  | accept hk haccepts => exact h.accept hk haccepts
  | die cause hdies =>
    obtain ⟨a, hk, -, rfl⟩ := Host.of_failListening hdies
    refine h.quiet ?_ (h.drained.stopListening _ a _) rfl rfl rfl (fun _ _ _ => Iff.rfl) fun _ => id
    exact Host.session?_setAcceptor_of_sessions (h := l.host) hk rfl
  | advance hadvances =>
    cases Host.advances_of_advanceAcceptor hadvances with
    | @heeds a hk =>
      refine h.quiet ?_ (h.drained.stopListening _ a _) rfl rfl rfl (fun _ _ _ => Iff.rfl) fun _ => id
      exact Host.session?_setAcceptor_of_sessions (h := l.host) hk rfl
    | @ends a outcome hk _ hall =>
      refine h.quiet ?_ ?_ rfl rfl rfl (fun _ _ _ => Iff.rfl) fun _ => id
      · exact Host.session?_setAcceptor_of_sessions (h := l.host) hk rfl
      · exact h.drained.setAcceptor { a with phase := .ended outcome } (fun _ _ => hall) _
  | client hid hopen hclient => exact h.client hid hopen hclient
  | pass => exact h.quiet (fun _ => rfl) h.drained rfl rfl rfl (fun _ _ _ => Iff.rfl) fun _ => id
  | await hid hphase =>
    have hopen := h.finished _ _ hid
    rw [hphase] at hopen
    exact h.enters hid (Or.inl hphase) ⟨fun htrue => absurd (hopen.1 htrue) nofun, nofun⟩ nofun
  | wake hid hfree _ hturn => exact h.wake hid (hfree.imp_left And.left) hturn
  | work hcall => exact h.worked hcall _
  | apply hcall => exact h.applied hcall
  | reply hid hphase hreply => exact h.reply hid hphase hreply

theorem attended_start {host : Host} (hnone : host.broker.acceptors = []) (now : Nat) : (start host now).Attended where
  absent _ _ := rfl
  finished id s hid := by
    obtain ⟨a, ha, -⟩ := Host.exists_acceptor hid
    rw [show (start host now).host.broker.acceptors = [] from hnone] at ha
    cases ha
  applying _ _ hcall := by cases hcall
  drained a ha := by
    rw [show (start host now).host.broker.acceptors = [] from hnone] at ha
    cases ha
  called _ _ _ hplace := by cases hplace
  answered _ _ hmem := by cases hmem
  replying _ _ _ hreplying := by cases hreplying
  attempted _ _ _ hattempt := by cases hattempt
  accepted _ hid := by cases hid

end Life

end QueueBroker

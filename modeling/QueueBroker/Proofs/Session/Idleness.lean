import QueueBroker.Proofs.Session.Endings

/-!
# Idle sessions

A session that is to end when nothing is asked for too long counts from the moment at which it began or wrote its last reply. What
counts is a whole request: if the bytes that arrive before the time is over complete one, it is taken before the time is over, and
at once if it was there already; if not, the session ends well when the time is over, whatever part of a request arrived meanwhile.

`OnTime` is what holds at every moment of a session on the clock, `Deciding` what became of one wait of it so far.
-/

namespace QueueBroker.Session

variable {σ : Type} {answers : (op : RegistryOp) → σ → op.Reply → σ → Prop} {settings : SessionSettings} {server : ServerSettings}
  {start now deadline : Nat} {store : σ} {log more entries : Log} {c c₀ c' : Conversation σ} {s s' : Session}

/-! ## What was heard by a moment -/

/-- The requests that the bytes which arrived before a moment are the frames of. -/
def heardBefore (settings : SessionSettings) (time : Nat) (log : Log) : List Request :=
  Frame.documents settings.maxFrameLength Request.parse (arrivedBefore time log)

/-- Before a later moment all that was told so far had arrived. -/
theorem arrivedBefore_eq {time : Nat} (h : ∀ entry ∈ log, entry.1 < time) : arrivedBefore time log = arrived (events log) := by
  rw [arrivedBefore, List.filter_eq_self.2 fun entry hmem => decide_eq_true (h entry hmem)]

/-- What is told from a moment on did not arrive before it. -/
theorem arrivedBefore_eq_nil {time : Nat} (h : ∀ entry ∈ log, time ≤ entry.1) : arrivedBefore time log = [] := by
  rw [arrivedBefore, List.filter_eq_nil_iff.2 fun entry hmem => by simp [h entry hmem]]
  rfl

theorem heardBefore_prefix_append (settings : SessionSettings) (time : Nat) (log more : Log) :
    heardBefore settings time log <+: heardBefore settings time (log ++ more) := by
  rw [heardBefore, heardBefore, arrivedBefore_append]
  exact Frame.documents_prefix_append _ _ _ _

theorem heardBefore_append_of_le {time : Nat} (h : ∀ entry ∈ more, time ≤ entry.1) :
    heardBefore settings time (log ++ more) = heardBefore settings time log := by
  rw [heardBefore, heardBefore, arrivedBefore_append, arrivedBefore_eq_nil h, List.append_nil]

/-- Whether what arrived is the beginning of a sequence of whole frames of requests. -/
def SpeaksWell (settings : SessionSettings) (log : Log) : Prop :=
  ∃ later, Frame.WholeThen settings.maxFrameLength Request.parse (arrived (events log) ++ later) []

theorem SpeaksWell.of_append (h : SpeaksWell settings (log ++ more)) : SpeaksWell settings log := by
  obtain ⟨later, h⟩ := h
  refine ⟨arrived (events more) ++ later, ?_⟩
  rwa [events_append, arrived_append, List.append_assoc] at h

/-- A client that speaks well says nothing that cannot be read. -/
theorem SpeaksWell.not_told_error (h : SpeaksWell settings log) {requests : List Request} {e : BrokerError} :
    ¬Frame.Told settings.maxFrameLength Request.parse (arrived (events log)) requests (.error e) := by
  obtain ⟨later, hwhole⟩ := h
  exact fun htold => Frame.not_complete_of_told (htold.append_of_error later) ⟨[], hwhole, .nothing⟩

theorem SpeaksWell.first_ne_error (h : SpeaksWell settings log) {taken : List Request} {r : Receiver}
    (hconsumed : Consumed settings.maxFrameLength (arrived (events log)) taken r) (e : BrokerError) :
    Frame.first r.limit Request.parse r.unread ≠ .error e := by
  intro hfirst
  obtain ⟨-, hlimit, before, hsplit, htold⟩ := hconsumed
  rw [hlimit] at hfirst
  have hbad : Frame.Told settings.maxFrameLength Request.parse (before ++ r.unread) (taken ++ []) (.error e) :=
    htold.append (.fails hfirst)
  exact h.not_told_error (hsplit ▸ hbad)

/-! ## What holds at every moment -/

/-- What holds while a session waits. -/
structure Patient (settings : SessionSettings) (start : Nat) (log : Log) (c : Conversation σ) : Prop where
  /-- Its time is not over yet, or is over just now. -/
  inTime : ∀ deadline, c.session.deadline = some deadline → c.now ≤ deadline
  /-- All requests that were there before now were taken, unless it began to wait just now. -/
  prompt : c.now = lastReply start log ∨ heardBefore settings c.now log = taken log
  /-- When its time is over no request is left that it could take. -/
  served : c.session.deadline = some c.now → Frame.first c.session.receiver.limit Request.parse c.session.receiver.unread = .ok none

/-- What holds at every moment of a session on the clock. -/
structure OnTime (settings : SessionSettings) (start : Nat) (log : Log) (c : Conversation σ) : Prop where
  serves : taken log = (applied (events log)).map Prod.fst ++ c.phase.taken
  armed : c.phase ≠ .ended → c.session.deadline = deadlineFrom settings (lastReply start log)
  looking : c.phase = .looking → c.now = lastReply start log
  waiting : c.phase = .waiting → Patient settings start log c

/-- While no request is being applied, all that were taken were. -/
theorem OnTime.taken_eq (h : OnTime settings start log c) (hphase : c.phase.taken = []) :
    taken log = (applied (events log)).map Prod.fst := by
  rw [h.serves, hphase, List.append_nil]

theorem onTime_start (settings : SessionSettings) (start : Nat) (store : σ) :
    OnTime settings start [] (.start settings start store) :=
  ⟨rfl, fun _ => rfl, fun _ => rfl, nofun⟩

/-- A session that is given some time does not wait when it is over already. -/
theorem deadlineFrom_ne_now (hpos : settings.idleTimeout ≠ some 0) (now : Nat) : deadlineFrom settings now ≠ some now := by
  intro h
  cases hidle : settings.idleTimeout with
  | none => simp [deadlineFrom, hidle] at h
  | some seconds =>
    have hseconds : seconds ≠ 0 := fun hzero => hpos (hzero ▸ hidle)
    simp only [deadlineFrom, hidle, Option.map_some, Option.some.injEq] at h
    omega

theorem le_of_deadlineFrom (h : deadlineFrom settings now = some deadline) : now ≤ deadline := by
  obtain ⟨seconds, -, rfl⟩ := Option.map_eq_some_iff.1 h
  exact Nat.le_add_right _ _

theorem OnTime.await (h : OnTime settings start log c) (hpos : settings.idleTimeout ≠ some 0) (hphase : c.phase = .looking) :
    OnTime settings start log { c with phase := .waiting } where
  serves := by simpa [hphase, Phase.taken] using h.serves
  armed _ := h.armed (by simp [hphase])
  looking := by rintro ⟨⟩
  waiting _ := by
    have harmed := h.armed (by simp [hphase])
    rw [← h.looking hphase] at harmed
    exact {
      inTime := fun deadline hdeadline => le_of_deadlineFrom (harmed.symm.trans hdeadline)
      prompt := Or.inl (h.looking hphase)
      served := fun hdue => absurd (harmed.symm.trans hdue) (deadlineFrom_ne_now hpos _) }

theorem OnTime.arrive (h : OnTime settings start log c) (hdue : ¬c.Due) (bytes : Bytes) :
    OnTime settings start (log ++ [(c.now, .event (.arrived bytes))]) { c with session := c.session.feed bytes } where
  serves := by simpa [events, taken, applied] using h.serves
  armed hne := (h.armed hne).trans (by simp [lastReply])
  looking hphase := (h.looking hphase).trans (by simp [lastReply])
  waiting hphase := by
    have hpatient := h.waiting hphase
    exact {
      inTime := hpatient.inTime
      prompt := by
        rw [heardBefore_append_of_le (by simp)]
        simpa [lastReply, taken] using hpatient.prompt
      served := fun hdeadline => absurd ⟨hphase, c.now, hdeadline, Nat.le_refl _⟩ hdue }

theorem OnTime.pass (h : OnTime settings start log c) (hkept : Kept answers settings store (events log) c)
    (hdated : ∀ entry ∈ log, entry.1 ≤ c.now) {later : Nat} (hle : c.now ≤ later)
    (hrests : ∀ time, c.now ≤ time → time < later → c.Rests time) : OnTime settings start log { c with now := later } := by
  rcases Nat.eq_or_lt_of_le hle with rfl | hlt
  · exact h
  have hrest := hrests c.now (Nat.le_refl _) hlt
  refine ⟨h.serves, h.armed, fun hphase => ?_, fun hphase => ?_⟩
  · rw [Conversation.Rests, show c.phase = .looking from hphase] at hrest
    exact hrest.elim
  have hphase : c.phase = .waiting := hphase
  have hconsumed := hkept.consumed (by simp [hphase]) (by rw [hphase]; rfl)
  have hresting {time : Nat} (htime : c.now ≤ time) (hbefore : time < later) : c.session.Resting time := by
    have hrest := hrests time htime hbefore
    rw [Conversation.Rests, hphase] at hrest
    exact (turn_eq_wait_iff hconsumed.sound).1 hrest
  have hnone := (hresting (Nat.le_refl _) hlt).incomplete
  exact {
    inTime := fun deadline hdeadline => Nat.le_of_not_lt fun hover =>
      absurd ((hresting ((h.waiting hphase).inTime _ hdeadline) hover).inTime _ hdeadline) (Nat.lt_irrefl _)
    prompt := by
      have hall := hconsumed.documents_eq fun found hfound => by cases hnone.symm.trans hfound
      right
      rw [heardBefore, arrivedBefore_eq fun entry hmem => Nat.lt_of_le_of_lt (hdated entry hmem) hlt, hall]
      exact (h.taken_eq (by rw [hphase]; rfl)).symm
    served := fun _ => hnone }

/-! ## How a wait ends -/

/-- A session that takes a request takes it in time, and as soon as it is there. -/
structure TakesInTime (settings : SessionSettings) (began : Nat) (log : Log) (now : Nat) (request : Request) : Prop where
  inTime : ∀ deadline, deadlineFrom settings began = some deadline → now < deadline
  heard : ∀ later, now < later → taken log ++ [request] <+: heardBefore settings later log
  prompt : now = began ∨ heardBefore settings now log = taken log

/-- A session that ends while it waits ends well, just when its time is over, and left out no request. -/
structure EndsInTime (settings : SessionSettings) (began : Nat) (log : Log) (now : Nat) (outcome : Except BrokerError Unit) : Prop where
  good : outcome = .ok ()
  onTime : deadlineFrom settings began = some now
  heard : heardBefore settings now log = taken log

theorem OnTime.takesInTime (h : OnTime settings start log c) (hkept : Kept answers settings store (events log) c)
    (hdated : ∀ entry ∈ log, entry.1 ≤ c.now) (hphase : c.phase = .waiting) {request : Request} {rest : Bytes}
    (hfirst : Frame.first c.session.receiver.limit Request.parse c.session.receiver.unread = .ok (some (request, rest))) :
    TakesInTime settings (lastReply start log) log c.now request := by
  have hpatient := h.waiting hphase
  have hconsumed := hkept.consumed (by simp [hphase]) (by rw [hphase]; rfl)
  refine ⟨fun deadline hdeadline => ?_, fun later hlater => ?_, hpatient.prompt⟩
  · rw [← h.armed (by simp [hphase])] at hdeadline
    refine Nat.lt_of_le_of_ne (hpatient.inTime _ hdeadline) fun hdue => ?_
    cases (hpatient.served (hdue ▸ hdeadline)).symm.trans hfirst
  · rw [heardBefore, arrivedBefore_eq fun entry hmem => Nat.lt_of_le_of_lt (hdated entry hmem) hlater,
      h.taken_eq (by rw [hphase]; rfl)]
    exact (hconsumed.take hfirst).prefix_documents

theorem OnTime.endsInTime (h : OnTime settings start log c) (hpos : settings.idleTimeout ≠ some 0)
    (hkept : Kept answers settings store (events log) c) (hopen : c.session.inputOver = false) (hspeaks : SpeaksWell settings log)
    (hphase : c.phase = .waiting) {outcome : Except BrokerError Unit} (hfinishes : c.session.Finishes c.now outcome) :
    EndsInTime settings (lastReply start log) log c.now outcome := by
  have hpatient := h.waiting hphase
  have hconsumed := hkept.consumed (by simp [hphase]) (by rw [hphase]; rfl)
  cases hfinishes with
  | bad hfirst => exact absurd hfirst (hspeaks.first_ne_error hconsumed _)
  | drained hover => cases hopen.symm.trans hover
  | idle _ _ hdeadline hle =>
    obtain rfl := Nat.le_antisymm hle (hpatient.inTime _ hdeadline)
    rw [h.armed (by simp [hphase])] at hdeadline
    refine ⟨rfl, hdeadline, hpatient.prompt.resolve_left fun hbegan => ?_⟩
    rw [← hbegan] at hdeadline
    exact deadlineFrom_ne_now hpos _ hdeadline

theorem OnTime.wake (h : OnTime settings start log c) (hkept : Kept answers settings store (events log) c)
    (hphase : c.phase = .waiting) {turn : Turn} (hturn : c.session.turn false c.now = (turn, s)) :
    OnTime settings start (log ++ entriesOf c.now turn) { c with session := s.settle turn, phase := phaseAfter turn } := by
  have hsound := (hkept.running (by simp [hphase])).sound
  have hwoken := woken_turn hsound c.now
  have hserves := h.taken_eq (by rw [hphase]; rfl)
  have harmed := h.armed (by simp [hphase])
  rw [hturn] at hwoken
  cases hwoken with
  | wait _ hlimit hunread =>
    have hresting := (turn_eq_wait_iff hsound).1 (congrArg Prod.fst hturn)
    rw [entriesOf, List.append_nil]
    exact {
      serves := hserves.trans (List.append_nil _).symm
      armed := fun _ => harmed
      looking := by rintro ⟨⟩
      waiting := fun _ => {
        inTime := (h.waiting hphase).inTime
        prompt := (h.waiting hphase).prompt
        served := fun hdue => absurd (hresting.inTime _ hdue) (Nat.lt_irrefl _) } }
  | serve => exact {
      serves := by
        rw [taken_append, events_append, events_entriesOf, List.append_nil, hserves]
        rfl
      armed := fun _ => harmed.trans (by simp [lastReply, entriesOf])
      looking := by rintro ⟨⟩
      waiting := by rintro ⟨⟩ }
  | finish => exact {
      serves := by
        rw [taken_append, events_append, events_entriesOf, List.append_nil, hserves]
        rfl
      armed := fun hover => absurd rfl hover
      looking := by rintro ⟨⟩
      waiting := by rintro ⟨⟩ }

/-- Whatever happens on the clock, all of this holds. -/
theorem OnTime.tick (h : OnTime settings start log c) (hpos : settings.idleTimeout ≠ some 0)
    (hkept : Kept answers settings store (events log) c) (hdated : ∀ entry ∈ log, entry.1 ≤ c.now)
    (htick : Tick answers c entries c') : OnTime settings start (log ++ entries) c' := by
  cases htick with
  | arrive _ _ hdue => exact h.arrive hdue _
  | pass hle hrests =>
    rw [List.append_nil]
    exact h.pass hkept hdated hle hrests
  | await hphase _ =>
    rw [List.append_nil]
    exact h.await hpos hphase
  | wake hphase hturn => exact h.wake hkept hphase hturn
  | apply hphase _ => exact {
      serves := by
        have hserves := h.serves
        rw [hphase] at hserves
        simpa [taken, events, applied, Phase.taken] using hserves
      armed := fun _ => (h.armed (by simp [hphase])).trans (by simp [lastReply])
      looking := by rintro ⟨⟩
      waiting := by rintro ⟨⟩ }
  | write hphase hreply =>
    obtain ⟨-, rfl⟩ := of_reply_eq_some hreply
    exact {
      serves := by
        have hserves := h.serves
        rw [hphase] at hserves
        simpa [taken, events, applied, Phase.taken] using hserves
      armed := fun _ => by simp [lastReply, hkept.sameSettings]
      looking := fun _ => by simp [lastReply]
      waiting := by rintro ⟨⟩ }
  | fail hphase _ _ => exact {
      serves := by
        have hserves := h.serves
        rw [hphase] at hserves
        simpa [taken, events, applied, Phase.taken] using hserves
      armed := fun hover => absurd rfl hover
      looking := by rintro ⟨⟩
      waiting := by rintro ⟨⟩ }

theorem Ticks.kept (h : Ticks answers (.start settings start store) log c) : Kept answers settings store (events log) c :=
  h.steps.kept (kept_start answers settings start store)

theorem Ticks.onTime (h : Ticks answers (.start settings start store) log c) (hpos : settings.idleTimeout ≠ some 0) :
    OnTime settings start log c := by
  induction h with
  | none => exact onTime_start settings start store
  | tick hticks htick ih => exact ih.tick hpos hticks.kept hticks.dated htick

/-! ## What becomes of a wait -/

/-- What became so far of a session that began to wait for a request: it still waits, it took one, or it ended. -/
inductive Deciding (settings : SessionSettings) (log₀ : Log) (began : Nat) (more : Log) (c : Conversation σ) : Prop where
  | waits : c.phase = .looking ∨ c.phase = .waiting → taken more = [] → lastReply began more = began →
      Deciding settings log₀ began more c
  | took {before after : Log} {moment : Nat} {request : Request} : more = before ++ (moment, .took request) :: after →
      taken before = [] → TakesInTime settings began (log₀ ++ before) moment request → Deciding settings log₀ began more c
  | ended {before : Log} {outcome : Except BrokerError Unit} : more = before ++ [(c.now, .ended outcome)] →
      taken before = [] → c.phase = .ended → c.session.outcome = some outcome →
      EndsInTime settings began (log₀ ++ before) c.now outcome → Deciding settings log₀ began more c

/-- A wait that goes on, or ends. -/
theorem Deciding.tick_of_waits (hpos : settings.idleTimeout ≠ some 0) (hlooking : c₀.now = lastReply start log)
    (hticks : Ticks answers (.start settings start store) (log ++ more) c) (hopen : c.session.inputOver = false)
    (hspeaks : SpeaksWell settings (log ++ more)) (hphase : c.phase = .looking ∨ c.phase = .waiting) (hnone : taken more = [])
    (hlast : lastReply c₀.now more = c₀.now) (htick : Tick answers c entries c') :
    Deciding settings log c₀.now (more ++ entries) c' := by
  have honTime := hticks.onTime hpos
  have hbegan : lastReply start (log ++ more) = c₀.now := by rw [lastReply_append, ← hlooking, hlast]
  cases htick with
  | arrive => exact .waits hphase (by rw [taken_append, hnone]; rfl) (by rw [lastReply_append, hlast]; rfl)
  | pass =>
    rw [List.append_nil]
    exact .waits hphase hnone hlast
  | await =>
    rw [List.append_nil]
    exact .waits (Or.inr rfl) hnone hlast
  | @wake turn s hwaiting hturn =>
    have hturned := turned_turn (hticks.kept.running (by simp [hwaiting])).sound c.now
    rw [hturn] at hturned
    cases hturned with
    | wait =>
      rw [entriesOf, List.append_nil]
      exact .waits (Or.inr rfl) hnone hlast
    | serve hfirst =>
      have htakes := honTime.takesInTime hticks.kept hticks.dated hwaiting hfirst
      rw [hbegan] at htakes
      exact .took rfl hnone htakes
    | finish hfinishes =>
      have hends := honTime.endsInTime hpos hticks.kept hopen hspeaks hwaiting hfinishes
      rw [hbegan] at hends
      exact .ended rfl hnone rfl rfl hends
  | apply happlying => rcases hphase with hphase | hphase <;> cases hphase.symm.trans happlying
  | write hreplying => rcases hphase with hphase | hphase <;> cases hphase.symm.trans hreplying
  | fail hreplying => rcases hphase with hphase | hphase <;> cases hphase.symm.trans hreplying

/-- Nothing happens on the clock of a session that is over. -/
theorem Tick.eq_of_ended (h : Tick answers c entries c') (hover : c.phase = .ended) : entries = [] ∧ c' = c := by
  cases h with
  | arrive hne => exact absurd hover hne
  | pass hle hrests =>
    rcases Nat.eq_or_lt_of_le hle with rfl | hlt
    · exact ⟨rfl, rfl⟩
    · have hrest := hrests c.now (Nat.le_refl _) hlt
      rw [Conversation.Rests, hover] at hrest
      exact hrest.elim
  | await hphase => cases hover.symm.trans hphase
  | wake hphase => cases hover.symm.trans hphase
  | apply hphase => cases hover.symm.trans hphase
  | write hphase => cases hover.symm.trans hphase
  | fail hphase => cases hover.symm.trans hphase

theorem Ticks.deciding (h₀ : Ticks answers (.start settings start store) log c₀) (hpos : settings.idleTimeout ≠ some 0)
    (hlooking : c₀.phase = .looking) (h : Ticks answers c₀ more c) (hspeaks : SpeaksWell settings (log ++ more)) :
    Deciding settings log c₀.now more c := by
  induction h with
  | none => exact .waits (Or.inl hlooking) rfl rfl
  | @tick more entries c₁ c₂ hticks htick ih =>
    rw [← List.append_assoc] at hspeaks
    have hall := h₀.trans hticks
    cases ih hspeaks.of_append with
    | waits hphase hnone hlast =>
      exact Deciding.tick_of_waits hpos ((h₀.onTime hpos).looking hlooking) hall hall.same.1 hspeaks.of_append hphase hnone hlast htick
    | took heq hnone htakes =>
      rw [heq, List.append_assoc]
      exact .took rfl hnone htakes
    | ended heq hnone hover houtcome hends =>
      obtain ⟨rfl, rfl⟩ := htick.eq_of_ended hover
      rw [List.append_nil]
      exact .ended heq hnone hover houtcome hends

/-! ## The time that a session is given -/

theorem idleTimeout_toSession_ne (server : ServerSettings) : server.toSession.idleTimeout ≠ some 0 := by
  rw [ServerSettings.toSession]
  split
  · nofun
  · rename_i hne
    intro hzero
    exact hne (UInt64.toNat_inj.1 (Option.some.inj hzero))

theorem deadlineFrom_toSession (h : server.idleTimeoutSeconds ≠ 0) (now : Nat) :
    deadlineFrom server.toSession now = some (now + server.idleTimeoutSeconds.toNat * 1000) := by
  rw [deadlineFrom, ServerSettings.toSession, if_neg h]
  rfl

/-- What became of a wait that began at one moment and was to be over at another. -/
inductive Decided (settings : SessionSettings) (log₀ more : Log) (began deadline : Nat) (c : Conversation σ) : Prop where
  /-- A request was complete in time. It was taken in time, and at once if it was there already. -/
  | served {before after : Log} {moment : Nat} {request : Request} : more = before ++ (moment, .took request) :: after →
      taken before = [] → moment < deadline → taken log₀ ++ [request] <+: heardBefore settings deadline (log₀ ++ more) →
      moment = began ∨ heardBefore settings moment (log₀ ++ more) = taken log₀ → Decided settings log₀ more began deadline c
  /-- No request was complete in time. The session ended well just when its time was over, and applied nothing more. -/
  | idle : c.phase = .ended → c.now = deadline → c.session.outcome = some (.ok ()) →
      heardBefore settings deadline (log₀ ++ more) = taken log₀ → (applied (events (log₀ ++ more))).map Prod.fst = taken log₀ →
      Decided settings log₀ more began deadline c

/-- What became of a wait by the time at which it was to be over. -/
theorem Deciding.decided (h : Deciding settings log c₀.now more c) (honTime : OnTime settings start (log ++ more) c)
    (hordered : (log ++ more).Pairwise fun entry later => entry.1 ≤ later.1) (hbegan : c₀.now = lastReply start log)
    (hdeadline : deadlineFrom settings c₀.now = some deadline) (hlate : deadline < c.now ∨ c.phase = .ended) :
    Decided settings log more c₀.now deadline c := by
  have hafter : ∀ {before after : Log} {moment : Nat} {entry : Entry}, more = before ++ (moment, entry) :: after →
      ∀ later ∈ (moment, entry) :: after, moment ≤ later.1 := by
    rintro before after moment entry rfl
    rw [← List.append_assoc] at hordered
    obtain ⟨-, htail, -⟩ := List.pairwise_append.1 hordered
    exact List.forall_mem_cons.2 ⟨Nat.le_refl _, (List.pairwise_cons.1 htail).1⟩
  cases h with
  | waits hphase _ hlast =>
    have hlast' : lastReply start (log ++ more) = c₀.now := by rw [lastReply_append, ← hbegan, hlast]
    have hintime : c.now ≤ deadline := by
      rcases hphase with hlooking | hwaiting
      · rw [honTime.looking hlooking, hlast']
        exact le_of_deadlineFrom hdeadline
      · refine (honTime.waiting hwaiting).inTime _ ?_
        rw [honTime.armed (by simp [hwaiting]), hlast', hdeadline]
    rcases hlate with hlate | hover
    · exact absurd hlate (Nat.not_lt_of_le hintime)
    · rcases hphase with hphase | hphase <;> cases hphase.symm.trans hover
  | @took before after moment request heq hnone htakes =>
    have hintime := htakes.inTime _ hdeadline
    have hheard := htakes.heard _ hintime
    have hprompt := htakes.prompt
    rw [taken_append, hnone, List.append_nil] at hheard hprompt
    have hsame : log ++ more = (log ++ before) ++ (moment, .took request) :: after := by rw [heq, List.append_assoc]
    refine .served heq hnone hintime ?_ (hprompt.imp_right fun hall => ?_)
    · rw [hsame]
      exact hheard.trans (heardBefore_prefix_append _ _ _ _)
    · rw [hsame, heardBefore_append_of_le (hafter heq), hall]
  | @ended before outcome heq hnone hover houtcome hends =>
    obtain ⟨rfl, hnow, hheard⟩ := hends
    cases hnow.symm.trans hdeadline
    rw [taken_append, hnone, List.append_nil] at hheard
    have htaken : taken more = [] := by rw [heq, taken_append, hnone]; rfl
    refine .idle hover rfl houtcome ?_ ?_
    · rw [heq, ← List.append_assoc, heardBefore_append_of_le (by simp), hheard]
    · rw [← honTime.taken_eq (by rw [hover]; rfl), taken_append, htaken, List.append_nil]

/-- What a session on the clock does with the time that its settings give it. It looked for the next request at `c₀`, and came to `c`
since. -/
structure KeepsTime (answers : (op : RegistryOp) → σ → op.Reply → σ → Prop) (server : ServerSettings) (start : Nat) (store : σ)
    (log₀ more : Log) (c₀ c : Conversation σ) : Prop where
  /-- The time counts from the last reply, or from the beginning. -/
  began : c₀.now = lastReply start log₀
  /-- When the time is over, or the session is, a request was taken in time, or none was complete in time and the session ended. -/
  decided : server.idleTimeoutSeconds ≠ 0 → ∀ deadline, deadline = c₀.now + server.idleTimeoutSeconds.toNat * 1000 →
    deadline < c.now ∨ c.phase = .ended → Decided server.toSession log₀ more c₀.now deadline c
  /-- A session that is given no such time ends only if a reply is too long to be written. -/
  never : server.idleTimeoutSeconds = 0 → c.phase = .ended → ∃ response ∈ (applied (events (log₀ ++ more))).map Prod.snd,
    ∀ frame, response.frame server.toSession.maxFrameLength ≠ .ok frame
  /-- While a session waits, all requests that were there before now are taken, unless it began to wait just now. -/
  prompt : c.phase = .waiting → c.now = lastReply start (log₀ ++ more) ∨
    heardBefore server.toSession c.now (log₀ ++ more) = taken (log₀ ++ more)
  /-- What is taken is applied, and what is applied is answered. -/
  serves : taken (log₀ ++ more) = (applied (events (log₀ ++ more))).map Prod.fst ++ c.phase.taken
  served : ServedInOrder answers server.toSession store (events (log₀ ++ more)) [] c
  /-- Without any help of its client the session goes on to every later moment, or to its end. -/
  goesOn : (∀ op s, ∃ reply s', answers op s reply s') → ∀ later, c.now ≤ later → ∃ rest c', Ticks answers c rest c' ∧
    arrived (events rest) = [] ∧ (c'.now = later ∨ c'.phase = .ended ∧ c'.now ≤ later)

/-- A session that is over although nothing hurried it could not write a reply. -/
theorem exists_unwritable (h : Ticks answers (.start settings start store) log c) (hspeaks : SpeaksWell settings log)
    (hidle : settings.idleTimeout = none) (hover : c.phase = .ended) :
    ∃ response ∈ (applied (events log)).map Prod.snd, ∀ frame, response.frame settings.maxFrameLength ≠ .ok frame := by
  obtain ⟨hinput, hpeer, -, hnone⟩ := h.same
  cases h.steps.closing.cause hover with
  | signalled hmem => exact absurd hmem hnone
  | idle hne => exact absurd hidle hne
  | bad htold => exact absurd htold hspeaks.not_told_error
  | drained hinput' => cases hinput.symm.trans hinput'
  | unwritten hmem hwhy => exact ⟨_, hmem, hwhy.resolve_left fun hgone => nomatch hpeer.symm.trans hgone⟩

/-- Whatever a client that speaks well sends and however its bytes are spread over time, only whole requests count for the time of
its session. -/
theorem keeps_time (h₀ : Ticks answers (.start server.toSession start store) log c₀) (hlooking : c₀.phase = .looking)
    (h : Ticks answers c₀ more c) (hspeaks : SpeaksWell server.toSession (log ++ more)) :
    KeepsTime answers server start store log more c₀ c := by
  have hpos := idleTimeout_toSession_ne server
  have hall := h₀.trans h
  have honTime := hall.onTime hpos
  have hbegan := (h₀.onTime hpos).looking hlooking
  have hgoes : c.GoesOn := ⟨hall.same.2.2.1, fun hne => (hall.kept.running hne).sound⟩
  exact {
    began := hbegan
    decided := fun hne deadline hdeadline hlate =>
      (h₀.deciding hpos hlooking h hspeaks).decided honTime hall.ordered hbegan (hdeadline ▸ deadlineFrom_toSession hne _) hlate
    never := fun hzero hover => exists_unwritable hall hspeaks (if_pos hzero) hover
    prompt := fun hphase => (honTime.waiting hphase).prompt
    serves := honTime.serves
    served := serves_in_order hall.steps []
    goesOn := fun htotal later hlater => hgoes.exists_later htotal hlater }

/-- A session waits on for the rest of a length. -/
theorem tick_pass_of_length_lt (hsound : s.receiver.Sound) (hopen : s.inputOver = false)
    (hshort : s.receiver.unread.length < Frame.prefixLength) (hdeadline : s.deadline = some deadline) (now later : Nat)
    (hle : now ≤ later) (hlater : later ≤ deadline) :
    Tick answers ⟨s, store, now, false, .waiting⟩ [] ⟨s, store, later, false, .waiting⟩ := by
  refine .pass (c := ⟨s, store, now, false, .waiting⟩) hle fun time _ htime => (turn_eq_wait_iff hsound).2 ?_
  refine ⟨hopen, Frame.first_of_length_lt hshort, fun deadline' h => ?_⟩
  cases hdeadline.symm.trans h
  exact Nat.lt_of_lt_of_le htime hlater

/-- Bytes may arrive until the time of a session is over. -/
theorem tick_arrive_of_lt (hopen : s.inputOver = false) (hdeadline : s.deadline = some deadline) (now : Nat)
    (hnow : now < deadline) (bytes : Bytes) : Tick answers ⟨s, store, now, false, .waiting⟩ [(now, .event (.arrived bytes))]
      ⟨s.feed bytes, store, now, false, .waiting⟩ := by
  refine .arrive (c := ⟨s, store, now, false, .waiting⟩) nofun hopen ?_
  rintro ⟨-, deadline', h, hle⟩
  cases hdeadline.symm.trans h
  exact absurd hnow (Nat.not_lt_of_le hle)

/-- A request that takes most of the time to arrive is served and the time counts anew, then part of a length arrives, and the session
ends a second after its reply. -/
theorem keeps_time_trickled : ∃ response bytes c₀ c,
    KeepsTime (Store.Answers FileOp.Performs) { maxFrameLength := 100, idleTimeoutSeconds := 1 } 0 idleStore
      [(0, .event (.arrived [0, 0, 0])), (900, .event (.arrived (25 :: checkBody))), (900, .took (.check "q")),
        (900, .event (.applied (.check "q") response)), (900, .event (.written bytes))]
      [(1500, .event (.arrived [0, 0, 0])), (1900, .ended (.ok ()))] c₀ c ∧ c₀.now = 900 ∧ c.now = 1900 ∧ c.phase = .ended := by
  obtain ⟨left, hrun⟩ := exists_runs_check
  obtain ⟨bytes, hframe⟩ := exists_frame_available
  have hwhole : Frame.Whole 100 Request.parse ([0, 0, 0] ++ (25 :: checkBody)) := ⟨checkBody, _, encode_checkBody, parse_checkBody⟩
  let opened : Session := .start ⟨100, some 1⟩ 0
  let part : Session := opened.feed [0, 0, 0]
  let fed : Session := part.feed (25 :: checkBody)
  let taken : Session := { fed with receiver := ⟨100, none, []⟩ }
  let answered : Session := { taken with deadline := some 1900 }
  let again : Session := answered.feed [0, 0, 0]
  have hsound : ∀ buffer, Receiver.Sound ⟨100, none, buffer⟩ := (Receiver.sound_start 100).feed
  have hfirst : Frame.first fed.receiver.limit Request.parse fed.receiver.unread = .ok (some (.check "q", [])) :=
    Frame.first_of_encode encode_checkBody parse_checkBody []
  have htake : fed.turn false 900 = (.serve (.check "q"), taken) := turn_of_first_eq_some (hsound _) hfirst 900
  have hwrite : taken.reply 900 (.available false) = (some bytes, answered) := reply_of_frame hframe rfl 900
  have hover : again.turn false 1900 = (.finish (.ok ()), again) := rfl
  -- The request takes 900 ms to arrive.
  have hbegin : Tick (Store.Answers FileOp.Performs) (.start ⟨100, some 1⟩ 0 idleStore) [(0, .event (.arrived [0, 0, 0]))]
      ⟨part, idleStore, 0, false, .looking⟩ :=
    .arrive (by rintro ⟨⟩) rfl (by rintro ⟨⟨⟩, -⟩)
  have hpart := ((Ticks.none.tick hbegin).tick (.await rfl rfl)).tick
    (tick_pass_of_length_lt (hsound _) rfl (by exact Nat.lt_succ_self 3) rfl 0 900 (by decide) (by decide))
  have hfed := (hpart.tick (tick_arrive_of_lt rfl rfl 900 (by decide) (25 :: checkBody))).tick (.wake rfl htake)
  have hserved := (hfed.tick (.apply rfl hrun)).tick (.write rfl hwrite)
  -- Then part of a length arrives, and nothing else until 1 s after the reply.
  have hawait : Tick (Store.Answers FileOp.Performs) ⟨answered, left, 900, false, .looking⟩ []
      ⟨answered, left, 900, false, .waiting⟩ := .await rfl rfl
  have hend : Tick (Store.Answers FileOp.Performs) ⟨again, left, 1900, false, .waiting⟩ [(1900, .ended (.ok ()))]
      ⟨again.finish (.ok ()), left, 1900, false, .ended⟩ := .wake (c := ⟨again, left, 1900, false, .waiting⟩) rfl hover
  have hwaits := (Ticks.none.tick hawait).tick
    (tick_pass_of_length_lt (hsound _) rfl (by exact Nat.succ_pos 3) rfl 900 1500 (by decide) (by decide))
  have hshort := (hwaits.tick (tick_arrive_of_lt rfl rfl 1500 (by decide) [0, 0, 0])).tick
    (tick_pass_of_length_lt (hsound _) rfl (by exact Nat.lt_succ_self 3) rfl 1500 1900 (by decide) (by decide))
  have hended := hshort.tick hend
  refine ⟨.available false, bytes, _, _, keeps_time hserved rfl hended ?_, rfl, rfl, rfl⟩
  refine ⟨25 :: checkBody, [[0, 0, 0] ++ (25 :: checkBody), [0, 0, 0] ++ (25 :: checkBody)], ?_, ?_⟩
  · exact List.forall_mem_cons.2 ⟨hwhole, List.forall_mem_singleton.2 hwhole⟩
  · simp [events, arrived]

end QueueBroker.Session

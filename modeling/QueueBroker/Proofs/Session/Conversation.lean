import Mathlib.Data.List.Forall2
import QueueBroker.Proofs.Broker.Programs
import QueueBroker.Proofs.Message.RoundTrip
import QueueBroker.Proofs.Protocol.Stream
import QueueBroker.Session.Loop

/-!
# Sessions and what happens to them

While a session serves its client, bytes arrive in chunks, the client may end its input or go away, time passes, and at some moment
the broker may signal that it ends. `Session.Step` lets all of this happen between any two things that the session does. Whatever
happens, the session applies the first requests of the stream, in order and each once, and writes their replies.
-/

namespace QueueBroker.Session

/-! ## Conversations -/

/-- What a session is doing: about to look whether the broker ends, waiting for a request, applying one, writing a reply, or
nothing any more. -/
inductive Phase where
  | looking
  | waiting
  | applying (request : Request)
  | replying (response : Response)
  | ended

/-- A session, the store that it works on, the time, and whether the broker signalled that it ends. -/
structure Conversation (σ : Type) where
  session : Session
  store : σ
  now : Nat
  signalled : Bool
  phase : Phase

/-- What can be told of a conversation. -/
inductive Event where
  | arrived (bytes : Bytes)
  | signalled
  | applied (request : Request) (response : Response)
  | written (bytes : Bytes)

/-- What a session does after it woke. -/
def phaseAfter : Turn → Phase
  | .wait => .waiting
  | .finish _ => .ended
  | .serve request => .applying request

/-- A session after it woke. -/
def settle (s : Session) : Turn → Session
  | .finish outcome => s.finish outcome
  | _ => s

/-- One thing that happens in a conversation. `answers` says how the registry answers, whatever other sessions do to it meanwhile.
A session that waits may still take a request when the signal comes. -/
inductive Step {σ : Type} (answers : (op : RegistryOp) → σ → op.Reply → σ → Prop) : Conversation σ → List Event → Conversation σ → Prop where
  | arrive {c : Conversation σ} {bytes : Bytes} : c.phase ≠ .ended → c.session.inputOver = false →
      Step answers c [.arrived bytes] { c with session := c.session.feed bytes }
  | endInput {c : Conversation σ} : Step answers c [] { c with session := c.session.endInput }
  | hangUp {c : Conversation σ} : Step answers c [] { c with session := c.session.hangUp }
  | pass {c : Conversation σ} {later : Nat} : c.now ≤ later → Step answers c [] { c with now := later }
  | signal {c : Conversation σ} : Step answers c [.signalled] { c with signalled := true }
  | await {c : Conversation σ} : c.phase = .looking → c.signalled = false → Step answers c [] { c with phase := .waiting }
  | notice {c : Conversation σ} {turn : Turn} {s : Session} : c.phase = .looking ∨ c.phase = .waiting → c.signalled = true →
      c.session.turn true c.now = (turn, s) → Step answers c [] { c with session := s.settle turn, phase := phaseAfter turn }
  | wake {c : Conversation σ} {turn : Turn} {s : Session} : c.phase = .waiting → c.session.turn false c.now = (turn, s) →
      Step answers c [] { c with session := s.settle turn, phase := phaseAfter turn }
  | apply {c : Conversation σ} {request : Request} {response : Response} {store : σ} : c.phase = .applying request →
      request.handle.Runs answers c.store response store →
      Step answers c [.applied request response] { c with store, phase := .replying response }
  | write {c : Conversation σ} {response : Response} {bytes : Bytes} {s : Session} : c.phase = .replying response →
      c.session.reply c.now response = (some bytes, s) →
      Step answers c [.written bytes] { c with session := s, phase := .looking }
  | fail {c : Conversation σ} {response : Response} {s : Session} : c.phase = .replying response →
      c.session.reply c.now response = (none, s) → Step answers c [] { c with session := s, phase := .ended }

/-- Any number of things that happen in a conversation. -/
inductive Steps {σ : Type} (answers : (op : RegistryOp) → σ → op.Reply → σ → Prop) (c : Conversation σ) :
    List Event → Conversation σ → Prop where
  | none : Steps answers c [] c
  | step {trace events : List Event} {c₁ c₂ : Conversation σ} : Steps answers c trace c₁ → Step answers c₁ events c₂ →
      Steps answers c (trace ++ events) c₂

/-- A conversation that begins. -/
def Conversation.start {σ : Type} (settings : SessionSettings) (now : Nat) (store : σ) : Conversation σ :=
  ⟨.start settings now, store, now, false, .looking⟩

/-! ## Traces -/

/-- The bytes that arrived. -/
def arrived (trace : List Event) : Bytes :=
  trace.flatMap fun
    | .arrived bytes => bytes
    | _ => []

/-- The requests that were applied, with what came of them. -/
def applied (trace : List Event) : List (Request × Response) :=
  trace.filterMap fun
    | .applied request response => some (request, response)
    | _ => none

/-- The frames that were written. -/
def written (trace : List Event) : List Bytes :=
  trace.filterMap fun
    | .written bytes => some bytes
    | _ => none

@[simp] theorem arrived_append (trace events : List Event) : arrived (trace ++ events) = arrived trace ++ arrived events :=
  List.flatMap_append

@[simp] theorem applied_append (trace events : List Event) : applied (trace ++ events) = applied trace ++ applied events :=
  List.filterMap_append

@[simp] theorem written_append (trace events : List Event) : written (trace ++ events) = written trace ++ written events :=
  List.filterMap_append

variable {σ : Type} {answers : (op : RegistryOp) → σ → op.Reply → σ → Prop} {settings : SessionSettings} {now : Nat}
  {store store' : σ} {trace : List Event} {c c' : Conversation σ} {s s' : Session}

/-! ## What a session does when it wakes -/

/-- What a session does when it wakes, by what the bytes say that it has not answered for. -/
inductive Woken (s : Session) : Turn → Session → Prop where
  | serve {request : Request} {rest : Bytes} :
      Frame.first s.receiver.limit Request.parse s.receiver.unread = .ok (some (request, rest)) →
      Woken s (.serve request) { s with receiver := ⟨s.receiver.limit, none, rest⟩ }
  | wait {r : Receiver} : r.Sound → r.limit = s.receiver.limit → r.unread = s.receiver.unread →
      Woken s .wait { s with receiver := r }
  | finish {r : Receiver} {outcome : Except BrokerError Unit} :
      (∀ found, Frame.first s.receiver.limit Request.parse s.receiver.unread ≠ .ok (some found)) →
      Woken s (.finish outcome) { s with receiver := r }

theorem turn_of_error {e : BrokerError} {r : Receiver} (h : s.nextRequest = (.error e, r)) (now : Nat) :
    s.turn false now = (.finish (.error e), { s with receiver := r }) := by
  rw [turn, h]
  rfl

theorem turn_of_some {request : Request} {r : Receiver} (h : s.nextRequest = (.ok (some request), r)) (now : Nat) :
    s.turn false now = (.serve request, { s with receiver := r }) := by
  rw [turn, h]
  rfl

theorem turn_of_none {r : Receiver} (h : s.nextRequest = (.ok none, r)) (now : Nat) :
    s.turn false now = (if s.inputOver || s.deadline.any (· ≤ now) then .finish (.ok ()) else .wait, { s with receiver := r }) := by
  rw [turn, h]
  by_cases hover : (s.inputOver || s.deadline.any (· ≤ now)) = true
  · simp [hover]
  · simp [hover]

/-- A frame that is not complete is bad only at the end of the stream. -/
theorem nextRequest_of_none {r : Receiver} (h : s.receiver.next Request.parse = (.ok none, r)) :
    s.nextRequest = (.ok none, r) ∨ s.nextRequest = (.error (.stream .cut), r) := by
  rw [nextRequest, Receiver.finish, h]
  cases s.inputOver with
  | false => exact Or.inl rfl
  | true =>
    dsimp only
    cases r.buffer.isEmpty with
    | true => exact Or.inl rfl
    | false => exact Or.inr rfl

/-- A complete frame, good or bad, counts as such at the end of the stream too. -/
theorem nextRequest_of_ne_none {result : Except BrokerError (Option Request)} {r : Receiver}
    (h : s.receiver.next Request.parse = (result, r)) (hne : result ≠ .ok none) : s.nextRequest = (result, r) := by
  rw [nextRequest, Receiver.finish, h]
  cases s.inputOver with
  | false => rfl
  | true =>
    match result, hne with
    | .error e, _ => rfl
    | .ok (some request), _ => rfl

theorem turn_of_first_eq_some {request : Request} {rest : Bytes} (hs : s.receiver.Sound)
    (hfirst : Frame.first s.receiver.limit Request.parse s.receiver.unread = .ok (some (request, rest))) (now : Nat) :
    s.turn false now = (.serve request, { s with receiver := ⟨s.receiver.limit, none, rest⟩ }) :=
  turn_of_some (nextRequest_of_ne_none (Receiver.next_of_first_eq_some hs hfirst) nofun) now

theorem turn_of_first_eq_error {e : BrokerError} (hs : s.receiver.Sound)
    (hfirst : Frame.first s.receiver.limit Request.parse s.receiver.unread = .error e) (now : Nat) :
    s.turn false now = (.finish (.error e), { s with receiver := (s.receiver.next Request.parse).2 }) := by
  have hnext : s.receiver.next Request.parse = (.error e, (s.receiver.next Request.parse).2) :=
    Prod.ext (Receiver.next_of_first_eq_error hs hfirst) rfl
  exact turn_of_error (nextRequest_of_ne_none hnext nofun) now

theorem woken_turn (hs : s.receiver.Sound) (now : Nat) : s.Woken (s.turn false now).1 (s.turn false now).2 := by
  cases hfirst : Frame.first s.receiver.limit Request.parse s.receiver.unread with
  | ok found? =>
    cases found? with
    | some found =>
      obtain ⟨request, rest⟩ := found
      rw [turn_of_first_eq_some hs hfirst]
      exact .serve hfirst
    | none =>
      have hnone : ∀ found, Frame.first s.receiver.limit Request.parse s.receiver.unread ≠ .ok (some found) := by
        rw [hfirst]
        exact nofun
      obtain ⟨r, hnext, hsound, hlimit, hunread⟩ := Receiver.next_of_first_eq_none hs hfirst
      -- If the input is over, what is left of a frame is an error, and the session is over too.
      rcases nextRequest_of_none hnext with hrequest | hrequest
      · rw [turn_of_none hrequest]
        split
        · exact .finish hnone
        · exact .wait hsound hlimit hunread
      · rw [turn_of_error hrequest]
        exact .finish hnone
  | error e =>
    have hnone : ∀ found, Frame.first s.receiver.limit Request.parse s.receiver.unread ≠ .ok (some found) := by
      rw [hfirst]
      exact nofun
    rw [turn_of_first_eq_error hs hfirst]
    exact .finish hnone

/-! ## What a session does with an answer -/

theorem reply_of_frame {response : Response} {bytes : Bytes} (hframe : response.frame s.settings.maxFrameLength = .ok bytes)
    (hpeer : s.peerGone = false) (now : Nat) :
    s.reply now response = (some bytes, { s with deadline := deadlineFrom s.settings now }) := by
  rw [reply, hframe]
  dsimp only
  rw [hpeer]
  rfl

theorem of_reply_eq_some {response : Response} {bytes : Bytes} (h : s.reply now response = (some bytes, s')) :
    response.frame s.settings.maxFrameLength = .ok bytes ∧ s' = { s with deadline := deadlineFrom s.settings now } := by
  rw [reply] at h
  cases hframe : response.frame s.settings.maxFrameLength with
  | error e =>
    rw [hframe] at h
    cases h
  | ok frame =>
    rw [hframe] at h
    dsimp only at h
    split at h
    · cases h
    · cases h
      exact ⟨rfl, rfl⟩

theorem of_reply_eq_none {response : Response} (h : s.reply now response = (none, s')) : ∃ e, s' = s.finish (.error e) := by
  rw [reply] at h
  cases hframe : response.frame s.settings.maxFrameLength with
  | error e =>
    rw [hframe] at h
    cases h
    exact ⟨e, rfl⟩
  | ok frame =>
    rw [hframe] at h
    dsimp only at h
    split at h
    · cases h
      exact ⟨_, rfl⟩
    · cases h

/-! ## Taking requests off a stream -/

/-- The bytes of a stream, split into frames that told the requests taken so far and those that a receiver has not answered for. -/
structure Consumed (limit : Nat) (bytes : Bytes) (taken : List Request) (r : Receiver) : Prop where
  sound : r.Sound
  sameLimit : r.limit = limit
  split : ∃ before, bytes = before ++ r.unread ∧ Frame.Told limit Request.parse before taken (.ok [])

section Consumed

variable {limit : Nat} {bytes rest : Bytes} {taken : List Request} {request : Request} {r r' : Receiver}

theorem consumed_start (limit : Nat) : Consumed limit [] [] (.start limit) :=
  ⟨Receiver.sound_start limit, rfl, [], rfl, .waits rfl⟩

theorem Consumed.feed (h : Consumed limit bytes taken r) (more : Bytes) : Consumed limit (bytes ++ more) taken (r.feed more) := by
  obtain ⟨hsound, hlimit, before, rfl, htold⟩ := h
  refine ⟨hsound.feed more, hlimit, before, ?_, htold⟩
  rw [Receiver.unread_feed, List.append_assoc]

theorem Consumed.keep (h : Consumed limit bytes taken r) (hsound : r'.Sound) (hlimit : r'.limit = r.limit)
    (hunread : r'.unread = r.unread) : Consumed limit bytes taken r' := by
  obtain ⟨-, rfl, before, rfl, htold⟩ := h
  exact ⟨hsound, hlimit, before, by rw [hunread], htold⟩

/-- A request that is taken is the next that the stream tells. -/
theorem Consumed.take (h : Consumed limit bytes taken r)
    (hfirst : Frame.first r.limit Request.parse r.unread = .ok (some (request, rest))) :
    Consumed limit bytes (taken ++ [request]) ⟨r.limit, none, rest⟩ := by
  obtain ⟨-, rfl, before, rfl, htold⟩ := h
  obtain ⟨frame, hunread, halone⟩ := Frame.exists_frame_of_first hfirst
  refine ⟨(fun _ h => nomatch h), rfl, before ++ frame, ?_, ?_⟩
  · rw [hunread, List.append_assoc]
    rfl
  · exact htold.append (.document halone (.waits rfl))

theorem Consumed.prefix_documents (h : Consumed limit bytes taken r) : taken <+: Frame.documents limit Request.parse bytes := by
  obtain ⟨-, -, before, rfl, htold⟩ := h
  have hfirst := Frame.documents_prefix_append limit Request.parse before r.unread
  rw [htold.documents_eq] at hfirst
  exact hfirst

/-- When no further request is complete, all were taken. -/
theorem Consumed.documents_eq (h : Consumed limit bytes taken r)
    (hnone : ∀ found, Frame.first r.limit Request.parse r.unread ≠ .ok (some found)) :
    Frame.documents limit Request.parse bytes = taken := by
  obtain ⟨-, rfl, before, rfl, htold⟩ := h
  have hlast : ∃ ending, Frame.Told r.limit Request.parse r.unread [] ending := by
    cases hfirst : Frame.first r.limit Request.parse r.unread with
    | error e => exact ⟨_, .fails hfirst⟩
    | ok found? =>
      cases found? with
      | none => exact ⟨_, .waits hfirst⟩
      | some found => exact absurd hfirst (hnone found)
  obtain ⟨ending, hlast⟩ := hlast
  have hall : Frame.Told r.limit Request.parse (before ++ r.unread) (taken ++ []) ending := htold.append hlast
  rw [hall.documents_eq, List.append_nil]

end Consumed

/-! ## What is kept throughout -/

/-- Requests that were applied one after the other, and what came of each. -/
inductive Applies (answers : (op : RegistryOp) → σ → op.Reply → σ → Prop) (store : σ) : List (Request × Response) → σ → Prop where
  | nil : Applies answers store [] store
  | snoc {done : List (Request × Response)} {store₁ store₂ : σ} {request : Request} {response : Response} :
      Applies answers store done store₁ → request.handle.Runs answers store₁ response store₂ →
      Applies answers store (done ++ [(request, response)]) store₂

/-- The replies that are missing: that which is about to be written, or that which could not be. -/
inductive Missing (c : Conversation σ) : List Response → Prop where
  | none : (∀ response, c.phase ≠ .replying response) → Missing c []
  | pending {response : Response} : c.phase = .replying response → Missing c [response]
  | failed {response : Response} {e : BrokerError} : c.phase = .ended → c.session.outcome = some (.error e) → Missing c [response]

/-- The request that was taken and is not applied yet. -/
def Phase.taken : Phase → List Request
  | .applying request => [request]
  | _ => []

/-- How many requests a session may have applied since the signal. -/
def Phase.afterSignal : Phase → Nat
  | .waiting => 0
  | .applying _ => 0
  | _ => 1

/-- What is kept throughout a conversation. -/
structure Kept (answers : (op : RegistryOp) → σ → op.Reply → σ → Prop) (settings : SessionSettings) (store : σ)
    (trace : List Event) (c : Conversation σ) : Prop where
  sameSettings : c.session.settings = settings
  running : c.phase ≠ .ended →
    Consumed settings.maxFrameLength (arrived trace) ((applied trace).map Prod.fst ++ c.phase.taken) c.session.receiver
  ended : c.phase = .ended →
    (applied trace).map Prod.fst <+: Frame.documents settings.maxFrameLength Request.parse (arrived trace) ∧
      (.signalled ∈ trace ∨ (written trace).length < (applied trace).length ∨
        (applied trace).map Prod.fst = Frame.documents settings.maxFrameLength Request.parse (arrived trace))
  applies : Applies answers store (applied trace) c.store
  replies : ∃ answered missing, (applied trace).map Prod.snd = answered ++ missing ∧ Missing c missing ∧
    List.Forall₂ (fun response bytes => response.frame settings.maxFrameLength = .ok bytes) answered (written trace)
  signal : c.signalled = true ↔ .signalled ∈ trace
  late : ∀ before after, trace = before ++ .signalled :: after → (applied after).length ≤ c.phase.afterSignal

theorem kept_start (answers : (op : RegistryOp) → σ → op.Reply → σ → Prop) (settings : SessionSettings) (now : Nat) (store : σ) :
    Kept answers settings store [] (.start settings now store) where
  sameSettings := rfl
  running _ := consumed_start _
  ended h := nomatch h
  applies := .nil
  replies := ⟨[], [], rfl, .none nofun, .nil⟩
  signal := by simp [Conversation.start]
  late before after h := absurd h (by simp)

/-- The last event of a trace is the signal, or it came after it. -/
theorem eq_or_exists_of_append_singleton {α : Type} {trace before after : List α} {e x : α} (h : trace ++ [e] = before ++ x :: after) :
    (after = [] ∧ trace = before ∧ e = x) ∨ ∃ after', after = after' ++ [e] ∧ trace = before ++ x :: after' := by
  rcases List.eq_nil_or_concat after with rfl | ⟨after', y, rfl⟩
  · obtain ⟨rfl, heq⟩ := List.append_inj' h rfl
    exact Or.inl ⟨rfl, rfl, List.head_eq_of_cons_eq heq⟩
  · rw [List.concat_eq_append, ← List.cons_append, ← List.append_assoc] at h
    obtain ⟨rfl, heq⟩ := List.append_inj' h rfl
    obtain rfl := List.head_eq_of_cons_eq heq
    exact Or.inr ⟨after', List.concat_eq_append, rfl⟩

/-- Since the signal as many requests were applied as before and in the last step. -/
theorem Kept.late_append (h : Kept answers settings store trace c) {e : Event} (he : e ≠ .signalled) :
    ∀ before after, trace ++ [e] = before ++ .signalled :: after →
      (applied after).length ≤ c.phase.afterSignal + (applied [e]).length := by
  intro before after heq
  rcases eq_or_exists_of_append_singleton heq with ⟨-, -, rfl⟩ | ⟨after', rfl, rfl⟩
  · exact absurd rfl he
  · rw [applied_append, List.length_append]
    exact Nat.add_le_add_right (h.late _ _ rfl) _

/-- A conversation in which neither session nor broker does anything. -/
theorem Kept.calm (h : Kept answers settings store trace c) (hphase : c'.phase = c.phase) (hstore : c'.store = c.store)
    (hsignalled : c'.signalled = c.signalled) (hreceiver : c'.session.receiver = c.session.receiver)
    (hsettings : c'.session.settings = c.session.settings) (houtcome : c'.session.outcome = c.session.outcome) :
    Kept answers settings store trace c' where
  sameSettings := hsettings.trans h.sameSettings
  running := by
    rw [hphase, hreceiver]
    exact h.running
  ended := hphase ▸ h.ended
  applies := hstore ▸ h.applies
  replies := by
    obtain ⟨answered, missing, heq, hmissing, hframes⟩ := h.replies
    refine ⟨answered, missing, heq, ?_, hframes⟩
    cases hmissing with
    | none hne => exact .none (hphase ▸ hne)
    | pending hreply => exact .pending (hphase.trans hreply)
    | failed hover herror => exact .failed (hphase.trans hover) (houtcome.trans herror)
  signal := hsignalled ▸ h.signal
  late := hphase ▸ h.late

/-- While no reply is due all requests applied are answered. -/
theorem Kept.answered (h : Kept answers settings store trace c) (hne : c.phase ≠ .ended)
    (hreply : ∀ response, c.phase ≠ .replying response) :
    List.Forall₂ (fun response bytes => response.frame settings.maxFrameLength = .ok bytes) ((applied trace).map Prod.snd)
      (written trace) := by
  obtain ⟨answered, missing, heq, hmissing, hframes⟩ := h.replies
  cases hmissing with
  | none =>
    rw [heq, List.append_nil]
    exact hframes
  | pending hpending => exact absurd hpending (hreply _)
  | failed hover => exact absurd hover hne

/-- Bytes that arrive wait to be taken. -/
theorem Kept.arrive (h : Kept answers settings store trace c) (hne : c.phase ≠ .ended) (bytes : Bytes) :
    Kept answers settings store (trace ++ [.arrived bytes]) { c with session := c.session.feed bytes } where
  sameSettings := h.sameSettings
  running hne := by
    have hfed : Consumed settings.maxFrameLength (arrived trace ++ bytes) ((applied trace).map Prod.fst ++ c.phase.taken)
        (c.session.feed bytes).receiver := (h.running hne).feed bytes
    simpa [arrived, applied] using hfed
  ended hover := absurd hover hne
  applies := by simpa [applied] using h.applies
  replies := by
    obtain ⟨answered, missing, heq, hmissing, hframes⟩ := h.replies
    refine ⟨answered, missing, by simpa [applied] using heq, ?_, by simpa [written] using hframes⟩
    cases hmissing with
    | none hne => exact .none hne
    | pending hreply => exact .pending hreply
    | failed hover => exact absurd hover hne
  signal := by simpa using h.signal
  late before after heq := h.late_append (e := .arrived bytes) nofun before after heq

theorem Kept.signal_step (h : Kept answers settings store trace c) :
    Kept answers settings store (trace ++ [.signalled]) { c with signalled := true } where
  sameSettings := h.sameSettings
  running hne := by simpa [arrived, applied] using h.running hne
  ended hover := by
    obtain ⟨hfirst, -⟩ := h.ended hover
    exact ⟨by simpa [arrived, applied] using hfirst, Or.inl (by simp)⟩
  applies := by simpa [applied] using h.applies
  replies := by
    obtain ⟨answered, missing, heq, hmissing, hframes⟩ := h.replies
    refine ⟨answered, missing, by simpa [applied] using heq, ?_, by simpa [written] using hframes⟩
    cases hmissing with
    | none hne => exact .none hne
    | pending hreply => exact .pending hreply
    | failed hover herror => exact .failed hover herror
  signal := by simp
  late before after heq := by
    rcases eq_or_exists_of_append_singleton heq with ⟨rfl, -, -⟩ | ⟨after', rfl, rfl⟩
    · exact Nat.zero_le _
    · have hlate := h.late _ _ rfl
      simpa [applied] using hlate

/-- While no request is being applied, all that were taken were. -/
theorem Kept.consumed (h : Kept answers settings store trace c) (hne : c.phase ≠ .ended) (htaken : c.phase.taken = []) :
    Consumed settings.maxFrameLength (arrived trace) ((applied trace).map Prod.fst) c.session.receiver := by
  have hrunning := h.running hne
  rwa [htaken, List.append_nil] at hrunning

/-- A session that is told that the broker ends stops where it is. -/
theorem Kept.notice (h : Kept answers settings store trace c) (hphase : c.phase = .looking ∨ c.phase = .waiting)
    (hsignalled : .signalled ∈ trace) (outcome : Except BrokerError Unit) :
    Kept answers settings store trace { c with session := c.session.finish outcome, phase := .ended } := by
  have hne : c.phase ≠ .ended := by
    rcases hphase with heq | heq <;> rw [heq] <;> nofun
  have htaken : c.phase.taken = [] := by
    rcases hphase with heq | heq <;> rw [heq] <;> rfl
  have hreply : ∀ response, c.phase ≠ .replying response := by
    intro response
    rcases hphase with heq | heq <;> rw [heq] <;> nofun
  have hlate : c.phase.afterSignal ≤ 1 := by
    rcases hphase with heq | heq <;> rw [heq] <;> decide
  exact {
    sameSettings := h.sameSettings
    running := fun hover => absurd rfl hover
    ended := fun _ => ⟨(h.consumed hne htaken).prefix_documents, Or.inl hsignalled⟩
    applies := h.applies
    replies := ⟨_, [], (List.append_nil _).symm, .none nofun, h.answered hne hreply⟩
    signal := h.signal
    late := fun before after heq => Nat.le_trans (h.late before after heq) hlate }

/-- Nothing was applied since the signal when a session begins to wait. -/
theorem Kept.await (h : Kept answers settings store trace c) (hphase : c.phase = .looking) (hsignalled : c.signalled = false) :
    Kept answers settings store trace { c with phase := .waiting } where
  sameSettings := h.sameSettings
  running _ := by
    have hconsumed := h.consumed (by rw [hphase]; nofun) (by rw [hphase]; rfl)
    simpa [Phase.taken] using hconsumed
  ended hover := nomatch hover
  applies := h.applies
  replies := ⟨_, [], (List.append_nil _).symm, .none nofun,
    h.answered (by rw [hphase]; nofun) fun response => by rw [hphase]; nofun⟩
  signal := h.signal
  late before after heq := by
    have hmem : .signalled ∈ trace := by rw [heq]; simp
    rw [h.signal.2 hmem] at hsignalled
    cases hsignalled

/-- A session that wakes goes on to wait, takes the next request of the stream, or ends because there is none. -/
theorem Kept.wake (h : Kept answers settings store trace c) (hphase : c.phase = .waiting) {turn : Turn}
    (hwoken : c.session.Woken turn s) :
    Kept answers settings store trace { c with session := s.settle turn, phase := phaseAfter turn } := by
  have hconsumed := h.consumed (by rw [hphase]; nofun) (by rw [hphase]; rfl)
  have hanswered := h.answered (by rw [hphase]; nofun) fun response => by rw [hphase]; nofun
  have hlate := h.late
  rw [hphase] at hlate
  cases hwoken with
  | wait hsound hlimit hunread => exact {
      sameSettings := h.sameSettings
      running := fun _ => by
        have hkept := hconsumed.keep hsound hlimit hunread
        simpa [phaseAfter, settle, Phase.taken] using hkept
      ended := nofun
      applies := h.applies
      replies := ⟨_, [], (List.append_nil _).symm, .none nofun, hanswered⟩
      signal := h.signal
      late := hlate }
  | serve hfirst => exact {
      sameSettings := h.sameSettings
      running := fun _ => hconsumed.take hfirst
      ended := nofun
      applies := h.applies
      replies := ⟨_, [], (List.append_nil _).symm, .none nofun, hanswered⟩
      signal := h.signal
      late := hlate }
  | finish hstops => exact {
      sameSettings := h.sameSettings
      running := fun hover => absurd rfl hover
      ended := fun _ => ⟨hconsumed.prefix_documents, Or.inr (Or.inr (hconsumed.documents_eq hstops).symm)⟩
      applies := h.applies
      replies := ⟨_, [], (List.append_nil _).symm, .none nofun, hanswered⟩
      signal := h.signal
      late := fun before after heq => Nat.le_trans (hlate before after heq) (Nat.zero_le _) }

/-- The request that was taken is applied, and its reply is due. -/
theorem Kept.apply (h : Kept answers settings store trace c) {request : Request} {response : Response}
    (hphase : c.phase = .applying request) (hrun : request.handle.Runs answers c.store response store') :
    Kept answers settings store (trace ++ [.applied request response]) { c with store := store', phase := .replying response } where
  sameSettings := h.sameSettings
  running _ := by
    have hrunning := h.running (by rw [hphase]; nofun)
    rw [hphase] at hrunning
    simpa [arrived, applied, Phase.taken] using hrunning
  ended hover := nomatch hover
  applies := by
    rw [applied_append]
    exact h.applies.snoc hrun
  replies := by
    have hanswered := h.answered (by rw [hphase]; nofun) fun response => by rw [hphase]; nofun
    have hwritten : written (trace ++ [.applied request response]) = written trace := by simp [written]
    refine ⟨_, [response], ?_, .pending rfl, hwritten.symm ▸ hanswered⟩
    rw [applied_append, List.map_append]
    rfl
  signal := by simpa using h.signal
  late before after heq := by
    have hlate := h.late_append (e := .applied request response) nofun before after heq
    rw [hphase] at hlate
    exact hlate

/-- The reply that is due is written. -/
theorem Kept.write (h : Kept answers settings store trace c) {response : Response} {bytes : Bytes}
    (hphase : c.phase = .replying response) (hreply : c.session.reply c.now response = (some bytes, s)) :
    Kept answers settings store (trace ++ [.written bytes]) { c with session := s, phase := .looking } := by
  obtain ⟨hframe, rfl⟩ := of_reply_eq_some hreply
  have hconsumed := h.consumed (by rw [hphase]; nofun) (by rw [hphase]; rfl)
  have hlate := h.late_append (e := .written bytes) nofun
  rw [hphase] at hlate
  exact {
    sameSettings := h.sameSettings
    running := fun _ => by simpa [arrived, applied, Phase.taken] using hconsumed
    ended := nofun
    applies := by simpa [applied] using h.applies
    replies := by
      obtain ⟨answered, missing, heq, hmissing, hframes⟩ := h.replies
      cases hmissing with
      | none hne => exact absurd hphase (hne _)
      | failed hover => rw [hphase] at hover; cases hover
      | pending hpending =>
        rw [hphase] at hpending
        cases hpending
        refine ⟨answered ++ [response], [], by simpa [applied] using heq, .none nofun, ?_⟩
        rw [written_append]
        exact List.rel_append hframes (.cons (h.sameSettings ▸ hframe) .nil)
    signal := by simpa using h.signal
    late := hlate }

/-- The reply that is due cannot be written, and the session ends. -/
theorem Kept.fail (h : Kept answers settings store trace c) {response : Response} (hphase : c.phase = .replying response)
    (hreply : c.session.reply c.now response = (none, s)) :
    Kept answers settings store trace { c with session := s, phase := .ended } := by
  obtain ⟨e, rfl⟩ := of_reply_eq_none hreply
  have hlate := h.late
  rw [hphase] at hlate
  obtain ⟨answered, missing, heq, hmissing, hframes⟩ := h.replies
  cases hmissing with
  | none hne => exact absurd hphase (hne _)
  | failed hover => rw [hphase] at hover; cases hover
  | pending hpending =>
    have hfewer : (written trace).length < (applied trace).length := by
      have hlength := congrArg List.length heq
      rw [List.length_map, List.length_append, List.length_singleton, hframes.length_eq] at hlength
      omega
    exact {
      sameSettings := h.sameSettings
      running := fun hover => absurd rfl hover
      ended := fun _ => ⟨(h.consumed (by rw [hphase]; nofun) (by rw [hphase]; rfl)).prefix_documents, Or.inr (Or.inl hfewer)⟩
      applies := h.applies
      replies := ⟨answered, _, heq, .failed rfl rfl, hframes⟩
      signal := h.signal
      late := hlate }

/-- Whatever happens, all of this is kept. -/
theorem Kept.step (h : Kept answers settings store trace c) {events : List Event} (hstep : Step answers c events c') :
    Kept answers settings store (trace ++ events) c' := by
  cases hstep with
  | arrive hne _ => exact h.arrive hne _
  | signal => exact h.signal_step
  | apply hphase hrun => exact h.apply hphase hrun
  | write hphase hreply => exact h.write hphase hreply
  | endInput =>
    rw [List.append_nil]
    exact h.calm rfl rfl rfl rfl rfl rfl
  | hangUp =>
    rw [List.append_nil]
    exact h.calm rfl rfl rfl rfl rfl rfl
  | pass _ =>
    rw [List.append_nil]
    exact h.calm rfl rfl rfl rfl rfl rfl
  | await hphase hsignalled =>
    rw [List.append_nil]
    exact h.await hphase hsignalled
  | notice hphase hsignalled hturn =>
    rw [List.append_nil]
    cases hturn
    exact h.notice hphase (h.signal.1 hsignalled) _
  | wake hphase hturn =>
    rw [List.append_nil]
    have hwoken := woken_turn (h.running (by rw [hphase]; nofun)).sound c.now
    rw [hturn] at hwoken
    exact h.wake hphase hwoken
  | fail hphase hreply =>
    rw [List.append_nil]
    exact h.fail hphase hreply

theorem Steps.kept {start : Conversation σ} (h : Steps answers start trace c) (hstart : Kept answers settings store [] start) :
    Kept answers settings store trace c := by
  induction h with
  | none => exact hstart
  | step _ hstep ih => exact ih.step hstep

theorem Phase.afterSignal_le_one (phase : Phase) : phase.afterSignal ≤ 1 := by
  cases phase with
  | waiting => exact Nat.zero_le 1
  | applying => exact Nat.zero_le 1
  | looking => exact Nat.le_refl 1
  | replying => exact Nat.le_refl 1
  | ended => exact Nat.le_refl 1

/-- The requests applied are the first that the stream tells, whatever more of it is to come. -/
theorem Kept.prefix_documents (h : Kept answers settings store trace c) (later : Bytes) :
    (applied trace).map Prod.fst <+: Frame.documents settings.maxFrameLength Request.parse (arrived trace ++ later) := by
  have hlater := Frame.documents_prefix_append settings.maxFrameLength Request.parse (arrived trace) later
  by_cases hover : c.phase = .ended
  · exact (h.ended hover).1.trans hlater
  · have htaken := (h.running hover).prefix_documents
    exact ((List.prefix_append _ _).trans htaken).trans hlater

/-! ## The sessions that are run -/

theorem Steps.trans {c₁ c₂ : Conversation σ} (h : Steps answers c trace c₁) {more : List Event} (h' : Steps answers c₁ more c₂) :
    Steps answers c (trace ++ more) c₂ := by
  induction h' with
  | none =>
    rw [List.append_nil]
    exact h
  | step _ hstep ih =>
    rw [← List.append_assoc]
    exact ih.step hstep

theorem serve_of_isOver (hover : s.isOver = true) (shutdown : Bool) (now fuel : Nat) (store : Store) :
    s.serve shutdown now fuel store = ⟨s, store, []⟩ := by
  cases fuel with
  | zero => rfl
  | succ fuel => rw [serve, if_pos hover]

/-- A session that is run while nothing happens to it is in a conversation in which nothing else happens. -/
theorem exists_steps_serve (hsound : s.receiver.Sound) (hopen : s.isOver = false) (now fuel : Nat) (store : Store) :
    ∃ trace c, Steps (Store.Answers FileOp.Performs) ⟨s, store, now, false, .looking⟩ trace c ∧
      c.session = (s.serve false now fuel store).session ∧ c.store = (s.serve false now fuel store).store ∧
      List.Forall₂ (fun response bytes => response.frame s.settings.maxFrameLength = .ok bytes)
        (s.serve false now fuel store).replies (written trace) := by
  -- The induction is on the turns of the loop; after each of them the conversation is looking again.
  induction fuel generalizing s store with
  | zero => exact ⟨[], _, .none, rfl, rfl, .nil⟩
  | succ fuel ih =>
    have hwoken := woken_turn hsound now
    rcases hturn : s.turn false now with ⟨turn, s'⟩
    rw [hturn] at hwoken
    have hwait : Step (Store.Answers FileOp.Performs) ⟨s, store, now, false, .looking⟩ [] ⟨s, store, now, false, .waiting⟩ :=
      .await rfl rfl
    have hwoke := (Steps.none.step hwait).step (.wake rfl hturn)
    rw [serve, if_neg (by simp [hopen]), hturn]
    cases hwoken with
    | wait => exact ⟨_, _, hwoke, rfl, rfl, .nil⟩
    | finish => exact ⟨_, _, hwoke, rfl, rfl, .nil⟩
    | @serve request rest hfirst =>
      rcases hhandle : store.run request.handle with ⟨response, store'⟩
      have happlied := hwoke.step (.apply rfl (Store.runs_answers_iff.2 (Store.run_eq_iff.1 hhandle)))
      dsimp only
      rw [hhandle]
      dsimp only
      rcases hreply : reply now response { s with receiver := ⟨s.receiver.limit, none, rest⟩ } with ⟨bytes?, s''⟩
      cases bytes? with
      | none =>
        obtain ⟨e, rfl⟩ := of_reply_eq_none hreply
        dsimp only
        rw [serve_of_isOver rfl]
        exact ⟨_, _, happlied.step (.fail rfl hreply), rfl, rfl, .nil⟩
      | some bytes =>
        obtain ⟨hframe, rfl⟩ := of_reply_eq_some hreply
        have hnext : Receiver.Sound ⟨s.receiver.limit, none, rest⟩ := fun _ h => nomatch h
        obtain ⟨trace, c, hsteps, hsession, hstore, hframes⟩ :=
          @ih { s with receiver := ⟨s.receiver.limit, none, rest⟩, deadline := deadlineFrom s.settings now } hnext hopen store'
        refine ⟨_, c, (happlied.step (.write rfl hreply)).trans hsteps, hsession, hstore, ?_⟩
        rw [written_append]
        exact .cons hframe hframes

/-! ## What a session does for its client -/

/-- What a session did for its client, of whose stream some bytes are still to come. -/
structure ServedInOrder (answers : (op : RegistryOp) → σ → op.Reply → σ → Prop) (settings : SessionSettings) (store : σ)
    (trace : List Event) (later : Bytes) (c : Conversation σ) : Prop where
  /-- The requests applied are the first of those that the stream tells before its first bad frame. -/
  requests : (applied trace).map Prod.fst <+: Frame.documents settings.maxFrameLength Request.parse (arrived trace ++ later)
  /-- Each was applied once, where the one before it left the store. -/
  applies : Applies answers store (applied trace) c.store
  /-- The replies written are what came of them, in order; one may be missing, and then it is the last. -/
  replies : ∃ answered missing, (applied trace).map Prod.snd = answered ++ missing ∧ Missing c missing ∧
    List.Forall₂ (fun response bytes => response.frame settings.maxFrameLength = .ok bytes) answered (written trace)
  /-- After the signal at most one more is applied. -/
  late : ∀ before after, trace = before ++ .signalled :: after → (applied after).length ≤ 1
  /-- A session that is over was told to end, could not write a reply, or applied all that the client sent. -/
  ended : c.phase = .ended → .signalled ∈ trace ∨ (written trace).length < (applied trace).length ∨
    (applied trace).map Prod.fst = Frame.documents settings.maxFrameLength Request.parse (arrived trace)

/-- In whatever chunks a stream arrives, and whenever the broker ends, the time is over or the client goes away. -/
theorem serves_in_order (h : Steps answers (.start settings now store) trace c) (later : Bytes) :
    ServedInOrder answers settings store trace later c := by
  have hkept := h.kept (kept_start answers settings now store)
  exact {
    requests := hkept.prefix_documents later
    applies := hkept.applies
    replies := hkept.replies
    late := fun before after heq => Nat.le_trans (hkept.late before after heq) c.phase.afterSignal_le_one
    ended := fun hover => (hkept.ended hover).2 }

/-- The body of the frame that asks whether there is a message for `q`. -/
def checkBody : Bytes :=
  (Request.check "q").toJson.bytes

theorem length_checkBody : checkBody.length = 25 := by
  decide +kernel

theorem parse_checkBody : Request.parse checkBody = .ok (.check "q") :=
  Request.parse_bytes ⟨nofun, nofun, nofun⟩

/-- A store without messages. -/
def idleStore : Store :=
  ⟨.start (.new "" false), Disk.empty "home"⟩

theorem encode_checkBody : Frame.encode 100 checkBody = .ok ([0, 0, 0] ++ (25 :: checkBody)) := by
  rw [Frame.encode, length_checkBody]
  rfl

theorem exists_runs_check : ∃ left,
    (Request.check "q").handle.Runs (Store.Answers FileOp.Performs) idleStore (.available false) left :=
  ⟨_, Store.runs_answers_iff.2 (Store.run_eq_iff.1 rfl)⟩

theorem exists_frame_available : ∃ bytes, (Response.available false).frame 100 = .ok bytes := by
  have hfits : (Response.available false).toJson.bytes.length ≤ min 100 Frame.maxLength := by decide +kernel
  exact Frame.exists_encode_iff.2 hfits

/-- A request that arrives in two chunks is answered although the signal came first, and the next one is not taken. -/
theorem serves_in_order_signalled : ∃ response bytes c,
    ServedInOrder (Store.Answers FileOp.Performs) ⟨100, none⟩ idleStore
      [.arrived [0, 0, 0], .arrived (25 :: checkBody ++ [0]), .signalled, .applied (.check "q") response, .written bytes] [0, 0] c ∧
      c.phase = .ended := by
  obtain ⟨left, hrun⟩ := exists_runs_check
  obtain ⟨bytes, hframe⟩ := exists_frame_available
  let opened : Session := .start ⟨100, none⟩ 0
  let fed : Session := (opened.feed [0, 0, 0]).feed (25 :: checkBody ++ [0])
  let taken : Session := { fed with receiver := ⟨100, none, [0]⟩ }
  have hpart : (opened.feed [0, 0, 0]).turn false 0 = (.wait, opened.feed [0, 0, 0]) := rfl
  have hfirst : Frame.first fed.receiver.limit Request.parse fed.receiver.unread = .ok (some (.check "q", [0])) :=
    Frame.first_of_encode encode_checkBody parse_checkBody [0]
  have htake : fed.turn false 0 = (.serve (.check "q"), taken) :=
    turn_of_first_eq_some ((Receiver.sound_start 100).feed _) hfirst 0
  have hwrite : taken.reply 0 (.available false) = (some bytes, taken) := reply_of_frame hframe rfl 0
  let waiting (s : Session) : Conversation Store := ⟨s, idleStore, 0, false, .waiting⟩
  have hbegin : Step (Store.Answers FileOp.Performs) (.start ⟨100, none⟩ 0 idleStore) [.arrived [0, 0, 0]]
      ⟨opened.feed [0, 0, 0], idleStore, 0, false, .looking⟩ := .arrive nofun rfl
  have harrive : Step (Store.Answers FileOp.Performs) (waiting (opened.feed [0, 0, 0])) [.arrived (25 :: checkBody ++ [0])]
      (waiting fed) := .arrive nofun rfl
  have hserve := ((((Steps.none.step hbegin).step (.await rfl rfl)).step (.wake rfl hpart)).step harrive).step .signal
  have hanswered := ((hserve.step (.wake rfl htake)).step (.apply rfl hrun)).step (.write rfl hwrite)
  have hover := hanswered.step (.notice (Or.inl rfl) rfl rfl)
  exact ⟨.available false, bytes, _, serves_in_order hover [0, 0], rfl⟩

end QueueBroker.Session

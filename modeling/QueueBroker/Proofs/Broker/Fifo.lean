import QueueBroker.Proofs.Broker.Holding
import QueueBroker.Proofs.Message.RoundTrip
import QueueBroker.Session.Handling

/-!
# Requests and restarts

A broker answers requests as lists of messages would, one list for each destination: `Fifo.answer` says how. That its queues live
in files, and that it may be stopped and started again between any two requests, shows in no answer.
-/

namespace QueueBroker

open FileOp

/-! ## Lists of messages -/

/-- The messages of every destination, oldest first. -/
abbrev Fifo := String → List Message

namespace Fifo

/-- No messages for any destination. -/
def empty : Fifo :=
  fun _ => []

/-- What lists answer to a request, and what becomes of them. -/
def answer : Request → Fifo → Response × Fifo
  | .send m, lists =>
    match Destination.fault? m.destination with
    | none => (.ack, Function.update lists m.destination (lists m.destination ++ [m]))
    | some fault =>
      (.error ⟨.invalidDestination, (BrokerError.destination (.refused m.destination fault)).detail⟩, lists)
  | .check destination, lists => (.available !(lists destination).isEmpty, lists)
  | .receive destination, lists =>
    match lists destination with
    | [] => (.empty, lists)
    | m :: rest => (.message m, Function.update lists destination rest)

/-- What lists answer to requests in turn. -/
def answers : List Request → Fifo → List Response
  | [], _ => []
  | r :: requests, lists => (answer r lists).1 :: answers requests (answer r lists).2

end Fifo

/-- Whether a request came out of a frame, and its message, if it has one, holds no real number and fits in a record. -/
structure Request.Acceptable (r : Request) : Prop where
  decoded : ∃ body, Request.parse body = .ok r
  noReals : ∀ m, r = .send m → m.payload.NoReals
  fits : ∀ m, r = .send m → m.bytes.length ≤ Log.maxBody

/-- The log gives back every message that was sent. -/
theorem Request.Acceptable.readFrom {m : Message} (h : (Request.send m).Acceptable) : Message.ReadFrom m.bytes m := by
  obtain ⟨body, hbody⟩ := h.decoded
  obtain ⟨hheld, hdepth⟩ := Request.held_of_parse hbody
  exact Message.parse_bytes hheld (h.noReals m rfl) (Nat.le_trans hdepth (Nat.sub_le _ _))

/-! ## One request -/

namespace Shared

variable {F : Folder} {lists : Fifo} {s : Shared} {d : Disk}

/-- What is shared and the disk hold lists of messages for valid destinations only. -/
structure Serves (F : Folder) (lists : Fifo) (s : Shared) (d : Disk) : Prop where
  held : ∃ c, Holds F lists c s d
  valid : ∀ name, lists name ≠ [] → Destination.fault? name = none

theorem Serves.eq_nil (h : Serves F lists s d) {name : String} {fault : NameFault}
    (hfault : Destination.fault? name = some fault) : lists name = [] := by
  by_contra hne
  rw [h.valid name hne] at hfault
  cases hfault

/-- The list of a valid destination may become any other. -/
theorem Serves.update (h : Serves F lists s d) {name : String} (hvalid : Destination.fault? name = none)
    {pending : List Message} {c : Contents} {s' : Shared} {d' : Disk}
    (hheld : Holds F (Function.update lists name pending) c s' d') : Serves F (Function.update lists name pending) s' d' := by
  refine ⟨⟨c, hheld⟩, fun other hother => ?_⟩
  by_cases heq : other = name
  · exact heq ▸ hvalid
  · rw [Function.update_of_ne heq] at hother
    exact h.valid other hother

/-- How the client is told what came of a request. -/
inductive Told : Except BrokerError Response → Response → Prop where
  | ok (response : Response) : Told (.ok response) response
  | error (e : BrokerError) : Told (.error e) (.error (ErrorReply.ofError e))

/-- What is done for a request comes to the answer of lists, and to what becomes of them. -/
def Answered (F : Folder) (answer : Response × Fifo) (result : Except BrokerError Response) (s' : Shared) (d' : Disk) : Prop :=
  Told result answer.1 ∧ Serves F answer.2 s' d'

theorem Serves.comes_handleSend (h : Serves F lists s d) {m : Message} (hm : (Request.send m).Acceptable) :
    Comes False (Request.handleSend m) s d (Answered F (Fifo.answer (.send m) lists)) := by
  obtain ⟨c, hheld⟩ := h.held
  rw [Fifo.answer]
  cases hfault : Destination.fault? m.destination with
  | some fault =>
    refine Comes.bind ((hheld.comes_getOrCreate_invalid hfault).mono ?_)
    rintro _ s' d' ⟨rfl, rfl, rfl⟩
    exact Comes.pure ⟨.error _, h⟩
  | none =>
    refine Comes.bind ((hheld.comes_getOrCreate hfault).mono ?_)
    rintro _ s₁ d₁ ⟨id, rfl, hopen⟩
    refine Comes.bind ((hopen.comes_enqueue hm.readFrom (hm.fits m rfl)).mono ?_)
    rintro _ s₂ d₂ ⟨rfl, c', hheld'⟩
    exact Comes.pure ⟨.ok _, h.update hfault hheld'⟩

/-- Looking for the queue of a destination, valid or not: if there is none, nothing is pending. -/
theorem Serves.comes_get (h : Serves F lists s d) (name : String) :
    Comes False (Registry.get name) s d fun r s' d' => (r = .ok none ∧ lists name = [] ∧ Serves F lists s' d') ∨
      ∃ id, r = .ok (some id) ∧ HoldsOpen F lists name id s' d' := by
  obtain ⟨c, hheld⟩ := h.held
  cases hfault : Destination.fault? name with
  | some fault =>
    refine (hheld.comes_get_invalid hfault).mono ?_
    rintro _ s' d' ⟨rfl, rfl, rfl⟩
    exact Or.inl ⟨rfl, h.eq_nil hfault, h⟩
  | none =>
    refine (hheld.comes_get hfault).mono ?_
    rintro _ s' d' (⟨rfl, hnil, rfl, rfl⟩ | ⟨id, rfl, hopen⟩)
    · exact Or.inl ⟨rfl, hnil, h⟩
    · exact Or.inr ⟨id, rfl, hopen⟩

theorem Serves.comes_handleCheck (h : Serves F lists s d) (name : String) :
    Comes False (Request.handleCheck name) s d (Answered F (Fifo.answer (.check name) lists)) := by
  rw [Fifo.answer]
  refine Comes.bind ((h.comes_get name).mono ?_)
  rintro _ s₁ d₁ (⟨rfl, hnil, hserves⟩ | ⟨id, rfl, hopen⟩)
  · rw [hnil]
    exact Comes.pure ⟨.ok _, hserves⟩
  · refine Comes.bind (hopen.comes_isEmpty.mono ?_)
    rintro _ s₂ d₂ ⟨rfl, c', hheld'⟩
    exact Comes.pure ⟨.ok _, ⟨c', hheld'⟩, h.valid⟩

theorem Serves.comes_handleReceive (h : Serves F lists s d) (name : String) :
    Comes False (Request.handleReceive name) s d (Answered F (Fifo.answer (.receive name) lists)) := by
  rw [Fifo.answer]
  refine Comes.bind ((h.comes_get name).mono ?_)
  rintro _ s₁ d₁ (⟨rfl, hnil, hserves⟩ | ⟨id, rfl, hopen⟩)
  · rw [hnil]
    exact Comes.pure ⟨.ok _, hserves⟩
  · refine Comes.bind (hopen.comes_dequeue.mono ?_)
    rintro _ s₂ d₂ ⟨rfl, c', hheld'⟩
    cases hlist : lists name with
    | nil =>
      rw [hlist, List.tail_nil, ← hlist, Function.update_eq_self] at hheld'
      exact Comes.pure ⟨.ok _, ⟨c', hheld'⟩, h.valid⟩
    | cons m rest =>
      rw [hlist, List.tail_cons] at hheld'
      have hvalid : Destination.fault? name = none := h.valid name (by rw [hlist]; exact List.cons_ne_nil _ _)
      exact Comes.pure ⟨.ok _, h.update hvalid hheld'⟩

/-- A request is answered as the lists say. -/
theorem Serves.comes_handle (h : Serves F lists s d) {r : Request} (hr : r.Acceptable) :
    Comes False r.handle s d fun response s' d' => response = (Fifo.answer r lists).1 ∧ Serves F (Fifo.answer r lists).2 s' d' := by
  have hattempt : Comes False r.attempt s d (Answered F (Fifo.answer r lists)) := by
    cases r with
    | send m => exact h.comes_handleSend hr
    | check name => exact h.comes_handleCheck name
    | receive name => exact h.comes_handleReceive name
  refine Comes.bind (hattempt.mono ?_)
  rintro result s' d' ⟨htold, hserves⟩
  generalize (Fifo.answer r lists).1 = response at htold ⊢
  cases htold with
  | ok response => exact Comes.pure ⟨rfl, hserves⟩
  | error e => exact Comes.pure ⟨rfl, hserves⟩

end Shared

/-! ## Many requests, and restarts -/

/-- What may happen to the queues of a broker: a request, or that the broker ends, its queues closed or not, and another begins on
the same directory. -/
inductive Action where
  | request (r : Request)
  | restart (closing durable : Bool)
deriving Repr

namespace Action

/-- The request of an action, if it is one. -/
def request? : Action → Option Request
  | request r => some r
  | restart _ _ => none

/-- The requests among some actions. -/
def requests (actions : List Action) : List Request :=
  actions.filterMap request?

end Action

namespace Store

/-- A broker that begins on a directory, with no queue open. -/
def begin (storage : String) (durable : Bool) (d : Disk) : Store :=
  ⟨.start (.new storage durable), d⟩

/-- What an action comes to. Only a request is answered. -/
def perform : Action → Store → Option Response × Store
  | .request r, s =>
    let (response, s) := s.run r.handle
    (some response, s)
  | .restart closing durable, s =>
    let left := if closing then (s.run Registry.closeAll).2.disk else s.disk
    (none, begin s.shared.registry.storage durable left)

/-- The answers that some actions get in turn. -/
def answers : List Action → Store → List Response
  | [], _ => []
  | a :: actions, s => (s.perform a).1.toList ++ answers actions (s.perform a).2

/-- Whether no file operation fails during an action. -/
def Quiet : Action → Store → Prop
  | .request r, s => s.Undisturbed r.handle
  | .restart closing _, s => closing = true → s.Undisturbed Registry.closeAll

instance Quiet.decidable : (a : Action) → (s : Store) → Decidable (s.Quiet a)
  | .request r, s => inferInstanceAs (Decidable (s.Undisturbed r.handle))
  | .restart closing _, s => inferInstanceAs (Decidable (closing = true → s.Undisturbed Registry.closeAll))

/-- Whether no file operation fails during some actions in turn. -/
def AllQuiet : List Action → Store → Prop
  | [], _ => True
  | a :: actions, s => s.Quiet a ∧ AllQuiet actions (s.perform a).2

instance AllQuiet.decidable : (actions : List Action) → (s : Store) → Decidable (s.AllQuiet actions)
  | [], _ => isTrue trivial
  | a :: actions, s =>
    have := AllQuiet.decidable actions (s.perform a).2
    inferInstanceAs (Decidable (_ ∧ _))

variable {F : Folder} {lists : Fifo} {s : Store} {d : Disk} {storage : String} {place : Place} {durable : Bool}

/-- What a store holds. -/
abbrev Serves (F : Folder) (lists : Fifo) (s : Store) : Prop :=
  s.shared.Serves F lists s.disk

/-- A new broker on a directory without files holds no messages. -/
theorem serves_begin (hleads : d.LeadsTo storage place) (hempty : ∀ n, d.node? (place ++ [n]) = none) (durable : Bool) :
    (begin storage durable d).Serves (Folder.ofDestinations storage place fun _ => True) Fifo.empty := by
  have hs : (Folder.ofDestinations storage place fun _ => True).Shows (fun _ => none) d :=
    Folder.shows_none hleads fun n _ => hempty n
  have hqueues : ∀ name, Destination.fault? name = none → (Folder.ofDestinations storage place fun _ => True).HasQueue name :=
    fun name hvalid => Folder.hasQueue_ofDestinations trivial hvalid
  refine ⟨⟨_, rfl, hs, hqueues, fun name id hlookup => (nomatch hlookup), fun name hvalid _ => ?_⟩, fun name hne => absurd rfl hne⟩
  exact ⟨[], 0, ⟨hqueues name hvalid, hs, ⟨[], Log.incomplete_nil, rfl⟩, Nat.zero_le _, List.forall_mem_nil _, rfl,
    Nat.zero_le _⟩, .nil⟩

/-- A request is answered as lists answer it, and a restart changes no list. -/
theorem Serves.perform_request (h : s.Serves F lists) {r : Request} (hr : r.Acceptable) (hquiet : s.Quiet (.request r)) :
    (s.perform (.request r)).1 = some (Fifo.answer r lists).1 ∧ (s.perform (.request r)).2.Serves F (Fifo.answer r lists).2 := by
  obtain ⟨hanswer, hserves⟩ := (h.comes_handle hr).run_undisturbed hquiet
  exact ⟨congrArg some hanswer, hserves⟩

theorem Serves.perform_restart (h : s.Serves F lists) {closing durable : Bool} (hquiet : s.Quiet (.restart closing durable)) :
    (s.perform (.restart closing durable)).2.Serves F lists := by
  obtain ⟨c, hheld⟩ := h.held
  have hdisk : (if closing then (s.run Registry.closeAll).2.disk else s.disk) = s.disk := by
    cases closing with
    | false => rfl
    | true => exact (Shared.comes_closeAll s.shared s.disk).run_undisturbed (hquiet rfl)
  have hrestart := hheld.restart durable
  rw [← hheld.storage] at hrestart
  rw [perform, hdisk]
  exact ⟨⟨c, hrestart⟩, h.valid⟩

/-- Actions are answered as lists answer the requests among them. -/
theorem Serves.answers_eq {actions : List Action} (h : s.Serves F lists)
    (hrequests : ∀ r ∈ Action.requests actions, r.Acceptable) (hquiet : s.AllQuiet actions) :
    s.answers actions = Fifo.answers (Action.requests actions) lists := by
  induction actions generalizing s lists with
  | nil => rfl
  | cons a actions ih =>
    obtain ⟨hfirst, hrest⟩ := hquiet
    cases a with
    | request r =>
      obtain ⟨hr, hrequests⟩ := List.forall_mem_cons.1 hrequests
      obtain ⟨hanswer, hserves⟩ := h.perform_request hr hfirst
      rw [answers, hanswer, ih hserves hrequests hrest]
      rfl
    | restart closing durable =>
      rw [answers, ih (h.perform_restart hfirst) hrequests hrest]
      rfl

/-- Requests, and restarts between them, to a broker that begins without files are answered as lists without messages answer the
requests alone. So restarts change no answer, wherever they come in or are left out. -/
theorem answers_through_restarts (hleads : d.LeadsTo storage place) (hempty : ∀ n, d.node? (place ++ [n]) = none)
    {actions : List Action} (hrequests : ∀ r ∈ Action.requests actions, r.Acceptable)
    (hquiet : (begin storage durable d).AllQuiet actions) :
    (begin storage durable d).answers actions = Fifo.answers (Action.requests actions) Fifo.empty ∧
      ∀ (others : List Action) (durable' : Bool), Action.requests others = Action.requests actions →
        (begin storage durable' d).AllQuiet others →
        (begin storage durable' d).answers others = (begin storage durable d).answers actions := by
  have hactions := (serves_begin hleads hempty durable).answers_eq hrequests hquiet
  refine ⟨hactions, fun others durable' heq hothers => ?_⟩
  rw [hactions, (serves_begin hleads hempty durable').answers_eq (heq ▸ hrequests) hothers, heq]

/-- A message that stays through restarts. -/
def keptMessage : Message :=
  ⟨"q", .list [.null]⟩

/-- A message for no destination. -/
def strayMessage : Message :=
  ⟨"..", .null⟩

/-- Requests with restarts between them. -/
def restartedActions : List Action :=
  [.request (.send keptMessage), .restart true true, .request (.send strayMessage), .request (.check "q"), .restart false false,
    .request (.receive "q"), .request (.receive "q")]

theorem acceptable_restartedActions : ∀ r ∈ Action.requests restartedActions, r.Acceptable := by
  have hsend : ∀ m, Request.send m ∈ Action.requests restartedActions → m = keptMessage ∨ m = strayMessage := by
    intro m hm
    have hmem : m = keptMessage ∨ strayMessage = m := by
      simpa [Action.requests, restartedActions, Action.request?] using hm
    exact hmem.imp_right Eq.symm
  have hkept : keptMessage.payload.Held ∧ keptMessage.payload.NoReals := ⟨⟨rfl, True.intro, True.intro⟩, True.intro, True.intro⟩
  have hstray : strayMessage.payload.Held ∧ strayMessage.payload.NoReals := ⟨⟨rfl, True.intro⟩, True.intro⟩
  have hpayload : ∀ m, Request.send m ∈ Action.requests restartedActions →
      (m.payload.Held ∧ m.payload.NoReals) ∧ m.payload.depth ≤ 1 ∧ m.bytes.length ≤ Log.maxBody := by
    intro m hm
    rcases hsend m hm with rfl | rfl
    · exact ⟨hkept, by decide, by decide⟩
    · exact ⟨hstray, by decide, by decide⟩
  intro r hr
  have hreadable : r.Readable (maxPayloadDepth - 1) := by
    refine ⟨?_, ?_, ?_⟩
    · rintro m rfl
      exact (hpayload m hr).1.1
    · rintro m rfl
      exact (hpayload m hr).1.2
    · rintro m rfl
      exact Nat.le_trans (hpayload m hr).2.1 (by decide)
  refine ⟨⟨_, Request.parse_bytes hreadable⟩, hreadable.noReals, ?_⟩
  rintro m rfl
  exact (hpayload m hr).2.2

/-- A message is taken once, whatever restarts come between, and one for no destination never arrives. -/
theorem answers_through_restarts_kept :
    (begin "" false (Disk.empty "home")).AllQuiet restartedActions ∧
      ((begin "" false (Disk.empty "home")).answers restartedActions).map Response.kind =
        ["ACK", "ERROR", "AVAILABLE", "MESSAGE", "EMPTY"] := by
  have hleads : (Disk.empty "home").LeadsTo "" ["home"] := rfl
  have hempty : ∀ n, (Disk.empty "home").node? (["home"] ++ [n]) = none := by
    intro n
    simp [Disk.empty, Disk.node?]
  have hquiet : (begin "" false (Disk.empty "home")).AllQuiet restartedActions := by decide +kernel
  refine ⟨hquiet, ?_⟩
  rw [(answers_through_restarts hleads hempty acceptable_restartedActions hquiet).1]
  decide

end Store

end QueueBroker

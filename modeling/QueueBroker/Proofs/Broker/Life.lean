import Mathlib.Data.Nat.Pairing
import Mathlib.Logic.Function.Basic
import Mathlib.Logic.Relation
import QueueBroker.Broker.Lifecycle
import QueueBroker.Proofs.Broker.Traffic

/-!
# The life of a broker, step by step

Calls that start and stop a broker, its accept loops, its sessions and their clients all make steps of their own, and any of them may
make the next. `Life.Goes` says what that step can be. A call makes one step of its program at a time, and so does a session with a
request; the queues are closed step by step too, so that a session that is not over would come in between.
-/

namespace QueueBroker

/-! ## Accept loops and their sessions -/

/-- An accept loop apart from its sessions. -/
def Acceptor.bare (a : Acceptor) : Acceptor :=
  { a with sessions := [] }

namespace Host

/-- The accept loops apart from their sessions. -/
def loops (h : Host) : List Acceptor :=
  h.broker.acceptors.map Acceptor.bare

/-- The session of a number, in which an accept loop and a place among its sessions are paired. -/
def session? (h : Host) (id : Nat) : Option Session := do
  let a ← h.broker.acceptors[id.unpair.1]?
  a.sessions[id.unpair.2]?

/-- Change a session. -/
def setSession (h : Host) (id : Nat) (s : Session) : Host :=
  match h.broker.acceptors[id.unpair.1]? with
  | none => h
  | some a => h.setAcceptor id.unpair.1 { a with sessions := a.sessions.set id.unpair.2 s }

/-- The answers that a step of starting or stopping may get, given what the disk may answer file operations with. The directory of the
queues may fail to be made, and the broker may fail to listen. Closing the queues takes steps of its own. -/
inductive Answers (files : (op : FileOp) → Disk → op.Reply → Disk → Prop) : (op : LifecycleOp) → Host → op.Reply → Host → Prop where
  | storage {h : Host} {made : Except Errno Unit} {disk : Disk} :
      files (.makeDirectories h.broker.config.storage.directory) h.store.disk made disk →
      Answers files .makeStorage h made { h with store := ⟨h.store.shared, disk⟩ }
  | unbound {h : Host} (fault : NetworkFault) : Answers files .listen h (.error fault) h
  | performed {op : LifecycleOp} {h h' : Host} {reply : op.Reply} : op ≠ .makeStorage → op ≠ .closeQueues →
      h.answer op = some (reply, h') → Answers files op h reply h'

variable {h h' : Host} {k id other : Nat} {a a' : Acceptor} {s s' : Session}

theorem loops_setAcceptor (h : Host) (k : Nat) (a : Acceptor) : (h.setAcceptor k a).loops = h.loops.set k a.bare :=
  List.map_set

/-- Changing an accept loop in nothing but its sessions changes none of the loops. -/
theorem loops_setAcceptor_of_bare (hk : h.broker.acceptors[k]? = some a) (hbare : a'.bare = a.bare) :
    (h.setAcceptor k a').loops = h.loops := by
  have hloop : h.loops[k]? = some a'.bare := by rw [loops, List.getElem?_map, hk, hbare, Option.map_some]
  rw [loops_setAcceptor]
  obtain ⟨hlt, heq⟩ := List.getElem?_eq_some_iff.1 hloop
  rw [← heq, List.set_getElem_self]

theorem loops_setSession (h : Host) (id : Nat) (s : Session) : (h.setSession id s).loops = h.loops := by
  unfold setSession
  split
  · rfl
  · rename_i a ha
    exact loops_setAcceptor_of_bare ha rfl

theorem session?_setAcceptor (hk : h.broker.acceptors[k]? = some a) (a' : Acceptor) (id : Nat) :
    (h.setAcceptor k a').session? id = if id.unpair.1 = k then a'.sessions[id.unpair.2]? else h.session? id := by
  have hlt := (List.getElem?_eq_some_iff.1 hk).1
  unfold session? setAcceptor
  dsimp only
  rw [List.getElem?_set]
  by_cases heq : id.unpair.1 = k
  · rw [if_pos heq, if_pos heq.symm, if_pos hlt]
    rfl
  · rw [if_neg heq, if_neg (Ne.symm heq)]

theorem session?_eq (hk : h.broker.acceptors[k]? = some a) (heq : id.unpair.1 = k) : h.session? id = a.sessions[id.unpair.2]? := by
  rw [session?, heq, hk]
  rfl

/-- Changing an accept loop in all but its sessions changes no session. -/
theorem session?_setAcceptor_of_sessions (hk : h.broker.acceptors[k]? = some a) (hsessions : a'.sessions = a.sessions) (id : Nat) :
    (h.setAcceptor k a').session? id = h.session? id := by
  rw [session?_setAcceptor hk]
  split
  · rename_i heq
    rw [session?_eq hk heq, hsessions]
  · rfl

theorem exists_acceptor (hid : h.session? id = some s) :
    ∃ a, h.broker.acceptors[id.unpair.1]? = some a ∧ a.sessions[id.unpair.2]? = some s := by
  obtain ⟨a, ha, hs⟩ := Option.bind_eq_some_iff.1 hid
  exact ⟨a, ha, hs⟩

theorem session?_setSession (hid : h.session? id = some s) (s' : Session) (other : Nat) :
    (h.setSession id s').session? other = if other = id then some s' else h.session? other := by
  obtain ⟨a, ha, hs⟩ := exists_acceptor hid
  have hlt := (List.getElem?_eq_some_iff.1 hs).1
  rw [setSession, ha]
  dsimp only
  rw [session?_setAcceptor ha]
  dsimp only
  rw [List.getElem?_set]
  by_cases hother : other = id
  · rw [hother, if_pos rfl, if_pos rfl, if_pos hlt, if_pos rfl]
  · rw [if_neg hother]
    split
    · rename_i heq
      rw [session?_eq ha heq, if_neg]
      intro hplace
      exact hother (by rw [← Nat.pair_unpair other, heq, ← hplace, Nat.pair_unpair])
    · rfl

/-- A session that begins is the last of its accept loop. -/
theorem session?_append (hk : h.broker.acceptors[k]? = some a) (s : Session) (id : Nat) :
    (h.setAcceptor k { a with sessions := a.sessions ++ [s] }).session? id =
      if id = Nat.pair k a.sessions.length then some s else h.session? id := by
  rw [session?_setAcceptor hk]
  by_cases hid : id = Nat.pair k a.sessions.length
  · rw [hid, Nat.unpair_pair, if_pos rfl, if_pos rfl]
    exact List.getElem?_concat_length
  · rw [if_neg hid]
    split
    · rename_i heq
      rw [session?_eq hk heq]
      dsimp only
      rw [List.getElem?_append]
      split
      · rfl
      · rename_i hge
        have hne : id.unpair.2 ≠ a.sessions.length := by
          intro hlast
          exact hid (by rw [← Nat.pair_unpair id, heq, hlast])
        rw [List.getElem?_eq_none (Nat.le_of_not_lt hge), List.getElem?_eq_none]
        rw [List.length_singleton]
        exact Nat.one_le_iff_ne_zero.2 (Nat.sub_ne_zero_of_lt (Nat.lt_of_le_of_ne (Nat.le_of_not_lt hge) (Ne.symm hne)))
    · rfl

/-! ### What accept loops do -/

/-- An accept loop that fails stops listening, and changes no session. -/
theorem of_failListening {cause : Errno} (hfails : h.failListening k cause = some h') :
    ∃ a, h.broker.acceptors[k]? = some a ∧ a.phase = .accepting ∧
      h' = { h.stopListening k a (.error (.server (.accept cause))) with
        broker := { (h.stopListening k a (.error (.server (.accept cause)))).broker with
          signal := true
          failure := some (.accept cause) } } := by
  obtain ⟨a, hk, hfails⟩ := Option.bind_eq_some_iff.1 hfails
  cases hphase : a.phase with
  | accepting =>
    rw [hphase] at hfails
    exact ⟨a, hk, hphase, (Option.some.inj hfails).symm⟩
  | draining outcome =>
    rw [hphase] at hfails
    cases hfails
  | ended outcome =>
    rw [hphase] at hfails
    cases hfails

/-- How an accept loop goes on by itself. -/
inductive Advances (h : Host) (k : AcceptorId) : Host → Prop where
  | heeds {a : Acceptor} : h.broker.acceptors[k]? = some a → a.phase = .accepting → a.heedsSignal = true →
      Advances h k (h.stopListening k a (.ok ()))
  | ends {a : Acceptor} {outcome : Except BrokerError Unit} : h.broker.acceptors[k]? = some a → a.phase = .draining outcome →
      (∀ s ∈ a.sessions, s.isOver = true) → Advances h k (h.setAcceptor k { a with phase := .ended outcome })

theorem advances_of_advanceAcceptor (hadvances : h.advanceAcceptor k = some h') : h.Advances k h' := by
  obtain ⟨a, hk, hadvances⟩ := Option.bind_eq_some_iff.1 hadvances
  cases hphase : a.phase with
  | accepting =>
    rw [hphase] at hadvances
    dsimp only at hadvances
    split at hadvances
    · rename_i hsignal
      obtain rfl := Option.some.inj hadvances
      exact .heeds hk hphase (Bool.and_eq_true_iff.1 hsignal).2
    · cases hadvances
  | draining outcome =>
    rw [hphase] at hadvances
    dsimp only at hadvances
    split at hadvances
    · rename_i hall
      obtain rfl := Option.some.inj hadvances
      exact .ends hk hphase (List.all_eq_true.1 hall)
    · cases hadvances
  | ended outcome =>
    rw [hphase] at hadvances
    cases hadvances

/-- An accept loop takes a connection. -/
theorem of_acceptConnection {now : Nat} (haccepts : h.acceptConnection k now = some h') :
    ∃ a, h.broker.acceptors[k]? = some a ∧ a.phase = .accepting ∧
      h' = h.setAcceptor k { a with sessions := a.sessions ++ [.start h.broker.config.server.toSession now] } := by
  obtain ⟨a, hk, haccepts⟩ := Option.bind_eq_some_iff.1 haccepts
  cases hphase : a.phase with
  | accepting =>
    rw [hphase] at haccepts
    refine ⟨a, hk, hphase, ?_⟩
    rw [hphase]
    exact (Option.some.inj haccepts).symm
  | draining outcome =>
    rw [hphase] at haccepts
    cases haccepts
  | ended outcome =>
    rw [hphase] at haccepts
    cases haccepts

end Host

/-! ## Requests on a store that only sessions work on -/

/-- What sessions alone make of a store, given what the disk may answer file operations with. -/
inductive Traffic.Alone (files : (op : FileOp) → Disk → op.Reply → Disk → Prop) (s : Store) : Traffic → Prop where
  | start : Alone files s (start s)
  | called {t : Traffic} {session : Nat} (request : Request) : Alone files s t → t.calls session = none →
      Alone files s (t.called session request)
  | worked {t : Traffic} {session place : Nat} {request : Request} {op : RegistryOp} {next : op.Reply → RegistryProgram Response}
      {reply : op.Reply} {store : Store} : Alone files s t → t.calls session = some ⟨place, request, .ask op next⟩ →
      t.store.shared.ready op = true → Store.Answers files op t.store reply store →
      Alone files s (t.worked session ⟨place, request, .ask op next⟩ (next reply) store)
  | answered {t : Traffic} {session place : Nat} {request : Request} {response : Response} : Alone files s t →
      t.calls session = some ⟨place, request, .done response⟩ → Alone files s (t.answered session place response)

/-! ## Lives -/

/-- A call that starts or stops a broker. -/
inductive LifecycleCall where
  | start
  | stop

/-- What a call does. -/
def LifecycleCall.program (config : BrokerConfig) : LifecycleCall → LifecycleProgram (Except BrokerError Unit)
  | start => Broker.start config
  | stop => Broker.stop

namespace Life

/-- What is left of a call: steps of its own, or first those of closing the queues. -/
inductive Left where
  | steps (p : LifecycleProgram (Except BrokerError Unit))
  | closing (p : RegistryProgram (Except BrokerError Unit)) (next : Except BrokerError Unit → LifecycleProgram (Except BrokerError Unit))

/-- A call and what is left of it. -/
structure Working where
  call : LifecycleCall
  left : Left

/-- What a session is doing: about to look whether the broker ends, waiting for a request, applying one, writing the reply to the one
called at a place, or nothing any more. -/
inductive Phase where
  | looking
  | waiting
  | applying
  | replying (place : Nat) (response : Response)
  | ended

/-- What can be told of a life, besides what is told of requests. -/
inductive Event where
  | called (caller : Nat) (call : LifecycleCall)
  | returned (caller : Nat) (call : LifecycleCall) (result : Except BrokerError Unit)
  | accepted (session : Nat)
  /-- A session wrote the reply to the request called at a place, or failed to. -/
  | attempted (place : Nat) (response : Response) (frame? : Option Bytes)

end Life

/-- A broker, its sessions and what they ask of the store, and the calls that start and stop it. -/
structure Life where
  broker : Broker
  network : Network
  traffic : Traffic
  phases : Nat → Life.Phase
  calls : Nat → Option Life.Working
  now : Nat
  journal : List Life.Event

namespace Life

/-- A broker that nobody called yet. -/
def start (h : Host) (now : Nat) : Life where
  broker := h.broker
  network := h.network
  traffic := .start h.store
  phases _ := .looking
  calls _ := none
  now
  journal := []

/-- The broker and the machine it runs on. -/
def host (l : Life) : Host :=
  ⟨l.broker, l.network, l.traffic.store⟩

/-- The broker and its machine change. -/
def on (l : Life) (h : Host) : Life :=
  { l with broker := h.broker, network := h.network, traffic := { l.traffic with store := h.store } }

/-- A call comes to something else that is left of it, or to its end, which is told. -/
def sets (l : Life) (n : Nat) (working : Option Working) (events : List Event) : Life :=
  { l with calls := Function.update l.calls n working, journal := l.journal ++ events }

/-- A session becomes another, and does something else. -/
def enters (l : Life) (id : Nat) (s : Session) (phase : Phase) : Life :=
  { l.on (l.host.setSession id s) with phases := Function.update l.phases id phase }

/-- A session calls a request. -/
def asked (l : Life) (id : Nat) (request : Request) : Life :=
  { l with traffic := l.traffic.called id request }

/-- A session woke. -/
def woken (l : Life) (id : Nat) (s : Session) : Turn → Life
  | .wait => l.enters id s .waiting
  | .finish outcome => l.enters id (s.finish outcome) .ended
  | .serve request => (l.enters id s .applying).asked id request

/-- A session has made a step of its request. -/
def worked (l : Life) (id : Nat) (call : QueueBroker.Call) (left : RegistryProgram Response) (store : Store) : Life :=
  { l with traffic := l.traffic.worked id call left store }

/-- A session is answered, and about to write the reply. -/
def applied (l : Life) (id place : Nat) (response : Response) : Life :=
  { l with
    traffic := l.traffic.answered id place response
    phases := Function.update l.phases id (.replying place response) }

/-- Something is told. -/
def tells (l : Life) (e : Event) : Life :=
  { l with journal := l.journal ++ [e] }

/-- What a client may do to its session. -/
inductive Client (s : Session) : Session → Prop where
  | sends (bytes : Bytes) : s.inputOver = false → Client s (s.feed bytes)
  | ends : Client s s.endInput
  | hangsUp : Client s s.hangUp

/-- One thing that happens in a life, given what the disk may answer file operations with. -/
inductive Goes (files : (op : FileOp) → Disk → op.Reply → Disk → Prop) (l : Life) : Life → Prop where
  -- Calls make steps; of one that stops the broker, closing the queues takes many.
  | call {n : Nat} (call : LifecycleCall) : (∀ other, .called n other ∉ l.journal) →
      Goes files l (l.sets n (some ⟨call, .steps (call.program l.broker.config)⟩) [.called n call])
  | step {n : Nat} {call : LifecycleCall} {op : LifecycleOp} {next : op.Reply → LifecycleProgram (Except BrokerError Unit)}
      {reply : op.Reply} {h : Host} : l.calls n = some ⟨call, .steps (.ask op next)⟩ → Host.Answers files op l.host reply h →
      Goes files l ((l.on h).sets n (some ⟨call, .steps (next reply)⟩) [])
  | close {n : Nat} {call : LifecycleCall} {next : Except BrokerError Unit → LifecycleProgram (Except BrokerError Unit)} :
      l.calls n = some ⟨call, .steps (.ask .closeQueues next)⟩ →
      Goes files l (l.sets n (some ⟨call, .closing Registry.closeAll next⟩) [])
  | closing {n : Nat} {call : LifecycleCall} {op : RegistryOp} {p : op.Reply → RegistryProgram (Except BrokerError Unit)}
      {next : Except BrokerError Unit → LifecycleProgram (Except BrokerError Unit)} {reply : op.Reply} {store : Store} :
      l.calls n = some ⟨call, .closing (.ask op p) next⟩ → l.traffic.store.shared.ready op = true →
      Store.Answers files op l.traffic.store reply store →
      Goes files l ((l.on ⟨l.broker, l.network, store⟩).sets n (some ⟨call, .closing (p reply) next⟩) [])
  | closed {n : Nat} {call : LifecycleCall} {result : Except BrokerError Unit}
      {next : Except BrokerError Unit → LifecycleProgram (Except BrokerError Unit)} :
      l.calls n = some ⟨call, .closing (.done result) next⟩ → Goes files l (l.sets n (some ⟨call, .steps (next result)⟩) [])
  | finish {n : Nat} {call : LifecycleCall} {result : Except BrokerError Unit} : l.calls n = some ⟨call, .steps (.done result)⟩ →
      Goes files l (l.sets n none [.returned n call result])
  -- Accept loops take connections, fail, and go on by themselves.
  | accept {k : AcceptorId} {a : Acceptor} {h : Host} : l.broker.acceptors[k]? = some a → l.host.acceptConnection k l.now = some h →
      Goes files l ((l.on h).tells (.accepted (Nat.pair k a.sessions.length)))
  | die {k : AcceptorId} {h : Host} (cause : Errno) : l.host.failListening k cause = some h → Goes files l (l.on h)
  | advance {k : AcceptorId} {h : Host} : l.host.advanceAcceptor k = some h → Goes files l (l.on h)
  -- Clients do things to sessions that are not over, and time passes.
  | client {id : Nat} {s s' : Session} : l.host.session? id = some s → s.isOver = false → Client s s' →
      Goes files l (l.on (l.host.setSession id s'))
  | pass {later : Nat} : l.now ≤ later → Goes files l { l with now := later }
  -- Sessions look for the signal, wait, and serve requests. One that waits may still take a request when the signal comes.
  | await {id : Nat} {s : Session} : l.host.session? id = some s → l.phases id = .looking → l.broker.signal = false →
      Goes files l (l.enters id s .waiting)
  | wake {id : Nat} {s s' : Session} {shutdown : Bool} {turn : Turn} : l.host.session? id = some s →
      l.phases id = .looking ∧ shutdown = true ∨ l.phases id = .waiting → (shutdown = true → l.broker.signal = true) →
      s.turn shutdown l.now = (turn, s') → Goes files l (l.woken id s' turn)
  | work {id place : Nat} {request : Request} {op : RegistryOp} {next : op.Reply → RegistryProgram Response} {reply : op.Reply}
      {store : Store} : l.traffic.calls id = some ⟨place, request, .ask op next⟩ → l.traffic.store.shared.ready op = true →
      Store.Answers files op l.traffic.store reply store →
      Goes files l (l.worked id ⟨place, request, .ask op next⟩ (next reply) store)
  | apply {id place : Nat} {request : Request} {response : Response} : l.traffic.calls id = some ⟨place, request, .done response⟩ →
      Goes files l (l.applied id place response)
  | reply {id place : Nat} {response : Response} {s s' : Session} {frame? : Option Bytes} : l.host.session? id = some s →
      l.phases id = .replying place response → s.reply l.now response = (frame?, s') →
      Goes files l ((l.enters id s' (if frame?.isSome then .looking else .ended)).tells (.attempted place response frame?))

/-- What may become of a life. -/
abbrev Later (files : (op : FileOp) → Disk → op.Reply → Disk → Prop) : Life → Life → Prop :=
  Relation.ReflTransGen (Goes files)

variable {files : (op : FileOp) → Disk → op.Reply → Disk → Prop} {l l' : Life}

@[simp] theorem host_on (l : Life) (h : Host) : (l.on h).host = h := rfl

@[simp] theorem host_sets (l : Life) (n : Nat) (working : Option Working) (events : List Event) :
    (l.sets n working events).host = l.host := rfl

theorem calls_sets (l : Life) (n : Nat) (working : Option Working) (events : List Event) (m : Nat) :
    (l.sets n working events).calls m = if m = n then working else l.calls m :=
  Function.update_apply _ _ _ _

theorem phases_enters (l : Life) (id : Nat) (s : Session) (phase : Phase) (other : Nat) :
    (l.enters id s phase).phases other = if other = id then phase else l.phases other :=
  Function.update_apply _ _ _ _

theorem session?_enters {id : Nat} {s : Session} (hid : l.host.session? id = some s) (s' : Session) (phase : Phase) (other : Nat) :
    (l.enters id s' phase).host.session? other = if other = id then some s' else l.host.session? other :=
  Host.session?_setSession hid s' other

theorem phases_applied (l : Life) (id place : Nat) (response : Response) (other : Nat) :
    (l.applied id place response).phases other = if other = id then .replying place response else l.phases other :=
  Function.update_apply _ _ _ _

/-- Nothing that was told is forgotten. -/
theorem Goes.journal (h : Goes files l l') : l.journal <+: l'.journal := by
  cases h with
  | wake _ _ _ _ =>
    rename_i turn _ _ _ _
    cases turn <;> exact List.prefix_rfl
  | call => exact List.prefix_append _ _
  | step => exact List.prefix_append _ _
  | close => exact List.prefix_append _ _
  | closing => exact List.prefix_append _ _
  | closed => exact List.prefix_append _ _
  | finish => exact List.prefix_append _ _
  | accept => exact List.prefix_append _ _
  | reply => exact List.prefix_append _ _
  | _ => exact List.prefix_rfl

end Life

end QueueBroker

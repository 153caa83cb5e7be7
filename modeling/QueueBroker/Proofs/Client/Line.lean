import Mathlib.Data.List.Forall2
import Mathlib.Logic.Function.Basic
import Mathlib.Logic.Relation
import QueueBroker.Proofs.Client.Calls
import QueueBroker.Proofs.Protocol.Exchange
import QueueBroker.Proofs.Session.Conversation

/-!
# A client, its calls and the session at the other end

Any number of calls share the one connection of a client, and a session serves it. Between any two steps of a call other calls make
theirs, bytes go some way in either direction, and the session does what it does. `Answers` lets writing fail in the middle of a
request, the wait for a reply be over at any moment, and the connection be cut at any point; bytes on their way may never arrive.
-/

namespace QueueBroker.Client

/-- What can be told of calls. -/
inductive Event where
  | called (id : Nat) (call : Call)
  | ended (id : Nat) (result : Result)

/-- A call and what is left of it. -/
structure Working where
  call : Call
  left : ClientProgram Result

/-- A client and the session that serves it. -/
structure Line (σ : Type) where
  /-- What was received on the connection, if there still is one. -/
  connection : Option Receiver
  /-- The call that holds the connection. -/
  holder : Option Nat
  calls : Nat → Option Working
  /-- The bytes on their way to the session. -/
  outgoing : Bytes
  /-- The bytes on their way to the client. -/
  incoming : Bytes
  conversation : Session.Conversation σ
  journal : List Event
  /-- The requests that were written, in whole or in part, and the calls that wrote them. -/
  asked : List (Nat × Request)
  /-- What happened to the session. -/
  trace : List Session.Event

namespace Line

variable {σ : Type}

/-- A client that has just connected to a session. -/
def start (config : ClientConfig) (settings : SessionSettings) (now : Nat) (store : σ) : Line σ where
  connection := some (.start config.maxFrameLength.toNat)
  holder := none
  calls _ := none
  outgoing := []
  incoming := []
  conversation := .start settings now store
  journal := []
  asked := []
  trace := []

/-- The answers that a step of a call may get, and what becomes of the line. -/
inductive Answers (id : Nat) (call : Call) : (op : ClientOp) → Line σ → op.Reply → Line σ → Prop where
  | hold {l : Line σ} : l.holder = none → Answers id call .hold l () { l with holder := some id }
  | release {l : Line σ} : Answers id call .release l () { l with holder := none }
  | isConnected {l : Line σ} : Answers id call .isConnected l l.connection.isSome l
  | write {l : Line σ} {r : Request} {frame : Bytes} : call = .ask r →
      Answers id call (.write frame) l (.arrived ()) { l with outgoing := l.outgoing ++ frame, asked := l.asked ++ [(id, r)] }
  | writeFails {l : Line σ} {r : Request} {frame : Bytes} (fault : StreamFault) (sent : Nat) : call = .ask r →
      Answers id call (.write frame) l (.failed (.stream fault))
        { l with outgoing := l.outgoing ++ frame.take sent, asked := l.asked ++ [(id, r)] }
  | writeLate {l : Line σ} {r : Request} {frame : Bytes} (sent : Nat) : call = .ask r →
      Answers id call (.write frame) l .elapsed
        { l with outgoing := l.outgoing ++ frame.take sent, asked := l.asked ++ [(id, r)] }
  | reply {l : Line σ} {r r' : Receiver} {response : Response} : l.connection = some r →
      r.next Response.parse = (.ok (some response), r') →
      Answers id call .awaitReply l (.arrived (some response)) { l with connection := some r' }
  | badReply {l : Line σ} {r r' : Receiver} {e : BrokerError} : l.connection = some r → r.next Response.parse = (.error e, r') →
      Answers id call .awaitReply l (.failed e) { l with connection := some r' }
  | replyFails {l : Line σ} (fault : StreamFault) : Answers id call .awaitReply l (.failed (.stream fault)) l
  | hungUp {l : Line σ} : Answers id call .awaitReply l (.arrived none) l
  | late {l : Line σ} : Answers id call .awaitReply l .elapsed l
  | drop {l : Line σ} : Answers id call .drop l () { l with connection := none }
  | close {l : Line σ} : Answers id call .close l (.ok ()) l
  | closeFails {l : Line σ} (fault : StreamFault) : Answers id call .close l (.error (.stream fault)) l

/-- A call comes to something else that is left of it, or to its end, which is told. -/
def sets (l : Line σ) (id : Nat) (working : Option Working) (events : List Event) : Line σ :=
  { l with calls := Function.update l.calls id working, journal := l.journal ++ events }

/-- One thing that happens on a line. `answers` says how the registry answers the session, whatever other sessions do to it
meanwhile. -/
inductive Goes (answers : (op : RegistryOp) → σ → op.Reply → σ → Prop) (config : ClientConfig) : Line σ → Line σ → Prop where
  | call {l : Line σ} (id : Nat) (call : Call) : (∀ other, .called id other ∉ l.journal) →
      Goes answers config l (l.sets id (some ⟨call, call.program config⟩) [.called id call])
  | work {l l' : Line σ} {id : Nat} {call : Call} {op : ClientOp} {next : op.Reply → ClientProgram Result} {reply : op.Reply} :
      l.calls id = some ⟨call, .ask op next⟩ → Answers id call op l reply l' →
      Goes answers config l (l'.sets id (some ⟨call, next reply⟩) [])
  | finish {l : Line σ} {id : Nat} {call : Call} {result : Result} : l.calls id = some ⟨call, .done result⟩ →
      Goes answers config l (l.sets id none [.ended id result])
  /-- Some bytes reach the client. -/
  | receive {l : Line σ} {r : Receiver} {chunk rest : Bytes} : l.connection = some r → l.incoming = chunk ++ rest →
      Goes answers config l { l with connection := some (r.feed chunk), incoming := rest }
  /-- The client looks whether the reply is complete, and it is not. -/
  | look {l : Line σ} {r r' : Receiver} : l.connection = some r → r.next Response.parse = (.ok none, r') →
      Goes answers config l { l with connection := some r' }
  /-- Some bytes reach the session. -/
  | reach {l : Line σ} {chunk rest : Bytes} {conversation : Session.Conversation σ} : l.outgoing = chunk ++ rest →
      Session.Step answers l.conversation [.arrived chunk] conversation →
      Goes answers config l { l with outgoing := rest, conversation, trace := l.trace ++ [.arrived chunk] }
  /-- Something else happens to the session, or it does something. -/
  | serve {l : Line σ} {events : List Session.Event} {conversation : Session.Conversation σ} : Session.arrived events = [] →
      Session.Step answers l.conversation events conversation →
      Goes answers config l
        { l with incoming := l.incoming ++ (Session.written events).flatten, conversation, trace := l.trace ++ events }

/-- What may become of a line. -/
abbrev Later (answers : (op : RegistryOp) → σ → op.Reply → σ → Prop) (config : ClientConfig) : Line σ → Line σ → Prop :=
  Relation.ReflTransGen (Goes answers config)

/-- Whether all messages that are sent or taken are such as the broker holds, without real numbers. -/
structure Plain (l : Line σ) : Prop where
  sent : ∀ id m, .called id (.ask (.send m)) ∈ l.journal → m.Plain
  taken : ∀ r m, (r, .message m) ∈ Session.applied l.trace → m.Plain

variable {answers : (op : RegistryOp) → σ → op.Reply → σ → Prop} {config : ClientConfig} {l l' : Line σ} {id other : Nat}

theorem calls_sets_self (l : Line σ) (id : Nat) (working : Option Working) (events : List Event) :
    (l.sets id working events).calls id = working :=
  Function.update_self _ _ _

theorem calls_sets_of_ne (hne : other ≠ id) (l : Line σ) (working : Option Working) (events : List Event) :
    (l.sets id working events).calls other = l.calls other :=
  Function.update_of_ne hne _ _

/-! ## What only grows -/

/-- What is kept whatever happens: a connection that is gone does not come back, and nothing that was told is forgotten. -/
structure Onward (l l' : Line σ) : Prop where
  cut : l.connection = none → l'.connection = none
  journal : l.journal <+: l'.journal
  asked : l.asked <+: l'.asked
  trace : l.trace <+: l'.trace

theorem Onward.trans {l₁ l₂ l₃ : Line σ} (h : l₁.Onward l₂) (h' : l₂.Onward l₃) : l₁.Onward l₃ where
  cut hcut := h'.cut (h.cut hcut)
  journal := h.journal.trans h'.journal
  asked := h.asked.trans h'.asked
  trace := h.trace.trans h'.trace

theorem Onward.plain (h : l.Onward l') (hplain : l'.Plain) : l.Plain where
  sent id m hm := hplain.sent id m (h.journal.subset hm)
  taken r m hm := hplain.taken r m ((h.trace.filterMap _).subset hm)

theorem onward_sets (l : Line σ) (id : Nat) (working : Option Working) (events : List Event) :
    l.Onward (l.sets id working events) :=
  ⟨fun hcut => hcut, List.prefix_append _ _, List.prefix_rfl, List.prefix_rfl⟩

theorem Answers.onward {call : Call} {op : ClientOp} {reply : op.Reply} (h : Answers id call op l reply l') : l.Onward l' := by
  cases h with
  | write => exact ⟨fun hcut => hcut, List.prefix_rfl, List.prefix_append _ _, List.prefix_rfl⟩
  | writeFails => exact ⟨fun hcut => hcut, List.prefix_rfl, List.prefix_append _ _, List.prefix_rfl⟩
  | writeLate => exact ⟨fun hcut => hcut, List.prefix_rfl, List.prefix_append _ _, List.prefix_rfl⟩
  | reply hr => exact ⟨fun hcut => (nomatch hr.symm.trans hcut), List.prefix_rfl, List.prefix_rfl, List.prefix_rfl⟩
  | badReply hr => exact ⟨fun hcut => (nomatch hr.symm.trans hcut), List.prefix_rfl, List.prefix_rfl, List.prefix_rfl⟩
  | drop => exact ⟨fun _ => rfl, List.prefix_rfl, List.prefix_rfl, List.prefix_rfl⟩
  | _ => exact ⟨fun hcut => hcut, List.prefix_rfl, List.prefix_rfl, List.prefix_rfl⟩

theorem Goes.onward (h : Goes answers config l l') : l.Onward l' := by
  cases h with
  | call => exact onward_sets _ _ _ _
  | work _ hans => exact hans.onward.trans (onward_sets _ _ _ _)
  | finish => exact onward_sets _ _ _ _
  | receive hr => exact ⟨fun hcut => (nomatch hr.symm.trans hcut), List.prefix_rfl, List.prefix_rfl, List.prefix_rfl⟩
  | look hr => exact ⟨fun hcut => (nomatch hr.symm.trans hcut), List.prefix_rfl, List.prefix_rfl, List.prefix_rfl⟩
  | reach => exact ⟨fun hcut => hcut, List.prefix_rfl, List.prefix_rfl, List.prefix_append _ _⟩
  | serve => exact ⟨fun hcut => hcut, List.prefix_rfl, List.prefix_rfl, List.prefix_append _ _⟩

end Line

end QueueBroker.Client

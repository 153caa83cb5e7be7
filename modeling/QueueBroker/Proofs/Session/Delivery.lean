import QueueBroker.Proofs.Session.Conversation

/-!
# Whether messages that are taken are delivered

A session takes a message off its queue before it looks at whether the answer fits in a frame. Around the same message the answer
is longer than the request that it came in, so there are messages that the broker accepts and can only lose.
-/

namespace QueueBroker

/-! ## Sizes -/

/-- The bytes of a document with a name and a body, as requests and replies are. -/
theorem Json.length_envelope (tag name content : String) (v : Json) :
    (object [(tag, .text name), (content, v)]).bytes.length =
      (text tag).bytes.length + (text name).bytes.length + (text content).bytes.length + 5 + v.bytes.length := by
  have hopen : (Utf8.encodeChar '\x7b').length = 1 := by decide
  have hclose : (Utf8.encodeChar '\x7d').length = 1 := by decide
  have hcolon : (Utf8.encodeChar ':').length = 1 := by decide
  have hcomma : (Utf8.encodeChar ',').length = 1 := by decide
  simp only [bytes, chars, memberChars, List.flatMap_append, List.flatMap_cons, List.flatMap_nil, List.length_append,
    List.length_nil, hopen, hclose, hcolon, hcomma]
  omega

/-- Around a message a request has twenty-one bytes. -/
theorem Request.length_send (m : Message) : (Request.send m).toJson.bytes.length = m.bytes.length + 21 := by
  have hlength := Json.length_envelope "op" "SEND" "body" m.toJson
  have htag : (Json.text "op").bytes.length = 4 := by decide
  have hname : (Json.text "SEND").bytes.length = 6 := by decide
  have hcontent : (Json.text "body").bytes.length = 6 := by decide
  rw [htag, hname, hcontent] at hlength
  exact hlength.trans (Nat.add_comm _ _)

/-- Around a message a reply has twenty-seven. -/
theorem Response.length_message (m : Message) : (Response.message m).toJson.bytes.length = m.bytes.length + 27 := by
  have hlength := Json.length_envelope "reply" "MESSAGE" "body" m.toJson
  have htag : (Json.text "reply").bytes.length = 7 := by decide
  have hname : (Json.text "MESSAGE").bytes.length = 9 := by decide
  have hcontent : (Json.text "body").bytes.length = 6 := by decide
  rw [htag, hname, hcontent] at hlength
  exact hlength.trans (Nat.add_comm _ _)

/-! ## Taking messages -/

namespace DurableQueue

variable {q q' : DurableQueue} {m : Message} {d d' : Disk}

/-- A record that was written stands at the end of the file, whether or not it was made to stay. -/
theorem append_of_runs_appendRecord {file : Handle} {bytes : Bytes} {durable : Bool}
    (h : (FileAttempt.appendRecord file bytes durable).run.Runs FileOp.Performs d (.ok ()) d') :
    d.append file bytes = (.ok (), d') := by
  unfold FileAttempt.appendRecord at h
  rcases FileAttempt.runs_bind_iff.1 h with ⟨u, d₁, happend, hsync⟩ | ⟨e, -, heq⟩
  · have hperform : d.append file bytes = (.ok (), d₁) := Program.runs_request_iff.1 happend
    cases durable with
    | false =>
      obtain ⟨-, rfl⟩ := FileAttempt.runs_pure_iff.1 hsync
      exact hperform
    | true =>
      have hstay : (d₁.sync file, d₁) = (.ok (), d') := Program.runs_request_iff.1 hsync
      obtain ⟨-, rfl⟩ := Prod.mk.inj hstay
      exact hperform
  · nomatch heq

/-- A message that is returned was the first of those pending and is gone from them, and the checkpoint that counts it is
written. -/
theorem of_run_dequeue (h : q.dequeue.run d = ((.ok (some m), q'), d')) :
    q.pending = m :: q'.pending ∧ q'.taken = q.taken + 1 ∧
      ∃ files, q.files = some files ∧ d.append files.checkpoint (Checkpoint.record q'.taken) = (.ok (), d') := by
  have hr := FileProgram.runs_performs_iff.2 h
  unfold dequeue at hr
  cases hfiles : q.files with
  | none =>
    simp only [hfiles] at hr
    nomatch (Program.runs_pure_iff.1 hr).1
  | some files =>
    cases hpending : q.pending with
    | nil =>
      simp only [hfiles, hpending] at hr
      nomatch (Program.runs_pure_iff.1 hr).1
    | cons first rest =>
      simp only [hfiles, hpending] at hr
      obtain ⟨written, d₁, happend, hr⟩ := Program.runs_bind_iff.1 hr
      cases written with
      | error cause =>
        obtain ⟨q₁, d₂, -, hr⟩ := Program.runs_bind_iff.1 hr
        nomatch (Program.runs_pure_iff.1 hr).1
      | ok u =>
        obtain ⟨heq, rfl⟩ := Program.runs_pure_iff.1 hr
        cases heq
        exact ⟨rfl, rfl, files, rfl, append_of_runs_appendRecord happend⟩

end DurableQueue

/-- How a request took a message off the queue of a destination: it was the first of the queue that the registry found, it is gone
from it, and the checkpoint that counts it is written. -/
def Store.Takes (name : String) (m : Message) (before after : Store) : Prop :=
  ∃ id found q q' files, before.run (Registry.get name) = (.ok (some id), found) ∧
    found.shared.queues[id]? = some q ∧ after.shared.queues[id]? = some q' ∧
    q.pending = m :: q'.pending ∧ q'.taken = q.taken + 1 ∧ q.files = some files ∧
    found.disk.append files.checkpoint (Checkpoint.record q'.taken) = (.ok (), after.disk)

namespace Store

open DurableQueue

variable {r : Request} {name : String} {m : Message} {id : QueueId} {s s' : Store}

/-- What is done to a queue by the only one at work is done to it as it is. -/
theorem of_run_whileHolding {α : Type} {p : RegistryProgram α} {a : α} (h : s.run (Registry.whileHolding id p) = (a, s')) :
    ∃ left, Store.run p ⟨{ s.shared with busy := id :: s.shared.busy }, s.disk⟩ = (a, left) ∧
      s'.shared.queues = left.shared.queues ∧ s'.disk = left.disk := by
  obtain ⟨u, held, hlock, h⟩ := of_run_bind h
  have hheld : s.run (Program.request (RegistryOp.lockQueue id)) = ((), ⟨{ s.shared with busy := id :: s.shared.busy }, s.disk⟩) :=
    rfl
  obtain ⟨-, rfl⟩ := Prod.mk.inj (hheld.symm.trans hlock)
  obtain ⟨a', left, hp, h⟩ := of_run_bind h
  obtain ⟨u, freed, hunlock, h⟩ := of_run_bind h
  obtain ⟨rfl, rfl⟩ := Prod.mk.inj h
  obtain ⟨-, rfl⟩ := Prod.mk.inj hunlock
  exact ⟨left, hp, rfl, rfl⟩

/-- The message that a queue returns was taken off it. -/
theorem takes_of_run_dequeue {found : Store} (hget : s.run (Registry.get name) = (.ok (some id), found))
    (h : found.run (Registry.whileHolding id (Program.request (RegistryOp.dequeue id))) = (.ok (some m), s')) :
    s.Takes name m s' := by
  obtain ⟨left, hwork, hqueues, hdisk⟩ := of_run_whileHolding h
  have hperform := of_run_request hwork
  change ((Shared.onQueue _ id _ _).run found.disk) = _ at hperform
  cases hq : found.shared.queues[id]? with
  | none =>
    simp only [Shared.onQueue, hq] at hperform
    nomatch hperform
  | some q =>
    simp only [Shared.onQueue, hq] at hperform
    obtain ⟨⟨r₁, q'⟩, d₁, hdequeue, hr⟩ := Program.runs_bind_iff.1 (FileProgram.runs_performs_iff.2 hperform)
    obtain ⟨heq, hd⟩ := Program.runs_pure_iff.1 hr
    obtain ⟨rfl, hshared⟩ := Prod.mk.inj heq
    obtain ⟨hpending, htaken, files, hfiles, happend⟩ := of_run_dequeue (FileProgram.runs_performs_iff.1 hdequeue)
    refine ⟨id, found, q, q', files, hget, hq, ?_, hpending, htaken, hfiles, ?_⟩
    · rw [hqueues, hshared]
      exact List.getElem?_set_self (List.getElem?_eq_some_iff.1 hq).1
    · rw [hdisk, hd]
      exact happend

theorem takes_of_run_handleReceive (h : s.run (Request.handleReceive name) = (.ok (.message m), s')) : s.Takes name m s' := by
  obtain ⟨got, found, hget, h⟩ := of_run_bind h
  cases got with
  | error e => nomatch (Prod.mk.inj h).1
  | ok open? =>
    cases open? with
    | none => nomatch (Prod.mk.inj h).1
    | some id =>
      obtain ⟨taken, last, hdequeue, h⟩ := of_run_bind h
      cases taken with
      | error e => nomatch (Prod.mk.inj h).1
      | ok first =>
        cases first with
        | none => nomatch (Prod.mk.inj h).1
        | some first =>
          obtain ⟨heq, rfl⟩ := Prod.mk.inj h
          cases heq
          exact takes_of_run_dequeue hget hdequeue

/-- Sending is not answered with a message. -/
theorem eq_ack_of_run_handleSend {sent : Message} {response : Response} (h : s.run (Request.handleSend sent) = (.ok response, s')) :
    response = .ack := by
  obtain ⟨got, found, -, h⟩ := of_run_bind h
  cases got with
  | error e => nomatch (Prod.mk.inj h).1
  | ok id =>
    obtain ⟨stored, last, -, h⟩ := of_run_bind h
    cases stored with
    | error e => nomatch (Prod.mk.inj h).1
    | ok u => exact (Except.ok.inj (Prod.mk.inj h).1).symm

/-- Neither is asking. -/
theorem eq_available_of_run_handleCheck {response : Response} (h : s.run (Request.handleCheck name) = (.ok response, s')) :
    ∃ waiting, response = .available waiting := by
  obtain ⟨got, found, -, h⟩ := of_run_bind h
  cases got with
  | error e => nomatch (Prod.mk.inj h).1
  | ok open? =>
    cases open? with
    | none => exact ⟨false, (Except.ok.inj (Prod.mk.inj h).1).symm⟩
    | some id =>
      obtain ⟨isEmpty, last, -, h⟩ := of_run_bind h
      exact ⟨!isEmpty, (Except.ok.inj (Prod.mk.inj h).1).symm⟩

/-- Whoever is answered with a message has taken it. -/
theorem takes_of_run_handle (h : s.run r.handle = (.message m, s')) :
    r = .receive r.destination ∧ s.Takes r.destination m s' := by
  obtain ⟨result, left, hattempt, h⟩ := of_run_bind h
  cases result with
  | error e => nomatch (Prod.mk.inj h).1
  | ok response =>
    obtain ⟨rfl, rfl⟩ := Prod.mk.inj h
    cases r with
    | send sent => nomatch eq_ack_of_run_handleSend hattempt
    | check name =>
      obtain ⟨waiting, heq⟩ := eq_available_of_run_handleCheck hattempt
      nomatch heq
    | receive name => exact ⟨rfl, takes_of_run_handleReceive hattempt⟩

end Store

/-! ## Sessions -/

namespace Session

/-- A request that a session served: the store before it, its answer, and the store after it. -/
structure Served where
  before : Store
  request : Request
  response : Response
  after : Store

/-- The requests that a session serves until it waits or is over, whether or not their answers are written. -/
def served (shutdown : Bool) (now : Nat) : (fuel : Nat) → Session → Store → List Served
  | 0, _, _ => []
  | fuel + 1, s, store =>
    if s.isOver then []
    else
      match s.turn shutdown now with
      | (.wait, _) => []
      | (.finish _, _) => []
      | (.serve request, s) =>
        let (response, after) := store.run request.handle
        ⟨store, request, response, after⟩ :: served shutdown now fuel (s.reply now response).2 after

variable {shutdown : Bool} {now fuel : Nat} {s s' : Session} {store : Store} {request : Request} {response : Response}

/-- A session that is over does nothing. -/
theorem served_of_isOver (h : s.isOver = true) (fuel : Nat) : s.served shutdown now fuel store = [] := by
  cases fuel with
  | zero => rfl
  | succ fuel =>
    unfold served
    rw [if_pos h]

/-- Waking changes neither the settings nor who is there. -/
theorem turn_keeps (shutdown : Bool) (now : Nat) (s : Session) :
    (s.turn shutdown now).2.settings = s.settings ∧ (s.turn shutdown now).2.peerGone = s.peerGone := by
  unfold turn
  split
  · exact ⟨rfl, rfl⟩
  · dsimp only
    split
    · exact ⟨rfl, rfl⟩
    · exact ⟨rfl, rfl⟩
    · split
      · exact ⟨rfl, rfl⟩
      · exact ⟨rfl, rfl⟩

/-- Whether an answer fits in a frame of a session. -/
def Fits (s : Session) (response : Response) : Prop :=
  response.toJson.bytes.length ≤ min s.settings.maxFrameLength Frame.maxLength

/-- An answer that fits is written to a client that is there. -/
theorem reply_of_fits (now : Nat) (hpeer : s.peerGone = false) (hfits : s.Fits response) :
    ∃ frame, s.reply now response = (some frame, { s with deadline := deadlineFrom s.settings now }) := by
  obtain ⟨frame, hframe⟩ := Frame.exists_encode_iff.2 hfits
  exact ⟨frame, reply_of_frame hframe hpeer now⟩

/-- An answer that does not fit ends the session. -/
theorem reply_of_not_fits (now : Nat) (hfits : ¬s.Fits response) :
    s.reply now response = (none, s.finish (.error (.protocol .frameTooBig))) := by
  have hframe : response.frame s.settings.maxFrameLength = .error (.protocol .frameTooBig) := if_pos (Nat.lt_of_not_le hfits)
  unfold reply
  rw [hframe]

/-- What becomes of the answers to what a session served: all are written, or all but the last, which does not fit and ends the
session. -/
inductive Ending (s : Session) : List Served → Progress → Prop where
  | written {served : List Served} {p : Progress} : (∀ v ∈ served, s.Fits v.response) →
      p.replies = served.map Served.response → Ending s served p
  | broken {served : List Served} {last : Served} {p : Progress} : (∀ v ∈ served, s.Fits v.response) →
      p.replies = served.map Served.response → ¬s.Fits last.response → p.store = last.after →
      p.session.outcome = some (.error (.protocol .frameTooBig)) → Ending s (served ++ [last]) p

/-- What becomes of answers is the same for sessions with the same settings. -/
theorem Ending.cons {served : List Served} {p : Progress} {v : Served} (h : Ending s' served p)
    (hsettings : s'.settings = s.settings) (hfits : s.Fits v.response) :
    Ending s (v :: served) { p with replies := v.response :: p.replies } := by
  have hsame : ∀ response, s'.Fits response ↔ s.Fits response := by
    intro response
    unfold Fits
    rw [hsettings]
  cases h with
  | written hall hreplies =>
    refine .written (List.forall_mem_cons.2 ⟨hfits, fun w hw => (hsame _).1 (hall w hw)⟩) ?_
    rw [hreplies]
    rfl
  | broken hall hreplies hlast hstore houtcome =>
    refine .broken (List.forall_mem_cons.2 ⟨hfits, fun w hw => (hsame _).1 (hall w hw)⟩) ?_ (fun h => hlast ((hsame _).2 h)) hstore
      houtcome
    rw [hreplies]
    rfl

/-- Every run of a session whose client is there ends so. -/
theorem serve_ending (hpeer : s.peerGone = false) :
    Ending s (s.served shutdown now fuel store) (s.serve shutdown now fuel store) := by
  induction fuel generalizing s store with
  | zero => exact .written (List.forall_mem_nil _) rfl
  | succ fuel ih =>
    unfold served serve
    by_cases hover : s.isOver = true
    · rw [if_pos hover, if_pos hover]
      exact .written (List.forall_mem_nil _) rfl
    · rw [if_neg hover, if_neg hover]
      obtain ⟨hsettings, hgone⟩ := turn_keeps shutdown now s
      generalize s.turn shutdown now = woken at hsettings hgone
      obtain ⟨turn, s₁⟩ := woken
      cases turn with
      | wait => exact .written (List.forall_mem_nil _) rfl
      | finish outcome => exact .written (List.forall_mem_nil _) rfl
      | serve request =>
        dsimp only at hsettings hgone ⊢
        generalize store.run request.handle = answered
        obtain ⟨response, after⟩ := answered
        dsimp only
        have hsame : s₁.Fits response ↔ s.Fits response := by
          unfold Fits
          rw [hsettings]
        by_cases hfits : s.Fits response
        · obtain ⟨frame, hreply⟩ := reply_of_fits now (hgone.trans hpeer) (hsame.2 hfits)
          rw [hreply]
          exact Ending.cons (v := ⟨store, request, response, after⟩) (ih (hgone.trans hpeer)) hsettings hfits
        · have hreply := reply_of_not_fits now fun h => hfits (hsame.1 h)
          rw [hreply]
          dsimp only
          rw [serve_of_isOver rfl, served_of_isOver rfl]
          change Ending s ([] ++ [_]) _
          exact .broken (List.forall_mem_nil _) rfl hfits rfl rfl

/-- What a session served was done to the store. -/
theorem run_of_mem_served {v : Served} (hv : v ∈ s.served shutdown now fuel store) :
    v.before.run v.request.handle = (v.response, v.after) := by
  induction fuel generalizing s store with
  | zero => nomatch hv
  | succ fuel ih =>
    unfold served at hv
    split at hv
    · nomatch hv
    · split at hv
      · nomatch hv
      · nomatch hv
      · rcases List.mem_cons.1 hv with rfl | hv
        · rfl
        · exact ih hv

/-- The answer of a session to its last request is the one that does not fit, if there is one. -/
theorem Ending.getElem? {served : List Served} {p : Progress} (h : Ending s served p) {i : Nat} {v : Served}
    (hv : served[i]? = some v) :
    (s.Fits v.response → p.replies[i]? = some v.response) ∧
      (¬s.Fits v.response → p.replies.length = i ∧ p.store = v.after ∧
        p.session.outcome = some (.error (.protocol .frameTooBig))) := by
  cases h with
  | written hall hreplies =>
    refine ⟨fun _ => ?_, fun hfits => absurd (hall v (List.mem_of_getElem? hv)) hfits⟩
    rw [hreplies, List.getElem?_map, hv]
    rfl
  | @broken served last p hall hreplies hlast hstore houtcome =>
    by_cases hi : i < served.length
    · rw [List.getElem?_append_left hi] at hv
      refine ⟨fun _ => ?_, fun hfits => absurd (hall v (List.mem_of_getElem? hv)) hfits⟩
      rw [hreplies, List.getElem?_map, hv]
      rfl
    · obtain ⟨hlt, -⟩ := List.getElem?_eq_some_iff.1 hv
      rw [List.length_append, List.length_singleton] at hlt
      obtain rfl : i = served.length := by omega
      rw [List.getElem?_concat_length] at hv
      obtain rfl := Option.some.inj hv
      refine ⟨fun hfits => absurd hfits hlast, fun _ => ⟨?_, hstore, houtcome⟩⟩
      rw [hreplies, List.length_map]

/-- A message is taken off its queue before its size is looked at. If its client is there, a session delivers it exactly when it
leaves room for what stands around it in an answer, which is six bytes more than in a request; otherwise the session ends, and the
message is gone. -/
theorem delivered_iff_fits (hpeer : s.peerGone = false) {i : Nat} {v : Served} {m : Message}
    (hv : (s.served shutdown now fuel store)[i]? = some v) (hm : v.response = .message m) :
    v.request = .receive v.request.destination ∧ v.before.Takes v.request.destination m v.after ∧
      ((∃ frame, (Request.send m).frame s.settings.maxFrameLength = .ok frame) ↔
        m.bytes.length + 21 ≤ min s.settings.maxFrameLength Frame.maxLength) ∧
      ((∃ frame, (Response.message m).frame s.settings.maxFrameLength = .ok frame) ↔
        m.bytes.length + 27 ≤ min s.settings.maxFrameLength Frame.maxLength) ∧
      (m.bytes.length + 27 ≤ min s.settings.maxFrameLength Frame.maxLength →
        (s.serve shutdown now fuel store).replies[i]? = some (.message m)) ∧
      (min s.settings.maxFrameLength Frame.maxLength < m.bytes.length + 27 →
        (s.serve shutdown now fuel store).replies.length = i ∧ (s.serve shutdown now fuel store).store = v.after ∧
          (s.serve shutdown now fuel store).session.outcome = some (.error (.protocol .frameTooBig))) := by
  have hrun := run_of_mem_served (List.mem_of_getElem? hv)
  rw [hm] at hrun
  obtain ⟨hreceive, htakes⟩ := Store.takes_of_run_handle hrun
  have hsize : s.Fits v.response ↔ m.bytes.length + 27 ≤ min s.settings.maxFrameLength Frame.maxLength := by
    rw [Fits, hm, Response.length_message]
  obtain ⟨hfits, hbroken⟩ := (serve_ending hpeer).getElem? hv
  rw [hm] at hfits
  refine ⟨hreceive, htakes, ?_, ?_, fun h => ?_, fun h => ?_⟩
  · rw [← Request.length_send]
    exact Frame.exists_encode_iff
  · rw [← Response.length_message]
    exact Frame.exists_encode_iff
  · exact hfits (hm ▸ hsize.2 h)
  · exact hbroken fun hsmall => Nat.not_le_of_lt h (hsize.1 hsmall)

/-- A message whose request takes fifty-two bytes. -/
def snugMessage : Message :=
  ⟨"q", .number (.integer 1)⟩

/-- A session with frames of at most fifty-two bytes, to which the message was sent and which is asked for it. -/
def snugSession : Session :=
  let frame (r : Request) : Bytes := BigEndian.encode Frame.prefixLength r.toJson.bytes.length ++ r.toJson.bytes
  (Session.start ⟨52, none⟩ 0).feed (frame (.send snugMessage) ++ frame (.receive "q"))

/-- A store without messages. -/
def emptyStore : Store :=
  ⟨.start (.new "" false), Disk.empty "home"⟩

/-- Whether a request for a destination was answered with a message of some length. -/
def Served.isMessage (name : String) (length : Nat) (v : Served) : Bool :=
  match v.response with
  | .message m => v.request.destination == name && m.bytes.length == length
  | _ => false

/-- A message that was sent in a frame as long as it may be is acknowledged and taken, and the session ends without delivering
it. -/
theorem delivered_iff_fits_snug : ∃ sent v, snugSession.served false 0 3 emptyStore = [sent, v] ∧ sent.response.kind = "ACK" ∧
    ∃ m, v.response = .message m ∧ v.before.Takes "q" m v.after ∧
      (snugSession.serve false 0 3 emptyStore).replies.length = 1 ∧ (snugSession.serve false 0 3 emptyStore).store = v.after ∧
      (snugSession.serve false 0 3 emptyStore).session.outcome = some (.error (.protocol .frameTooBig)) := by
  have hkinds : (snugSession.served false 0 3 emptyStore).map (fun v => v.response.kind) = ["ACK", "MESSAGE"] := by
    decide +kernel
  have hmessage : (snugSession.served false 0 3 emptyStore)[1]?.any (Served.isMessage "q" 31) = true := by decide +kernel
  have hsmall : min snugSession.settings.maxFrameLength Frame.maxLength = 52 := by decide +kernel
  obtain ⟨sent, rest, hserved, hack, hrest⟩ := List.map_eq_cons_iff.1 hkinds
  obtain ⟨v, last, rfl, -, hlast⟩ := List.map_eq_cons_iff.1 hrest
  obtain rfl := List.map_eq_nil_iff.1 hlast
  have hv : (snugSession.served false 0 3 emptyStore)[1]? = some v := by
    rw [hserved]
    rfl
  rw [hv, Option.any_some, Served.isMessage] at hmessage
  cases hm : v.response with
  | message m =>
    rw [hm, Bool.and_eq_true, beq_iff_eq, beq_iff_eq] at hmessage
    obtain ⟨hname, hlength⟩ := hmessage
    obtain ⟨-, htakes, -, -, -, hbroken⟩ := delivered_iff_fits rfl hv hm
    rw [hsmall, hlength] at hbroken
    exact ⟨sent, v, hserved, hack, m, hm, hname ▸ htakes, hbroken (by decide)⟩
  | ack => simp [hm] at hmessage
  | available waiting => simp [hm] at hmessage
  | empty => simp [hm] at hmessage
  | error reply => simp [hm] at hmessage

end Session

end QueueBroker

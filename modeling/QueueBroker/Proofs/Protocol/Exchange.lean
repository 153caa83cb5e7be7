import QueueBroker.Proofs.Message.RoundTrip
import QueueBroker.Proofs.Protocol.Stream

/-!
# Documents sent and received

Requests and replies are read back from their documents, and from a stream of frames however it is cut. What is too long for a
frame is not sent and leaves what is sent around it as it is.
-/

namespace QueueBroker

open Json Json.Reader Json.Shape

/-! ## Replies read back -/

namespace ErrorReply

theorem ofTag?_tag (kind : ErrorKind) : ErrorKind.ofTag? kind.tag = some kind := by
  cases kind <;> decide

theorem tag_mem_all (kind : ErrorKind) : kind.tag ∈ ErrorKind.all.map ErrorKind.tag := by
  cases kind <;> decide

theorem ofJson?_toJson (reply : ErrorReply) : ofJson? reply.toJson = some reply := by
  rw [toJson, ofJson?, ofTag?_tag]
  rfl

/-- An error reply is read back from its document. -/
theorem read_shape_reads (reply : ErrorReply) (depth : Nat) (rest : Bytes) :
    Reads (shape.read (depth + 1)) (reply.toJson.bytes ++ rest) reply.toJson rest := by
  have hkind : ReadsBack (ErrorKind.shape.read depth) (.text reply.kind.tag) :=
    fun rest _ => readChoice_reads (tag_mem_all reply.kind) depth rest
  exact readRecord_pair_reads "ErrorReply" (by decide) depth hkind (readText_readsBack "a string" reply.message) rest

end ErrorReply

namespace Response

/-- The cases of a reply. -/
abbrev cases : List (String × Shape) :=
  [("ACK", .nothing "unit variant Response::Ack"), ("AVAILABLE", .boolean), ("MESSAGE", Message.shape),
    ("EMPTY", .nothing "unit variant Response::Empty"), ("ERROR", ErrorReply.shape)]

theorem ofJson?_toJson (r : Response) : ofJson? r.toJson = some r := by
  cases r with
  | error reply =>
    have h := ErrorReply.ofJson?_toJson reply
    simp [toJson, body?, kind, ofJson?, h]
  | message m => simp [toJson, body?, kind, ofJson?, Message.toJson, Message.ofJson?]
  | _ => simp [toJson, body?, kind, ofJson?]

/-- A reply is read back from its document. -/
theorem read_shape_reads {r : Response} {depth : Nat} (hheld : ∀ m, r = .message m → m.payload.Held)
    (hreals : ∀ m, r = .message m → m.payload.NoReals) (hdepth : ∀ m, r = .message m → m.payload.depth ≤ depth) (rest : Bytes) :
    Reads (shape.read (depth + 2)) (r.toJson.bytes ++ rest) r.toJson rest := by
  change Reads (readTagged "Response" "reply" "body" (caseReaders cases (depth + 1)) (depth + 1 + 1)) _ _ _
  have hne : "body" ≠ "reply" := by decide
  have hfind := find?_caseReaders cases (depth + 1)
  cases r with
  | ack => exact readTagged_reads_bare "Response" (hfind "ACK") rfl (depth + 1) rest
  | empty => exact readTagged_reads_bare "Response" (hfind "EMPTY") rfl (depth + 1) rest
  | available waiting =>
    exact readTagged_reads "Response" hne (hfind "AVAILABLE") rfl (depth + 1) (readBoolean_reads waiting _)
  | message m =>
    have hpayload := Message.payloadReader_readsBack (hheld m rfl).canonical ((hheld m rfl).isExact (hreals m rfl)) (hdepth m rfl)
    have hmessage : Reads (Message.shape.read (depth + 1)) (m.toJson.bytes ++ code '\x7d' :: rest) m.toJson (code '\x7d' :: rest) :=
      Message.read_shape_reads hpayload _
    exact readTagged_reads "Response" hne (hfind "MESSAGE") rfl (depth + 1) hmessage
  | error reply =>
    exact readTagged_reads "Response" hne (hfind "ERROR") rfl (depth + 1) (ErrorReply.read_shape_reads reply depth _)

/-- A reply whose message does not nest too deep is read back from its bytes. -/
theorem parse_bytes {r : Response} (hheld : ∀ m, r = .message m → m.payload.Held)
    (hreals : ∀ m, r = .message m → m.payload.NoReals) (hdepth : ∀ m, r = .message m → m.payload.depth ≤ maxPayloadDepth - 1) :
    parse r.toJson.bytes = .ok r :=
  decode_of_reads (read_shape_reads hheld hreals hdepth []) (ofJson?_toJson r)

/-- A reply whose message nests too deep is not read back. -/
theorem parse_bytes_error {m : Message} (hm : m.Plain) (hdepth : maxPayloadDepth - 1 < m.payload.depth) :
    ∃ e, parse (message m).toJson.bytes = .error e := by
  have hpayload : Rejects (payloadReader (maxPayloadDepth - 1)) m.payload :=
    Message.payloadReader_rejects (hm.held.isExact hm.noReals) hdepth
  have hmessage : Refuses (Message.shape.read maxPayloadDepth) (m.toJson.bytes ++ [code '\x7d']) :=
    Message.read_shape_refuses hpayload _
  have hrefuse : Refuses (shape.read maxDepth) ((message m).toJson.bytes ++ []) :=
    readTagged_refuses "Response" (by decide) (find?_caseReaders cases maxPayloadDepth "MESSAGE") maxPayloadDepth hmessage
  exact decode_of_refuses ofJson? hrefuse

/-- What is read of the document of a reply is this reply. -/
theorem eq_of_parse_bytes {r r' : Response} (hplain : ∀ m, r = .message m → m.Plain) (h : parse r.toJson.bytes = .ok r') :
    r' = r := by
  by_cases hdepth : ∀ m, r = .message m → m.payload.depth ≤ maxPayloadDepth - 1
  · have hback := parse_bytes (fun m hm => (hplain m hm).held) (fun m hm => (hplain m hm).noReals) hdepth
    exact Except.ok.inj (h.symm.trans hback)
  · push Not at hdepth
    obtain ⟨m, rfl, hdeep⟩ := hdepth
    obtain ⟨e, he⟩ := parse_bytes_error (hplain m rfl) hdeep
    cases h.symm.trans he

end Response

/-! ## Frames -/

theorem Request.madeFor_frame {limit : Nat} {r : Request} {frame : Bytes} (hplain : ∀ m, r = .send m → m.Plain)
    (h : r.frame limit = .ok frame) : Frame.MadeFor parse limit r frame :=
  ⟨_, h, fun _ => eq_of_parse_bytes hplain⟩

theorem Response.madeFor_frame {limit : Nat} {r : Response} {frame : Bytes} (hplain : ∀ m, r = .message m → m.Plain)
    (h : r.frame limit = .ok frame) : Frame.MadeFor parse limit r frame :=
  ⟨_, h, fun _ => eq_of_parse_bytes hplain⟩

/-! ## Two kinds of documents -/

/-- A kind of documents that are sent: the document and the frame of each, how it is read, and the message it may carry. -/
structure Wire (α : Type) where
  document : α → Json
  frame : (limit : Nat) → α → Except BrokerError Bytes
  parse : Bytes → Except Json.Failure α
  message? : α → Option Message

/-- Requests as they are sent. -/
def Request.wire : Wire Request where
  document := toJson
  frame := frame
  parse := parse
  message?
    | send m => some m
    | _ => none

/-- Replies as they are sent. -/
def Response.wire : Wire Response where
  document := toJson
  frame := frame
  parse := parse
  message?
    | message m => some m
    | _ => none

variable {α : Type} {limit : Nat}

namespace Wire

/-- What is asked of a document to be read back: that it nests no deeper than documents are read, and that a payload in it is one
that the broker holds, without real numbers. -/
structure Portable (w : Wire α) (a : α) : Prop where
  held : ∀ m ∈ w.message? a, m.payload.Held
  noReals : ∀ m ∈ w.message? a, m.payload.NoReals
  shallow : (w.document a).depth ≤ maxDepth

/-- Write the frame of a document at the end of a buffer. -/
def write (w : Wire α) (limit : Nat) (a : α) (buffer : Bytes) : Except BrokerError Unit × Bytes :=
  match w.frame limit a with
  | .ok frame => (.ok (), buffer ++ frame)
  | .error e => (.error e, buffer)

/-- Write the frames of several documents, one after the other. -/
def writeAll (w : Wire α) (limit : Nat) : List α → Bytes → List (Except BrokerError Unit) × Bytes
  | [], buffer => ([], buffer)
  | a :: as, buffer =>
    let (result, buffer) := w.write limit a buffer
    let (results, buffer) := w.writeAll limit as buffer
    (result :: results, buffer)

/-- What is written of some documents: those whose frame can be made. -/
def written (w : Wire α) (limit : Nat) (as : List α) : List α :=
  as.filter fun a => (w.frame limit a).isOk

variable {w : Wire α} {a : α} {as : List α}

/-- Whether a kind of documents is sent in frames around their bytes, and documents that ask for no more than they may are read
back. -/
structure Lawful (w : Wire α) : Prop where
  frame : ∀ limit a, w.frame limit a = Frame.encode limit (w.document a).bytes
  parse : ∀ a, w.Portable a → w.parse (w.document a).bytes = .ok a

/-- What comes of a document depends on its length alone. -/
theorem Lawful.frame_eq (hw : w.Lawful) (limit : Nat) (a : α) : (w.frame limit a).map (fun _ => ()) =
    if (w.document a).bytes.length ≤ min limit Frame.maxLength then .ok () else .error (.protocol .frameTooBig) := by
  rw [hw.frame, Frame.encode]
  by_cases hfits : (w.document a).bytes.length ≤ min limit Frame.maxLength
  · rw [if_neg (Nat.not_lt_of_le hfits), if_pos hfits]
    rfl
  · rw [if_pos (Nat.lt_of_not_le hfits), if_neg hfits]
    rfl

theorem fst_writeAll (w : Wire α) (limit : Nat) (as : List α) (buffer : Bytes) :
    (w.writeAll limit as buffer).1 = as.map fun a => (w.frame limit a).map fun _ => () := by
  induction as generalizing buffer with
  | nil => rfl
  | cons a as ih =>
    rw [writeAll, write, List.map_cons, ← ih (w.write limit a buffer).2, write]
    cases w.frame limit a <;> rfl

/-- The buffer tells the documents that were written, after those that it told before. -/
theorem Lawful.told_writeAll (hw : w.Lawful) (has : ∀ a ∈ as, w.Portable a) {buffer : Bytes} {before : List α}
    (h : Frame.Told limit w.parse buffer before (.ok [])) :
    Frame.Told limit w.parse (w.writeAll limit as buffer).2 (before ++ w.written limit as) (.ok []) := by
  induction as generalizing buffer before with
  | nil =>
    rw [written, List.filter_nil, List.append_nil]
    exact h
  | cons a as ih =>
    obtain ⟨ha, has⟩ := List.forall_mem_cons.1 has
    rw [writeAll, write, written, List.filter_cons]
    cases hframe : w.frame limit a with
    | error e => exact ih has h
    | ok frame =>
      have hfirst := Frame.first_of_encode ((hw.frame limit a).symm.trans hframe) (hw.parse a ha) []
      rw [List.append_nil] at hfirst
      have h' : Frame.Told limit w.parse (buffer ++ frame) (before ++ [a]) (.ok []) :=
        h.append (.document hfirst (.waits rfl))
      have hlater := ih has h'
      rw [List.append_assoc] at hlater
      exact hlater

/-- What is asked of sending documents, one after the other, to a receiver with the same limit: that just those too long are
refused and leave the buffer as it is, and that the others are received, however the buffer is cut into chunks, with nothing left. -/
structure Crosses (w : Wire α) (limit : Nat) (as : List α) : Prop where
  results : (w.writeAll limit as []).1 = as.map fun a =>
    if (w.document a).bytes.length ≤ min limit Frame.maxLength then .ok () else .error (.protocol .frameTooBig)
  refused : ∀ a ∈ as, min limit Frame.maxLength < (w.document a).bytes.length →
    ∀ buffer, w.write limit a buffer = (.error (.protocol .frameTooBig), buffer)
  received : ∀ chunks, chunks.flatten = (w.writeAll limit as []).2 → ∀ received r,
    Receiver.Receives w.parse (.start limit) chunks received r ↔ received = w.written limit as ∧ r = .start limit
  drained : (Receiver.start limit).next w.parse = (.ok none, .start limit)

theorem Lawful.crosses (hw : w.Lawful) (has : ∀ a ∈ as, w.Portable a) : w.Crosses limit as where
  results := by
    rw [fst_writeAll]
    exact List.map_congr_left fun a _ => hw.frame_eq limit a
  refused a _ hlong buffer := by
    rw [write, hw.frame, Frame.encode, if_pos hlong]
  received chunks hchunks received r := by
    have hnothing : Frame.first limit w.parse [] = .ok none := Frame.first_of_length_lt (by decide)
    have htold := hw.told_writeAll has (.waits hnothing)
    rw [← hchunks] at htold
    exact Receiver.receives_iff htold
  drained := rfl

end Wire

/-- A document around a message nests two levels deeper than the payload. -/
theorem depth_of_envelope {tag name content : String} {m : Message}
    (h : (Json.object [(tag, .text name), (content, m.toJson)]).depth ≤ maxDepth) : m.payload.depth ≤ maxPayloadDepth - 1 := by
  have hdepth : (Json.object [(tag, .text name), (content, m.toJson)]).depth = m.payload.depth + 2 := by
    simp [Message.toJson, Json.depth, Json.depthOfMembers]
  rw [hdepth] at h
  rw [maxPayloadDepth]
  omega

theorem Request.lawful_wire : wire.Lawful where
  frame _ _ := rfl
  parse r hr := by
    refine parse_bytes ⟨?_, ?_, ?_⟩
    · rintro m rfl
      exact hr.held m rfl
    · rintro m rfl
      exact hr.noReals m rfl
    · rintro m rfl
      exact depth_of_envelope hr.shallow

theorem Response.lawful_wire : wire.Lawful where
  frame _ _ := rfl
  parse r hr := by
    refine parse_bytes ?_ ?_ ?_
    · rintro m rfl
      exact hr.held m rfl
    · rintro m rfl
      exact hr.noReals m rfl
    · rintro m rfl
      exact depth_of_envelope hr.shallow

/-- Requests and replies cross the wire: with any limit, those whose frame can be made are received in order, and nothing else. -/
theorem documents_cross_the_wire (limit : Nat) :
    (∀ requests : List Request, (∀ r ∈ requests, Request.wire.Portable r) → Request.wire.Crosses limit requests) ∧
      ∀ replies : List Response, (∀ r ∈ replies, Response.wire.Portable r) → Response.wire.Crosses limit replies :=
  ⟨fun _ h => Request.lawful_wire.crosses h, fun _ h => Response.lawful_wire.crosses h⟩

/-- Two short requests with one between them that is too long for a frame of thirty bytes. -/
def unevenRequests : List Request :=
  [.check "q", .receive "a name that no such frame can hold", .check "q"]

theorem portable_unevenRequests : ∀ r ∈ unevenRequests, Request.wire.Portable r := by
  intro r hr
  have hmessage : Request.wire.message? r = none := by
    revert r
    decide
  refine ⟨?_, ?_, ?_⟩
  · rw [hmessage]
    exact nofun
  · rw [hmessage]
    exact nofun
  · revert r
    decide

/-- The two short ones are received, also when the buffer is cut inside the length of a frame. -/
theorem documents_cross_the_wire_uneven :
    Receiver.Receives Request.parse (.start 30)
      [(Request.wire.writeAll 30 unevenRequests []).2.take 3, (Request.wire.writeAll 30 unevenRequests []).2.drop 3]
      [.check "q", .check "q"] (.start 30) := by
  refine (((documents_cross_the_wire 30).1 unevenRequests portable_unevenRequests).received _ ?_ _ _).2 ⟨?_, rfl⟩
  · simp
  · rfl

end QueueBroker

import QueueBroker.Proofs.Text.BigEndian
import QueueBroker.Queue.Log

/-!
# What is read in the files of a queue

`Log.Scanned` says, record by record, what reading a log comes to: the bodies of the records that are kept, the messages of
those that are not skipped, and the bytes from the first record on that is not kept. The scan of a log does just that. A
checkpoint file says what its last complete record does.
-/

namespace QueueBroker

/-- Whether a message is read from some bytes. -/
abbrev Message.ReadFrom (body : Bytes) (m : Message) : Prop :=
  Message.parse body = .ok m

namespace Log

variable {bytes body rest : Bytes}

/-! ## Records -/

/-- The records of some bodies, one after the other. -/
def joined (bodies : List Bytes) : Bytes :=
  bodies.flatMap recordOf

@[simp] theorem joined_nil : joined [] = [] := rfl

@[simp] theorem joined_cons (body : Bytes) (bodies : List Bytes) : joined (body :: bodies) = recordOf body ++ joined bodies :=
  rfl

@[simp] theorem joined_append (bodies more : List Bytes) : joined (bodies ++ more) = joined bodies ++ joined more :=
  List.flatMap_append

theorem joined_singleton (body : Bytes) : joined [body] = recordOf body := by
  rw [joined_cons, joined_nil, List.append_nil]

theorem length_recordOf (body : Bytes) : (recordOf body).length = prefixLength + body.length := by
  rw [recordOf, List.length_append, BigEndian.length_encode]

theorem length_le_length_joined (bodies : List Bytes) : bodies.length ≤ (joined bodies).length := by
  induction bodies with
  | nil => exact Nat.le_refl _
  | cons body bodies ih =>
    rw [joined_cons, List.length_append, length_recordOf, List.length_cons, prefixLength]
    omega

/-- A complete record is split off. -/
theorem splitRecord?_recordOf (h : body.length ≤ maxBody) (rest : Bytes) :
    splitRecord? (recordOf body ++ rest) = some (body, rest) := by
  have hlen : (BigEndian.encode prefixLength body.length).length = prefixLength := BigEndian.length_encode _ _
  have hvalue : BigEndian.decode (BigEndian.encode prefixLength body.length) = body.length :=
    BigEndian.decode_encode _ _ (Nat.lt_of_le_of_lt h (by decide))
  rw [splitRecord?, recordOf, List.append_assoc]
  simp only [List.take_left' hlen, List.drop_left' hlen, hlen, hvalue, Nat.lt_irrefl, if_false, List.take_left, List.drop_left]

/-- Only complete records are split off. -/
theorem of_splitRecord? (h : splitRecord? bytes = some (body, rest)) : body.length ≤ maxBody ∧ bytes = recordOf body ++ rest := by
  rw [splitRecord?] at h
  dsimp only at h
  split at h
  · cases h
  next hhead =>
    split at h
    · cases h
    next hbody =>
      obtain ⟨rfl, rfl⟩ := Prod.mk.inj (Option.some.inj h)
      have hlen : (bytes.take prefixLength).length = prefixLength := by
        rw [List.length_take] at hhead ⊢
        omega
      have hlt := BigEndian.decode_lt (bytes.take prefixLength)
      rw [hlen] at hlt
      have hn : ((bytes.drop prefixLength).take (BigEndian.decode (bytes.take prefixLength))).length =
          BigEndian.decode (bytes.take prefixLength) := by
        rw [List.length_take] at hbody ⊢
        omega
      have hspell := BigEndian.encode_decode (bytes.take prefixLength)
      rw [hlen] at hspell
      refine ⟨?_, ?_⟩
      · rw [hn]
        exact Nat.le_of_lt_succ hlt
      · rw [recordOf, hn, hspell, List.append_assoc, List.take_append_drop, List.take_append_drop]

/-- Bytes that begin no complete record. -/
def Incomplete (bytes : Bytes) : Prop :=
  splitRecord? bytes = none

theorem incomplete_nil : Incomplete [] :=
  rfl

/-- A part of a record that lacks its end is not complete. -/
theorem incomplete_take {k : Nat} (hbody : body.length ≤ maxBody) (hk : k < (recordOf body).length) :
    Incomplete ((recordOf body).take k) := by
  cases hsplit : splitRecord? ((recordOf body).take k) with
  | none => exact hsplit
  | some found =>
    obtain ⟨other, rest⟩ := found
    obtain ⟨hother, heq⟩ := of_splitRecord? hsplit
    -- The record found would begin the whole record too, with more bytes after it.
    have hwhole : recordOf body ++ [] = recordOf other ++ (rest ++ (recordOf body).drop k) := by
      rw [← List.append_assoc, ← heq, List.take_append_drop, List.append_nil]
    have hsame := splitRecord?_recordOf hbody []
    rw [hwhole, splitRecord?_recordOf hother] at hsame
    have hmore := (Prod.mk.inj (Option.some.inj hsame)).2
    have hdrop := (List.append_eq_nil_iff.1 hmore).2
    have := List.drop_eq_nil_iff.1 hdrop
    omega

/-! ## Reading a log -/

/-- What reading some bytes comes to, record by record, when the first `skip` records are skipped: the bodies of the records
that are kept, the messages of those not skipped, and the bytes that are not kept. -/
inductive Scanned : (skip : Nat) → Bytes → List Bytes → List Message → Bytes → Prop where
  | incomplete {skip : Nat} {bytes : Bytes} : Incomplete bytes → Scanned skip bytes [] [] bytes
  | unreadable {bytes body rest : Bytes} {e : Json.Failure} :
      splitRecord? bytes = some (body, rest) → Message.parse body = .error e → Scanned 0 bytes [] [] bytes
  | skipped {skip : Nat} {bytes body rest left : Bytes} {bodies : List Bytes} {pending : List Message} :
      splitRecord? bytes = some (body, rest) → Scanned skip rest bodies pending left →
      Scanned (skip + 1) bytes (body :: bodies) pending left
  | kept {bytes body rest left : Bytes} {m : Message} {bodies : List Bytes} {pending : List Message} :
      splitRecord? bytes = some (body, rest) → Message.parse body = .ok m → Scanned 0 rest bodies pending left →
      Scanned 0 bytes (body :: bodies) (m :: pending) left

variable {skip : Nat} {bodies : List Bytes} {pending : List Message} {left : Bytes}

theorem length_lt_of_splitRecord? (h : splitRecord? bytes = some (body, rest)) : rest.length < bytes.length := by
  obtain ⟨-, rfl⟩ := of_splitRecord? h
  rw [List.length_append, length_recordOf, prefixLength]
  omega

/-- Any bytes can be read. -/
theorem exists_scanned (skip : Nat) (bytes : Bytes) : ∃ bodies pending left, Scanned skip bytes bodies pending left := by
  induction hn : bytes.length using Nat.strongRecOn generalizing skip bytes with
  | _ n ih =>
    subst hn
    cases hsplit : splitRecord? bytes with
    | none => exact ⟨[], [], bytes, .incomplete hsplit⟩
    | some found =>
      obtain ⟨body, rest⟩ := found
      have hlt := length_lt_of_splitRecord? hsplit
      cases skip with
      | succ skip =>
        obtain ⟨bodies, pending, left, h⟩ := ih _ hlt skip rest rfl
        exact ⟨body :: bodies, pending, left, .skipped hsplit h⟩
      | zero =>
        cases hparse : Message.parse body with
        | error e => exact ⟨[], [], bytes, .unreadable hsplit hparse⟩
        | ok m =>
          obtain ⟨bodies, pending, left, h⟩ := ih _ hlt 0 rest rfl
          exact ⟨body :: bodies, m :: pending, left, .kept hsplit hparse h⟩

/-- The scan finds what reading comes to. -/
theorem scanFrom_eq {skip records : Nat} (h : Scanned (skip - records) bytes bodies pending left) {fuel : Nat}
    (hfuel : bytes.length ≤ fuel) (before : List Message) (length : Nat) :
    scanFrom skip fuel before records length bytes =
      ⟨before.reverse ++ pending, records + bodies.length, length + (joined bodies).length⟩ := by
  generalize hk : skip - records = k at h
  induction h generalizing records fuel before length with
  | incomplete hstop =>
    have hstop : splitRecord? _ = none := hstop
    cases fuel with
    | zero => simp [scanFrom]
    | succ fuel => simp [scanFrom, hstop]
  | @unreadable bytes body rest e hsplit hparse =>
    cases fuel with
    | zero => simp [scanFrom]
    | succ fuel =>
      have hread : ¬records < skip := by omega
      simp [scanFrom, hsplit, hparse, hread]
  | @skipped k bytes body rest left bodies pending hsplit _ ih =>
    have hlt := length_lt_of_splitRecord? hsplit
    obtain ⟨fuel, rfl⟩ : ∃ n, fuel = n + 1 := ⟨fuel - 1, by omega⟩
    have hskip : records < skip := by omega
    rw [scanFrom, hsplit]
    dsimp only
    rw [if_pos hskip, ih (by omega) before _ (by omega), joined_cons, List.length_append, length_recordOf, List.length_cons]
    congr 1 <;> omega
  | @kept bytes body rest left m bodies pending hsplit hparse _ ih =>
    have hlt := length_lt_of_splitRecord? hsplit
    obtain ⟨fuel, rfl⟩ : ∃ n, fuel = n + 1 := ⟨fuel - 1, by omega⟩
    have hread : ¬records < skip := by omega
    rw [scanFrom, hsplit]
    dsimp only
    rw [if_neg hread, hparse]
    dsimp only
    rw [ih (by omega) (m :: before) _ (by omega), joined_cons, List.length_append, length_recordOf, List.length_cons]
    simp only [List.reverse_cons, List.append_assoc, List.cons_append, List.nil_append]
    congr 1 <;> omega

theorem scan_eq (h : Scanned skip bytes bodies pending left) :
    scan skip bytes = ⟨pending, bodies.length, (joined bodies).length⟩ := by
  have hstart : Scanned (skip - 0) bytes bodies pending left := h
  rw [scan, scanFrom_eq hstart (Nat.le_refl _) [] 0]
  simp

/-- The records that are kept and the bytes that are not make up all of them. -/
theorem Scanned.eq_joined_append (h : Scanned skip bytes bodies pending left) : bytes = joined bodies ++ left := by
  induction h with
  | incomplete => rfl
  | unreadable => rfl
  | skipped hsplit _ ih =>
    obtain ⟨-, rfl⟩ := of_splitRecord? hsplit
    rw [joined_cons, List.append_assoc, ← ih]
  | kept hsplit _ _ ih =>
    obtain ⟨-, rfl⟩ := of_splitRecord? hsplit
    rw [joined_cons, List.append_assoc, ← ih]

/-- Bodies that their records can hold. -/
def Fit (bodies : List Bytes) : Prop :=
  ∀ body ∈ bodies, body.length ≤ maxBody

theorem Scanned.fit (h : Scanned skip bytes bodies pending left) : Fit bodies := by
  induction h with
  | incomplete => exact List.forall_mem_nil _
  | unreadable => exact List.forall_mem_nil _
  | skipped hsplit _ ih => exact List.forall_mem_cons.2 ⟨(of_splitRecord? hsplit).1, ih⟩
  | kept hsplit _ _ ih => exact List.forall_mem_cons.2 ⟨(of_splitRecord? hsplit).1, ih⟩

/-- The messages are those of the records that are not skipped. -/
theorem Scanned.forall₂_drop (h : Scanned skip bytes bodies pending left) :
    List.Forall₂ Message.ReadFrom (bodies.drop skip) pending := by
  induction h with
  | incomplete =>
    rw [List.drop_nil]
    exact List.Forall₂.nil
  | unreadable => exact List.Forall₂.nil
  | skipped _ _ ih => exact ih
  | kept _ hparse _ ih => exact List.Forall₂.cons hparse ih

/-- What a record says of the message it is to hold, when `readable` tells which messages are read back. -/
def Tells (readable : Message → Bool) (body : Bytes) (m : Message) : Prop :=
  if readable m then Message.parse body = .ok m else ∃ e, Message.parse body = .error e

/-- Of records that were written whole, those are kept that come before the first that is not read back. -/
theorem Scanned.of_tells {readable : Message → Bool} (hfit : Fit bodies) (hskip : skip ≤ bodies.length)
    (htells : List.Forall₂ (Tells readable) (bodies.drop skip) pending) {tail : Bytes} (htail : Incomplete tail) :
    ∃ left, Scanned skip (joined bodies ++ tail) (bodies.take (skip + (pending.takeWhile readable).length))
      (pending.takeWhile readable) left := by
  induction bodies generalizing skip pending with
  | nil =>
    obtain rfl : skip = 0 := Nat.le_zero.1 hskip
    cases htells
    exact ⟨tail, .incomplete htail⟩
  | cons body bodies ih =>
    obtain ⟨hbody, hfit⟩ := List.forall_mem_cons.1 hfit
    have hsplit : splitRecord? (joined (body :: bodies) ++ tail) = some (body, joined bodies ++ tail) := by
      rw [joined_cons, List.append_assoc, splitRecord?_recordOf hbody]
    -- Records that the checkpoint counts as taken are passed over, the others are read until one cannot be.
    cases skip with
    | succ skip =>
      obtain ⟨left, h⟩ := ih hfit (Nat.le_of_succ_le_succ hskip) htells
      refine ⟨left, ?_⟩
      rw [Nat.succ_add, List.take_succ_cons]
      exact .skipped hsplit h
    | zero =>
      cases htells with
      | @cons _ m _ pending hm htells =>
        rw [Tells] at hm
        by_cases hread : readable m = true
        · rw [if_pos hread] at hm
          obtain ⟨left, h⟩ := ih hfit (Nat.zero_le _) htells
          refine ⟨left, ?_⟩
          rw [List.takeWhile_cons_of_pos hread, List.length_cons, ← Nat.add_assoc, List.take_succ_cons]
          exact .kept hsplit hm h
        · rw [if_neg hread] at hm
          obtain ⟨e, he⟩ := hm
          rw [List.takeWhile_cons_of_neg hread]
          exact ⟨_, .unreadable hsplit he⟩

end Log

namespace Checkpoint

variable {bytes : Bytes}

/-! ## Checkpoints -/

/-- Whether checkpoint bytes are whole records. -/
def Whole (bytes : Bytes) : Prop :=
  bytes.length % recordLength = 0

theorem whole_nil : Whole [] :=
  rfl

theorem length_record (taken : Nat) : (record taken).length = recordLength :=
  BigEndian.length_encode _ _

theorem completeLength_le (bytes : Bytes) : completeLength bytes ≤ bytes.length :=
  Nat.sub_le _ _

theorem whole_take (bytes : Bytes) : Whole (bytes.take (completeLength bytes)) := by
  rw [Whole, List.length_take, Nat.min_eq_left (completeLength_le bytes), completeLength, recordLength]
  omega

theorem Whole.completeLength_eq (h : Whole bytes) : completeLength bytes = bytes.length := by
  rw [completeLength, h, Nat.sub_zero]

/-- A torn record at the end does not count. -/
theorem Whole.completeLength_append (h : Whole bytes) {tail : Bytes} (htail : tail.length < recordLength) :
    completeLength (bytes ++ tail) = bytes.length := by
  rw [Whole] at h
  rw [completeLength, List.length_append]
  rw [recordLength] at *
  omega

theorem Whole.last_append (h : Whole bytes) {tail : Bytes} (htail : tail.length < recordLength) :
    last (bytes ++ tail) = last bytes := by
  rw [last, last, h.completeLength_append htail, h.completeLength_eq, List.take_left, List.take_length]

/-- What is cut off leaves the last record what it was. -/
theorem last_take (bytes : Bytes) : last (bytes.take (completeLength bytes)) = last bytes := by
  rw [last, (whole_take bytes).completeLength_eq, List.take_length, last]

theorem Whole.append_record (h : Whole bytes) (taken : Nat) : Whole (bytes ++ record taken) := by
  rw [Whole, List.length_append, length_record, Nat.add_mod_right]
  exact h

/-- The last record written is the last that is read. -/
theorem Whole.last_append_record (h : Whole bytes) {taken : Nat} (ht : taken < UInt64.size) :
    last (bytes ++ record taken) = taken := by
  rw [last, (h.append_record taken).completeLength_eq, List.take_length, List.length_append, length_record,
    Nat.add_sub_cancel, List.drop_left]
  exact BigEndian.decode_encode _ _ ht

end Checkpoint

end QueueBroker

import QueueBroker.Proofs.Queue.Log
import QueueBroker.Storage.Disk

/-!
# Reading with offsets

`Log.scan` and `Checkpoint.last` take the contents of a file apart. On a machine they are read piece by piece, and offsets, lengths
and counts are numbers of 64 bits: a piece may be asked for that the file does not have, a sum may not fit and a difference may fall
below zero. `Cursor.readLog` and `Cursor.readCheckpoint` read in this way and say when that happens. It never does in a file that a
disk can hold, whatever its bytes, and what is read is the same.
-/

namespace QueueBroker

namespace Cursor

/-- What can go wrong while a file is read piece by piece. -/
inductive Fault where
  /-- The file has no bytes left. -/
  | endOfFile
  /-- A sum does not fit 64 bits. -/
  | overflow
  /-- A difference is below zero. -/
  | underflow
deriving DecidableEq, Repr

/-- The first bytes of what is left of a file. -/
structure Piece (left : Bytes) (n : Nat) where
  bytes : Bytes
  rest : Bytes
  whole : left = bytes ++ rest
  length : bytes.length = n

/-- Read the next `n` bytes, and no fewer. -/
def readExactly (left : Bytes) (n : Nat) : Except Fault (Piece left n) :=
  if h : n ≤ left.length then
    .ok ⟨left.take n, left.drop n, (List.take_append_drop n left).symm, by rw [List.length_take, Nat.min_eq_left h]⟩
  else .error .endOfFile

/-- The sum of two numbers of 64 bits. -/
def add (a b : Nat) : Except Fault Nat :=
  if a + b < UInt64.size then .ok (a + b) else .error .overflow

/-- The difference of two numbers of 64 bits. -/
def sub (a b : Nat) : Except Fault Nat :=
  if b ≤ a then .ok (a - b) else .error .underflow

/-- Read on in a log of `length` bytes at `offset`, where `left` is left of it, after `records` records. A record that is not complete
is not read, and one that is to be skipped is not looked into. -/
def readRecords (length skip : Nat) (pending : List Message) (records offset : Nat) (left : Bytes) : Except Fault Log.Contents := do
  let start ← add offset Log.prefixLength
  if length < start then pure ⟨pending.reverse, records, offset⟩
  else
    let head ← readExactly left Log.prefixLength
    let finish ← add start (BigEndian.decode head.bytes)
    if length < finish then pure ⟨pending.reverse, records, offset⟩
    else
      let body ← readExactly head.rest (BigEndian.decode head.bytes)
      if records < skip then
        let records' ← add records 1
        readRecords length skip pending records' finish body.rest
      else
        match Message.parse body.bytes with
        | .error _ => pure ⟨pending.reverse, records, offset⟩
        | .ok m =>
          let records' ← add records 1
          readRecords length skip (m :: pending) records' finish body.rest
termination_by left.length
decreasing_by
  all_goals
    have h1 := congrArg List.length head.whole
    have h2 := congrArg List.length body.whole
    have h3 : head.bytes.length = 4 := head.length
    rw [List.length_append] at h1 h2
    omega

/-- Read a log from its beginning. -/
def readLog (skip : Nat) (bytes : Bytes) : Except Fault Log.Contents :=
  readRecords bytes.length skip [] 0 0 bytes

/-- Read the last complete record of a checkpoint file: what it says, and the length of all complete records. -/
def readCheckpoint (bytes : Bytes) : Except Fault (Nat × Nat) := do
  let complete ← sub bytes.length (bytes.length % Checkpoint.recordLength)
  if complete = 0 then pure (0, 0)
  else
    let start ← sub complete Checkpoint.recordLength
    let word ← readExactly ((bytes.take complete).drop start) Checkpoint.recordLength
    pure (BigEndian.decode word.bytes, complete)

/-! ## Pieces that are there -/

theorem add_eq_ok {a b : Nat} (h : a + b < UInt64.size) : add a b = .ok (a + b) :=
  if_pos h

theorem sub_eq_ok {a b : Nat} (h : b ≤ a) : sub a b = .ok (a - b) :=
  if_pos h

theorem readExactly_eq_ok {left bytes rest : Bytes} {n : Nat} (hwhole : left = bytes ++ rest) (hlength : bytes.length = n) :
    readExactly left n = .ok ⟨bytes, rest, hwhole, hlength⟩ := by
  subst hwhole hlength
  rw [readExactly, dif_pos (by rw [List.length_append]; exact Nat.le_add_right _ _)]
  simp only [List.take_left, List.drop_left]

/-! ## Logs -/

section

open Log

variable {length skip records offset : Nat} {left body rest : Bytes} (hlength : offset + left.length = length)
  (hfile : length + (prefixLength + maxBody) < UInt64.size)
include hlength hfile

/-- Where no record can be split off, one would end after the file. -/
theorem readRecords_of_incomplete (h : Incomplete left) (before : List Message) :
    readRecords length skip before records offset left = .ok ⟨before.reverse, records, offset⟩ := by
  rw [readRecords, add_eq_ok (by omega)]
  simp only [bind, Except.bind]
  by_cases hstart : length < offset + prefixLength
  · rw [if_pos hstart]
    rfl
  · obtain ⟨head, tail, rfl, hhead⟩ : ∃ head tail, left = head ++ tail ∧ head.length = prefixLength :=
      ⟨left.take prefixLength, left.drop prefixLength, (List.take_append_drop _ _).symm, by rw [List.length_take]; omega⟩
    have hn : BigEndian.decode head ≤ maxBody := by
      have hlt := BigEndian.decode_lt head
      rw [hhead] at hlt
      exact Nat.le_of_lt_succ hlt
    have hfinish : length < offset + prefixLength + BigEndian.decode head := by
      rw [Incomplete, splitRecord?, List.take_left' hhead, List.drop_left' hhead] at h
      dsimp only at h
      rw [if_neg (by omega)] at h
      by_contra hfinish
      rw [List.length_append] at hlength
      rw [if_neg (by rw [List.length_take]; omega)] at h
      cases h
    rw [if_neg hstart, readExactly_eq_ok rfl hhead]
    dsimp only
    rw [add_eq_ok (by omega)]
    dsimp only
    rw [if_pos hfinish]
    rfl

/-- A record that can be split off is read whole. -/
theorem readRecords_of_split (h : splitRecord? left = some (body, rest)) (hrecords : records ≤ offset) (before : List Message) :
    readRecords length skip before records offset left =
      if records < skip then readRecords length skip before (records + 1) (offset + prefixLength + body.length) rest
      else
        match Message.parse body with
        | .error _ => .ok ⟨before.reverse, records, offset⟩
        | .ok m => readRecords length skip (m :: before) (records + 1) (offset + prefixLength + body.length) rest := by
  obtain ⟨hbody, rfl⟩ := of_splitRecord? h
  have hhead : (BigEndian.encode prefixLength body.length).length = prefixLength := BigEndian.length_encode _ _
  have hvalue : BigEndian.decode (BigEndian.encode prefixLength body.length) = body.length :=
    BigEndian.decode_encode _ _ (Nat.lt_of_le_of_lt hbody (by decide))
  have hprefix : 0 < prefixLength := by decide
  rw [List.length_append, length_recordOf] at hlength
  have hwhole : recordOf body ++ rest = BigEndian.encode prefixLength body.length ++ (body ++ rest) := List.append_assoc _ _ _
  rw [readRecords, add_eq_ok (by omega)]
  simp only [bind, Except.bind]
  rw [if_neg (by omega), readExactly_eq_ok hwhole hhead]
  dsimp only
  rw [hvalue, add_eq_ok (by omega)]
  dsimp only
  rw [if_neg (by omega), readExactly_eq_ok rfl rfl, add_eq_ok (by omega)]
  rfl

end

open Log in
/-- What is read of a log piece by piece is what can be split off it. -/
theorem readRecords_eq {length skip records offset : Nat} {left rest : Bytes} {bodies : List Bytes} {pending : List Message}
    (h : Scanned (skip - records) left bodies pending rest) (hlength : offset + left.length = length)
    (hfile : length + (prefixLength + maxBody) < UInt64.size) (hrecords : records ≤ offset) (before : List Message) :
    readRecords length skip before records offset left =
      .ok ⟨before.reverse ++ pending, records + bodies.length, offset + (joined bodies).length⟩ := by
  have hprefix : 0 < prefixLength := by decide
  generalize hk : skip - records = k at h
  -- The induction is on what the log comes to; the offset and what is left make up the file throughout.
  induction h generalizing records offset before with
  | incomplete hstop =>
    rw [readRecords_of_incomplete hlength hfile hstop, List.append_nil]
    rfl
  | unreadable hsplit hparse =>
    rw [readRecords_of_split hlength hfile hsplit hrecords, if_neg (by omega), hparse, List.append_nil]
    rfl
  | @skipped k left body rest _ bodies pending hsplit _ ih =>
    obtain ⟨-, rfl⟩ := of_splitRecord? hsplit
    have hrest : offset + prefixLength + body.length + rest.length = length := by
      rw [List.length_append, length_recordOf] at hlength
      omega
    rw [readRecords_of_split hlength hfile hsplit hrecords, if_pos (by omega), ih hrest (by omega) before (by omega), joined_cons,
      List.length_append, length_recordOf, List.length_cons]
    congr 2 <;> omega
  | @kept left body rest _ m bodies pending hsplit hparse _ ih =>
    obtain ⟨-, rfl⟩ := of_splitRecord? hsplit
    have hrest : offset + prefixLength + body.length + rest.length = length := by
      rw [List.length_append, length_recordOf] at hlength
      omega
    rw [readRecords_of_split hlength hfile hsplit hrecords, if_neg (by omega), hparse]
    dsimp only
    rw [ih hrest (by omega) (m :: before) (by omega), joined_cons, List.length_append, length_recordOf, List.length_cons,
      List.reverse_cons, List.append_assoc, List.singleton_append]
    congr 2 <;> omega

/-- The offsets in a file, and at the end of any record in it, fit 64 bits. -/
theorem offsets_fit {bytes : Bytes} (h : bytes.length ≤ Disk.maxFile) :
    bytes.length + (Log.prefixLength + Log.maxBody) < UInt64.size := by
  have hsize : Disk.maxFile + (Log.prefixLength + Log.maxBody) < UInt64.size := by decide
  omega

/-- A log is read to its end, and what is read is what the scan finds. -/
theorem readLog_eq {skip : Nat} {bytes : Bytes} (h : bytes.length ≤ Disk.maxFile) : readLog skip bytes = .ok (Log.scan skip bytes) := by
  obtain ⟨bodies, pending, left, hscan⟩ := Log.exists_scanned skip bytes
  have hstart : Log.Scanned (skip - 0) bytes bodies pending left := hscan
  rw [readLog, readRecords_eq hstart (Nat.zero_add _) (offsets_fit h) (Nat.le_refl _) [], Log.scan_eq hscan]
  simp

/-! ## Checkpoints -/

/-- A checkpoint file is read to the end of its last complete record. -/
theorem readCheckpoint_eq (bytes : Bytes) : readCheckpoint bytes = .ok (Checkpoint.last bytes, Checkpoint.completeLength bytes) := by
  rw [readCheckpoint, sub_eq_ok (Nat.mod_le _ _)]
  simp only [bind, Except.bind]
  rw [← Checkpoint.completeLength]
  have hle := Checkpoint.completeLength_le bytes
  have hwhole := Checkpoint.whole_take bytes
  have hlength : (bytes.take (Checkpoint.completeLength bytes)).length = Checkpoint.completeLength bytes := by
    rw [List.length_take, Nat.min_eq_left hle]
  rw [Checkpoint.Whole, hlength, Checkpoint.recordLength] at hwhole
  by_cases hzero : Checkpoint.completeLength bytes = 0
  · rw [if_pos hzero, Checkpoint.last, hzero, List.take_zero]
    rfl
  · have hlast : Checkpoint.last bytes = BigEndian.decode
        ((bytes.take (Checkpoint.completeLength bytes)).drop (Checkpoint.completeLength bytes - Checkpoint.recordLength)) := by
      rw [Checkpoint.last, hlength]
    have hword : Checkpoint.recordLength ≤ Checkpoint.completeLength bytes := by
      rw [Checkpoint.recordLength]
      omega
    rw [if_neg hzero, sub_eq_ok hword]
    dsimp only
    rw [readExactly_eq_ok (List.append_nil _).symm (by rw [List.length_drop, hlength]; omega), hlast]
    rfl

end Cursor

end QueueBroker

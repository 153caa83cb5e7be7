import QueueBroker.Proofs.Text.BigEndian
import QueueBroker.Protocol.Frame

/-!
# Streams of documents

What a stream of bytes says is defined of all its bytes at once: the documents of the frames before the first that is incomplete or
bad. `Frame.Told` says it frame by frame. A receiver gets the bytes in chunks and may have taken the length of a frame before the
rest of the frame is there; `Receiver.unread` are the bytes that it has yet to answer for, and each document it takes is the first
of those.
-/

namespace QueueBroker

variable {α : Type} {limit : Nat} {parse : Bytes → Except Json.Failure α} {bytes more rest body : Bytes} {a : α}

namespace Frame

/-! ## Documents of a stream -/

/-- The first document of some bytes and what follows its frame, none if the frame is not complete. -/
def first (limit : Nat) (parse : Bytes → Except Json.Failure α) (bytes : Bytes) : Except BrokerError (Option (α × Bytes)) :=
  if bytes.length < prefixLength then .ok none
  else
    let n := BigEndian.decode (bytes.take prefixLength)
    let rest := bytes.drop prefixLength
    if min limit maxLength < n then .error (.protocol .frameTooBig)
    else if rest.length < n then .ok none
    else
      match parse (rest.take n) with
      | .ok a => .ok (some (a, rest.drop n))
      | .error failure => .error (.protocol (.undecodable failure))

/-- The documents of a stream, and the bytes of the last frame, which is not complete, or what is wrong with it. The fuel is the
number of bytes, of which each frame takes some. -/
def documentsFrom (limit : Nat) (parse : Bytes → Except Json.Failure α) : (fuel : Nat) → Bytes → List α × Except BrokerError Bytes
  | 0, bytes => ([], .ok bytes)
  | fuel + 1, bytes =>
    match first limit parse bytes with
    | .error e => ([], .error e)
    | .ok none => ([], .ok bytes)
    | .ok (some (a, rest)) =>
      let (as, ending) := documentsFrom limit parse fuel rest
      (a :: as, ending)

/-- The documents of the frames of a stream before the first that is incomplete or bad. -/
def documents (limit : Nat) (parse : Bytes → Except Json.Failure α) (bytes : Bytes) : List α :=
  (documentsFrom limit parse bytes.length bytes).1

/-- What a stream tells, frame by frame: its documents, and the bytes of the last frame or what is wrong with it. -/
inductive Told (limit : Nat) (parse : Bytes → Except Json.Failure α) : Bytes → List α → Except BrokerError Bytes → Prop where
  | waits {bytes : Bytes} : first limit parse bytes = .ok none → Told limit parse bytes [] (.ok bytes)
  | fails {bytes : Bytes} {e : BrokerError} : first limit parse bytes = .error e → Told limit parse bytes [] (.error e)
  | document {bytes rest : Bytes} {a : α} {as : List α} {ending : Except BrokerError Bytes} :
      first limit parse bytes = .ok (some (a, rest)) → Told limit parse rest as ending → Told limit parse bytes (a :: as) ending

variable {as bs : List α} {ending ending' : Except BrokerError Bytes}

theorem first_of_length_lt (h : bytes.length < prefixLength) : first limit parse bytes = .ok none :=
  if_pos h

/-- What comes first after a length. -/
theorem first_encode_append {n : Nat} (hn : n < 256 ^ prefixLength) (rest : Bytes) :
    first limit parse (BigEndian.encode prefixLength n ++ rest) =
      if min limit maxLength < n then .error (.protocol .frameTooBig)
      else if rest.length < n then .ok none
      else
        match parse (rest.take n) with
        | .ok a => .ok (some (a, rest.drop n))
        | .error failure => .error (.protocol (.undecodable failure)) := by
  have hlen : (BigEndian.encode prefixLength n).length = prefixLength := BigEndian.length_encode _ _
  have hlong : ¬(BigEndian.encode prefixLength n ++ rest).length < prefixLength := by
    rw [List.length_append, hlen]
    omega
  rw [first, if_neg hlong]
  dsimp only
  rw [List.take_left' hlen, List.drop_left' hlen, BigEndian.decode_encode _ _ hn]

theorem lt_of_fits {n : Nat} (h : n ≤ min limit maxLength) : n < 256 ^ prefixLength :=
  Nat.lt_of_le_of_lt (Nat.le_trans h (Nat.min_le_right _ _)) (by decide)

theorem not_length_append_lt (body rest : Bytes) : ¬(body ++ rest).length < body.length := by
  rw [List.length_append]
  omega

/-- How some bytes begin: with part of a frame, with the frame of a document or with one that is bad. -/
inductive Starts (limit : Nat) (parse : Bytes → Except Json.Failure α) : Bytes → Except BrokerError (Option (α × Bytes)) → Prop where
  | short {bytes : Bytes} : bytes.length < prefixLength → Starts limit parse bytes (.ok none)
  | incomplete {n : Nat} {later : Bytes} : n ≤ min limit maxLength → later.length < n →
      Starts limit parse (BigEndian.encode prefixLength n ++ later) (.ok none)
  | tooBig {n : Nat} {later : Bytes} : n < 256 ^ prefixLength → min limit maxLength < n →
      Starts limit parse (BigEndian.encode prefixLength n ++ later) (.error (.protocol .frameTooBig))
  | document {body rest : Bytes} {a : α} : body.length ≤ min limit maxLength → parse body = .ok a →
      Starts limit parse (BigEndian.encode prefixLength body.length ++ (body ++ rest)) (.ok (some (a, rest)))
  | undecodable {body rest : Bytes} {failure : Json.Failure} : body.length ≤ min limit maxLength → parse body = .error failure →
      Starts limit parse (BigEndian.encode prefixLength body.length ++ (body ++ rest)) (.error (.protocol (.undecodable failure)))

theorem starts_first (limit : Nat) (parse : Bytes → Except Json.Failure α) (bytes : Bytes) :
    Starts limit parse bytes (first limit parse bytes) := by
  rcases Nat.lt_or_ge bytes.length prefixLength with hshort | hlong
  · rw [first_of_length_lt hshort]
    exact .short hshort
  obtain ⟨n, later, hn, rfl⟩ := BigEndian.exists_eq_encode_append hlong
  rw [first_encode_append hn]
  by_cases hbig : min limit maxLength < n
  · rw [if_pos hbig]
    exact .tooBig hn hbig
  have hfits := Nat.le_of_not_lt hbig
  rw [if_neg hbig]
  by_cases hpart : later.length < n
  · rw [if_pos hpart]
    exact .incomplete hfits hpart
  rw [if_neg hpart]
  have hlength : (later.take n).length = n := List.length_take_of_le (Nat.le_of_not_lt hpart)
  obtain ⟨body, rest, rfl, rfl⟩ : ∃ body rest, body.length = n ∧ later = body ++ rest :=
    ⟨later.take n, later.drop n, hlength, (List.take_append_drop n later).symm⟩
  rw [List.take_left, List.drop_left]
  cases hparse : parse body with
  | ok a => exact .document hfits hparse
  | error failure => exact .undecodable hfits hparse

theorem Starts.first_eq {result : Except BrokerError (Option (α × Bytes))} (h : Starts limit parse bytes result) :
    first limit parse bytes = result := by
  cases h with
  | short hshort => exact first_of_length_lt hshort
  | incomplete hfits hpart => rw [first_encode_append (lt_of_fits hfits), if_neg (Nat.not_lt_of_le hfits), if_pos hpart]
  | tooBig hn hbig => rw [first_encode_append hn, if_pos hbig]
  | document hfits hparse =>
    rw [first_encode_append (lt_of_fits hfits), if_neg (Nat.not_lt_of_le hfits), if_neg (not_length_append_lt _ _), List.take_left,
      List.drop_left, hparse]
  | undecodable hfits hparse =>
    rw [first_encode_append (lt_of_fits hfits), if_neg (Nat.not_lt_of_le hfits), if_neg (not_length_append_lt _ _), List.take_left,
      hparse]

theorem starts_iff {result : Except BrokerError (Option (α × Bytes))} :
    Starts limit parse bytes result ↔ first limit parse bytes = result :=
  ⟨Starts.first_eq, fun h => h ▸ starts_first limit parse bytes⟩

/-- A frame goes around some bytes exactly when they are no more than the limit. -/
theorem exists_encode_iff :
    (∃ frame, encode limit body = .ok frame) ↔ body.length ≤ min limit maxLength := by
  unfold encode
  split
  · rename_i hlong
    constructor
    · rintro ⟨frame, h⟩
      nomatch h
    · intro h
      omega
  · rename_i hfits
    exact ⟨fun _ => Nat.le_of_not_lt hfits, fun _ => ⟨_, rfl⟩⟩

/-- A frame that was made around a document is the first there is. -/
theorem first_of_encode {frame : Bytes} (hframe : encode limit body = .ok frame) (hparse : parse body = .ok a) (rest : Bytes) :
    first limit parse (frame ++ rest) = .ok (some (a, rest)) := by
  unfold encode at hframe
  split at hframe
  · cases hframe
  rename_i hfits
  cases hframe
  rw [List.append_assoc]
  exact (Starts.document (Nat.le_of_not_lt hfits) hparse).first_eq

/-- A document is taken with its whole frame. -/
theorem of_first_eq_some (h : first limit parse bytes = .ok (some (a, rest))) :
    ∃ body, body.length ≤ min limit maxLength ∧ parse body = .ok a ∧
      bytes = BigEndian.encode prefixLength body.length ++ body ++ rest := by
  cases starts_iff.2 h with
  | @document body _ _ hfits hparse => exact ⟨body, hfits, hparse, (List.append_assoc _ _ _).symm⟩

theorem exists_frame_of_first (h : first limit parse bytes = .ok (some (a, rest))) :
    ∃ frame, bytes = frame ++ rest ∧ first limit parse frame = .ok (some (a, [])) := by
  obtain ⟨body, hfits, hparse, rfl⟩ := of_first_eq_some h
  have hframe : encode limit body = .ok (BigEndian.encode prefixLength body.length ++ body) := if_neg (Nat.not_lt_of_le hfits)
  have halone := first_of_encode hframe hparse []
  rw [List.append_nil] at halone
  exact ⟨_, rfl, halone⟩

theorem length_lt_of_first (h : first limit parse bytes = .ok (some (a, rest))) : rest.length < bytes.length := by
  obtain ⟨body, -, -, rfl⟩ := of_first_eq_some h
  rw [List.length_append, List.length_append, BigEndian.length_encode, prefixLength]
  omega

/-- Bytes that follow a complete frame follow what is left after it. -/
theorem first_append_of_some (h : first limit parse bytes = .ok (some (a, rest))) (more : Bytes) :
    first limit parse (bytes ++ more) = .ok (some (a, rest ++ more)) := by
  obtain ⟨body, hfits, hparse, rfl⟩ := of_first_eq_some h
  have hframe : encode limit body = .ok (BigEndian.encode prefixLength body.length ++ body) := if_neg (Nat.not_lt_of_le hfits)
  rw [List.append_assoc]
  exact first_of_encode hframe hparse _

/-- Bytes that follow a bad frame do not mend it. -/
theorem first_append_of_error {e : BrokerError} (h : first limit parse bytes = .error e) (more : Bytes) :
    first limit parse (bytes ++ more) = .error e := by
  cases starts_iff.2 h with
  | tooBig hn hbig =>
    rw [List.append_assoc]
    exact (Starts.tooBig hn hbig).first_eq
  | undecodable hfits hparse =>
    rw [List.append_assoc, List.append_assoc]
    exact (Starts.undecodable hfits hparse).first_eq

/-! ## What a stream tells -/

theorem exists_told (limit : Nat) (parse : Bytes → Except Json.Failure α) (bytes : Bytes) :
    ∃ as ending, Told limit parse bytes as ending := by
  induction hn : bytes.length using Nat.strongRecOn generalizing bytes with
  | _ n ih =>
    subst hn
    cases hfirst : first limit parse bytes with
    | error e => exact ⟨_, _, .fails hfirst⟩
    | ok found =>
      cases found with
      | none => exact ⟨_, _, .waits hfirst⟩
      | some found =>
        obtain ⟨a, rest⟩ := found
        obtain ⟨as, ending, h⟩ := ih _ (length_lt_of_first hfirst) rest rfl
        exact ⟨_, _, .document hfirst h⟩

theorem documentsFrom_eq (h : Told limit parse bytes as ending) {fuel : Nat} (hfuel : bytes.length ≤ fuel) :
    documentsFrom limit parse fuel bytes = (as, ending) := by
  induction h generalizing fuel with
  | waits hfirst =>
    cases fuel with
    | zero => rfl
    | succ fuel => rw [documentsFrom, hfirst]
  | @fails bytes e hfirst =>
    cases fuel with
    | zero =>
      obtain rfl := List.eq_nil_of_length_eq_zero (Nat.le_zero.1 hfuel)
      cases hfirst
    | succ fuel => rw [documentsFrom, hfirst]
  | document hfirst _ ih =>
    have hlt := length_lt_of_first hfirst
    obtain ⟨fuel, rfl⟩ : ∃ n, fuel = n + 1 := ⟨fuel - 1, by omega⟩
    rw [documentsFrom, hfirst]
    dsimp only
    rw [ih (by omega)]

theorem Told.documents_eq (h : Told limit parse bytes as ending) : documents limit parse bytes = as := by
  rw [documents, documentsFrom_eq h (Nat.le_refl _)]

/-- A stream tells one thing. -/
theorem Told.unique (h : Told limit parse bytes as ending) (h' : Told limit parse bytes bs ending') : as = bs ∧ ending = ending' :=
  Prod.mk.inj ((documentsFrom_eq h (Nat.le_refl _)).symm.trans (documentsFrom_eq h' (Nat.le_refl _)))

/-- What follows an incomplete frame completes it. -/
theorem Told.append (h : Told limit parse bytes as (.ok rest)) (h' : Told limit parse (rest ++ more) bs ending) :
    Told limit parse (bytes ++ more) (as ++ bs) ending := by
  generalize hend : Except.ok rest = old at h
  induction h with
  | waits =>
    cases hend
    exact h'
  | fails => cases hend
  | document hfirst _ ih => exact .document (first_append_of_some hfirst more) (ih hend)

/-- The frame that a stream ends with is not complete. -/
theorem Told.first_eq_none (h : Told limit parse bytes as (.ok rest)) : first limit parse rest = .ok none := by
  generalize hend : Except.ok rest = old at h
  induction h with
  | waits hfirst =>
    cases hend
    exact hfirst
  | fails => cases hend
  | document _ _ ih => exact ih hend

/-- After a bad frame nothing counts. -/
theorem Told.append_of_error {e : BrokerError} (h : Told limit parse bytes as (.error e)) (more : Bytes) :
    Told limit parse (bytes ++ more) as (.error e) := by
  generalize hend : Except.error e = old at h ⊢
  induction h with
  | waits => cases hend
  | fails hfirst =>
    cases hend
    exact .fails (first_append_of_error hfirst more)
  | document hfirst _ ih => exact .document (first_append_of_some hfirst more) (ih hend)

/-- A longer stream tells all that its beginning does. -/
theorem documents_prefix_append (limit : Nat) (parse : Bytes → Except Json.Failure α) (bytes more : Bytes) :
    documents limit parse bytes <+: documents limit parse (bytes ++ more) := by
  obtain ⟨as, ending, h⟩ := exists_told limit parse bytes
  rw [h.documents_eq]
  cases ending with
  | error e =>
    have hsame := (h.append_of_error more).documents_eq
    exact ⟨[], (List.append_nil _).trans hsame.symm⟩
  | ok rest =>
    obtain ⟨bs, ending', h'⟩ := exists_told limit parse (rest ++ more)
    rw [(h.append h').documents_eq]
    exact List.prefix_append _ _

/-! ## Streams of whole frames -/

/-- A frame that was made for `a`: nothing else is read of its body, if anything is. -/
def MadeFor (parse : Bytes → Except Json.Failure α) (limit : Nat) (a : α) (frame : Bytes) : Prop :=
  ∃ body, encode limit body = .ok frame ∧ ∀ a', parse body = .ok a' → a' = a

/-- The first document of bytes that begin with a frame is the one that the frame was made for. The two sides may have different
limits. -/
theorem MadeFor.of_first_append {sent : Nat} {frame : Bytes} {a' : α} (hframe : MadeFor parse sent a frame)
    (h : first limit parse (frame ++ more) = .ok (some (a', rest))) : a' = a ∧ rest = more := by
  obtain ⟨body, hencode, honly⟩ := hframe
  unfold encode at hencode
  split at hencode
  · cases hencode
  rename_i hfits
  cases hencode
  rw [List.append_assoc, first_encode_append (lt_of_fits (Nat.le_of_not_lt hfits)), List.take_left, List.drop_left] at h
  split at h
  · cases h
  split at h
  · cases h
  cases hparse : parse body with
  | error failure =>
    rw [hparse] at h
    cases h
  | ok b =>
    rw [hparse] at h
    obtain ⟨rfl, rfl⟩ := Prod.mk.inj (Option.some.inj (Except.ok.inj h))
    exact ⟨honly b hparse, rfl⟩

/-- A stream of whole frames tells what the first of them were made for, and nothing else. -/
theorem Told.prefix_of_frames {sent : Nat} {frames : List Bytes} (h : Told limit parse frames.flatten bs ending)
    (hframes : List.Forall₂ (MadeFor parse sent) as frames) : bs <+: as := by
  induction hframes generalizing bs ending with
  | nil =>
    obtain ⟨rfl, -⟩ := h.unique (.waits rfl)
    exact List.prefix_rfl
  | @cons a frame as frames hframe _ ih =>
    rw [List.flatten_cons] at h
    cases h with
    | waits => exact List.nil_prefix
    | fails => exact List.nil_prefix
    | document hfirst hrest =>
      obtain ⟨rfl, rfl⟩ := hframe.of_first_append hfirst
      exact (List.prefix_cons_inj _).2 (ih hrest)

theorem documents_prefix_of_frames {sent : Nat} {frames : List Bytes} (hframes : List.Forall₂ (MadeFor parse sent) as frames)
    (limit : Nat) : documents limit parse frames.flatten <+: as := by
  obtain ⟨bs, ending, h⟩ := exists_told limit parse frames.flatten
  rw [h.documents_eq]
  exact h.prefix_of_frames hframes

end Frame

namespace Receiver

/-! ## Receiving -/

variable {r r' : Receiver}

/-- The bytes of a stream that a receiver has not answered for, the length that it took among them. -/
def unread (r : Receiver) : Bytes :=
  match r.announced with
  | none => r.buffer
  | some n => BigEndian.encode Frame.prefixLength n ++ r.buffer

/-- Whether a receiver only took a length that it accepts. -/
def Sound (r : Receiver) : Prop :=
  ∀ n, r.announced = some n → n ≤ min r.limit Frame.maxLength

theorem sound_start (limit : Nat) : (start limit).Sound :=
  fun _ h => nomatch h

theorem Sound.feed (h : r.Sound) (bytes : Bytes) : (r.feed bytes).Sound :=
  h

theorem unread_feed (r : Receiver) (bytes : Bytes) : (r.feed bytes).unread = r.unread ++ bytes := by
  rw [unread, unread, Receiver.feed]
  cases r.announced with
  | none => rfl
  | some n => exact (List.append_assoc _ _ _).symm

/-- A receiver with nothing unread is as it was at the start. -/
theorem eq_start_of_unread (h : r.unread = []) : r = start r.limit := by
  obtain ⟨limit, announced, buffer⟩ := r
  cases announced with
  | none =>
    obtain rfl : buffer = [] := h
    rfl
  | some n =>
    have hlen := congrArg List.length h
    rw [unread, List.length_append, BigEndian.length_encode, Frame.prefixLength, List.length_nil] at hlen
    omega

/-- What a receiver makes of a length. -/
theorem takePrefix_encode {n : Nat} (hn : n < 256 ^ Frame.prefixLength) (limit : Nat) (rest : Bytes) :
    (⟨limit, none, BigEndian.encode Frame.prefixLength n ++ rest⟩ : Receiver).takePrefix =
      if min limit Frame.maxLength < n then
        (.error (.protocol .frameTooBig), ⟨limit, none, BigEndian.encode Frame.prefixLength n ++ rest⟩)
      else (.ok (some n), ⟨limit, some n, rest⟩) := by
  have hlen : (BigEndian.encode Frame.prefixLength n).length = Frame.prefixLength := BigEndian.length_encode _ _
  have hlong : ¬(BigEndian.encode Frame.prefixLength n ++ rest).length < Frame.prefixLength := by
    rw [List.length_append, hlen]
    omega
  rw [takePrefix]
  dsimp only
  rw [if_neg hlong, List.take_left' hlen, List.drop_left' hlen, BigEndian.decode_encode _ _ hn]

theorem takePrefix_of_fits {n : Nat} (hfits : n ≤ min limit Frame.maxLength) (later : Bytes) :
    (⟨limit, none, BigEndian.encode Frame.prefixLength n ++ later⟩ : Receiver).takePrefix = (.ok (some n), ⟨limit, some n, later⟩) := by
  rw [takePrefix_encode (Frame.lt_of_fits hfits), if_neg (Nat.not_lt_of_le hfits)]

/-- A frame that is there is taken whole. -/
theorem takeFrame_of_fits (hfits : body.length ≤ min limit Frame.maxLength) (rest : Bytes) :
    (⟨limit, none, BigEndian.encode Frame.prefixLength body.length ++ (body ++ rest)⟩ : Receiver).takeFrame =
      (.ok (some body), ⟨limit, none, rest⟩) := by
  rw [takeFrame, takePrefix_of_fits hfits]
  dsimp only
  rw [if_neg (Frame.not_length_append_lt _ _), List.take_left, List.drop_left]

/-- Having taken a length makes no difference to what is taken next. -/
theorem next_unread (h : r.Sound) (parse : Bytes → Except Json.Failure α) :
    (⟨r.limit, none, r.unread⟩ : Receiver).next parse = r.next parse := by
  obtain ⟨limit, announced, buffer⟩ := r
  cases announced with
  | none => rfl
  | some n =>
    have hfits : n ≤ min limit Frame.maxLength := h n rfl
    rw [next, next, takeFrame, takeFrame, unread, takePrefix_of_fits hfits]
    rfl

/-- A receiver takes the first document of the bytes that it has not answered for. -/
theorem next_of_first_eq_some (h : r.Sound) (hfirst : Frame.first r.limit parse r.unread = .ok (some (a, rest))) :
    r.next parse = (.ok (some a), ⟨r.limit, none, rest⟩) := by
  rw [← next_unread h]
  generalize r.unread = bytes at hfirst ⊢
  cases Frame.starts_iff.2 hfirst with
  | document hfits hparse =>
    rw [next, takeFrame_of_fits hfits]
    dsimp only
    rw [hparse]

/-- A receiver whose next frame is not complete keeps all bytes in mind. -/
theorem next_of_first_eq_none (h : r.Sound) (hfirst : Frame.first r.limit parse r.unread = .ok none) :
    ∃ r', r.next parse = (.ok none, r') ∧ r'.Sound ∧ r'.limit = r.limit ∧ r'.unread = r.unread := by
  rw [← next_unread h]
  generalize r.unread = bytes at hfirst ⊢
  cases Frame.starts_iff.2 hfirst with
  | short hshort =>
    refine ⟨⟨r.limit, none, bytes⟩, ?_, (fun _ h => nomatch h), rfl, rfl⟩
    rw [next, takeFrame, takePrefix]
    dsimp only
    rw [if_pos hshort]
  | @incomplete n later hfits hpart =>
    refine ⟨⟨r.limit, some n, later⟩, ?_, ?_, rfl, rfl⟩
    · rw [next, takeFrame, takePrefix_of_fits hfits]
      dsimp only
      rw [if_pos hpart]
    · intro m hm
      cases hm
      exact hfits

/-- A receiver whose next frame is bad says so. -/
theorem next_of_first_eq_error (h : r.Sound) {e : BrokerError} (hfirst : Frame.first r.limit parse r.unread = .error e) :
    (r.next parse).1 = .error e := by
  rw [← next_unread h]
  generalize r.unread = bytes at hfirst ⊢
  cases Frame.starts_iff.2 hfirst with
  | tooBig hn hbig => rw [next, takeFrame, takePrefix_encode hn, if_pos hbig]
  | undecodable hfits hparse =>
    rw [next, takeFrame_of_fits hfits]
    dsimp only
    rw [hparse]

/-- What a receiver takes is the first document of the bytes that it has not answered for. -/
theorem of_next_eq_some (h : r.Sound) (hnext : r.next parse = (.ok (some a), r')) :
    ∃ rest, Frame.first r.limit parse r.unread = .ok (some (a, rest)) ∧ r' = ⟨r.limit, none, rest⟩ := by
  cases hfirst : Frame.first r.limit parse r.unread with
  | error e =>
    have herror := next_of_first_eq_error h hfirst
    rw [hnext] at herror
    cases herror
  | ok found? =>
    cases found? with
    | none =>
      obtain ⟨_, hnone, -⟩ := next_of_first_eq_none h hfirst
      cases hnext.symm.trans hnone
    | some found =>
      obtain ⟨b, rest⟩ := found
      cases hnext.symm.trans (next_of_first_eq_some h hfirst)
      exact ⟨rest, rfl, rfl⟩

/-- A receiver that waits for more has not answered for more than before. -/
theorem of_next_eq_none (h : r.Sound) (hnext : r.next parse = (.ok none, r')) :
    r'.Sound ∧ r'.limit = r.limit ∧ r'.unread = r.unread := by
  cases hfirst : Frame.first r.limit parse r.unread with
  | error e =>
    have herror := next_of_first_eq_error h hfirst
    rw [hnext] at herror
    cases herror
  | ok found? =>
    cases found? with
    | none =>
      obtain ⟨_, hnone, hafter⟩ := next_of_first_eq_none h hfirst
      cases hnext.symm.trans hnone
      exact hafter
    | some found => cases hnext.symm.trans (next_of_first_eq_some h hfirst)

/-- What can be wrong with a frame that is taken: it is too long, or its body cannot be read. -/
theorem of_next_eq_error {e : BrokerError} (hnext : r.next parse = (.error e, r')) :
    e = .protocol .frameTooBig ∨ ∃ failure, e = .protocol (.undecodable failure) := by
  obtain ⟨limit, announced, buffer⟩ := r
  rw [next] at hnext
  split at hnext
  · rename_i htake
    cases hnext
    rw [takeFrame] at htake
    split at htake
    · rename_i hprefix
      cases htake
      unfold takePrefix at hprefix
      split at hprefix
      · cases hprefix
      · split at hprefix
        · cases hprefix
        · dsimp only at hprefix
          split at hprefix
          · cases hprefix
            exact Or.inl rfl
          · cases hprefix
    · cases htake
    · split at htake <;> cases htake
  · cases hnext
  · split at hnext
    · cases hnext
    · cases hnext
      exact Or.inr ⟨_, rfl⟩

/-! ## Receiving in chunks -/

/-- Documents that are taken one after the other until none is complete. -/
inductive Drains (parse : Bytes → Except Json.Failure α) : Receiver → List α → Receiver → Prop where
  | waits {r r' : Receiver} : r.next parse = (.ok none, r') → Drains parse r [] r'
  | takes {r r₁ r' : Receiver} {a : α} {as : List α} : r.next parse = (.ok (some a), r₁) → Drains parse r₁ as r' →
      Drains parse r (a :: as) r'

/-- Documents that are taken off a stream as its bytes arrive, chunk by chunk. -/
inductive Receives (parse : Bytes → Except Json.Failure α) : Receiver → List Bytes → List α → Receiver → Prop where
  | nil {r : Receiver} : Receives parse r [] [] r
  | cons {r r₁ r' : Receiver} {chunk : Bytes} {chunks : List Bytes} {as bs : List α} : Drains parse (r.feed chunk) as r₁ →
      Receives parse r₁ chunks bs r' → Receives parse r (chunk :: chunks) (as ++ bs) r'

variable {as bs : List α} {chunks : List Bytes} {ending : Except BrokerError Bytes}

theorem Drains.unique (h : Drains parse r as r') {r'' : Receiver} (h' : Drains parse r bs r'') : bs = as ∧ r'' = r' := by
  induction h generalizing bs with
  | waits hnext =>
    cases h' with
    | waits hnext' =>
      obtain ⟨-, rfl⟩ := Prod.mk.inj (hnext.symm.trans hnext')
      exact ⟨rfl, rfl⟩
    | takes hnext' _ => cases hnext.symm.trans hnext'
  | takes hnext _ ih =>
    cases h' with
    | waits hnext' => cases hnext.symm.trans hnext'
    | takes hnext' h' =>
      cases hnext.symm.trans hnext'
      obtain ⟨rfl, rfl⟩ := ih h'
      exact ⟨rfl, rfl⟩

/-- There is one way to receive given chunks. -/
theorem Receives.unique (h : Receives parse r chunks as r') {r'' : Receiver} (h' : Receives parse r chunks bs r'') :
    bs = as ∧ r'' = r' := by
  induction h generalizing bs with
  | nil =>
    cases h'
    exact ⟨rfl, rfl⟩
  | cons hdrains _ ih =>
    cases h' with
    | cons hdrains' h' =>
      obtain ⟨rfl, rfl⟩ := hdrains.unique hdrains'
      obtain ⟨rfl, rfl⟩ := ih h'
      exact ⟨rfl, rfl⟩

/-- A receiver takes what its bytes tell, and keeps those of an incomplete frame. -/
theorem exists_drains (hr : r.Sound) (h : Frame.Told r.limit parse r.unread as (.ok rest)) :
    ∃ r', Drains parse r as r' ∧ r'.Sound ∧ r'.limit = r.limit ∧ r'.unread = rest := by
  generalize hlimit : r.limit = limit at h
  generalize hbytes : r.unread = bytes at h
  generalize hend : Except.ok rest = ending at h
  induction h generalizing r with
  | waits hfirst =>
    cases hend
    subst hlimit hbytes
    obtain ⟨r', hnext, hsound, hlimit, hunread⟩ := next_of_first_eq_none hr hfirst
    exact ⟨r', .waits hnext, hsound, hlimit, hunread⟩
  | fails => cases hend
  | @document bytes later a as ending hfirst _ ih =>
    subst hlimit hbytes
    have hnext := next_of_first_eq_some hr hfirst
    obtain ⟨r', hdrains, hafter⟩ := ih (r := ⟨r.limit, none, later⟩) (fun _ h => nomatch h) rfl rfl hend
    exact ⟨r', .takes hnext hdrains, hafter⟩

/-- However a stream without a bad frame is cut into chunks, what it tells is received. -/
theorem exists_receives (hr : r.Sound) (h : Frame.Told r.limit parse (r.unread ++ chunks.flatten) as (.ok rest))
    (hwaits : Frame.first r.limit parse r.unread = .ok none) :
    ∃ r', Receives parse r chunks as r' ∧ r'.limit = r.limit ∧ r'.unread = rest := by
  induction chunks generalizing r as with
  | nil =>
    rw [List.flatten_nil, List.append_nil] at h
    obtain ⟨rfl, heq⟩ := h.unique (.waits hwaits)
    exact ⟨r, .nil, rfl, (Except.ok.inj heq).symm⟩
  | cons chunk chunks ih =>
    rw [List.flatten_cons, ← List.append_assoc] at h
    -- What the bytes up to this chunk tell and what the rest tells are together what the stream tells.
    obtain ⟨bs, ending, hchunk⟩ := Frame.exists_told r.limit parse (r.unread ++ chunk)
    cases ending with
    | error e =>
      obtain ⟨-, heq⟩ := h.unique (hchunk.append_of_error _)
      cases heq
    | ok later =>
      obtain ⟨cs, ending, hrest⟩ := Frame.exists_told r.limit parse (later ++ chunks.flatten)
      obtain ⟨rfl, heq⟩ := h.unique (hchunk.append hrest)
      rw [← unread_feed] at hchunk
      obtain ⟨r₁, hdrains, hsound, hlimit, rfl⟩ := exists_drains (hr.feed chunk) hchunk
      have hstops := hchunk.first_eq_none
      have hlimit : r₁.limit = r.limit := hlimit
      rw [← hlimit] at hstops
      rw [← hlimit, ← heq] at hrest
      obtain ⟨r', hreceives, hlimit', hunread⟩ := ih hsound hrest hstops
      exact ⟨r', .cons hdrains hreceives, hlimit'.trans hlimit, hunread⟩

/-- What is received of a stream that ends with a complete frame. -/
theorem receives_iff (h : Frame.Told limit parse chunks.flatten as (.ok [])) :
    Receives parse (start limit) chunks bs r ↔ bs = as ∧ r = start limit := by
  obtain ⟨r', hreceives, hlimit, hunread⟩ := exists_receives (sound_start limit) h rfl
  have hend := eq_start_of_unread hunread
  rw [hlimit] at hend
  constructor
  · intro h'
    obtain ⟨rfl, rfl⟩ := hreceives.unique h'
    exact ⟨rfl, hend⟩
  · rintro ⟨rfl, rfl⟩
    exact hend ▸ hreceives

end Receiver

end QueueBroker

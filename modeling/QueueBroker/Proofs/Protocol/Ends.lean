import QueueBroker.Proofs.Protocol.Stream

/-!
# Ends of streams

A stream that tells its documents without a fault is a sequence of whole frames and then the beginning of one more. At the end of
the stream a receiver misses the rest of that frame by the bytes that it still holds. The length of a frame is taken as soon as it
is there and not held any longer, so a stream that ends right after a length ends like one that ends after a whole frame.
-/

namespace QueueBroker

variable {α : Type} {limit : Nat} {parse : Bytes → Except Json.Failure α} {bytes rest frame : Bytes} {a : α} {as : List α}

namespace Frame

/-! ## Whole frames -/

/-- The frame of a document, from its first byte to its last. -/
def Whole (limit : Nat) (parse : Bytes → Except Json.Failure α) (frame : Bytes) : Prop :=
  ∃ body a, encode limit body = .ok frame ∧ parse body = .ok a

theorem Whole.first_append (h : Whole limit parse frame) (rest : Bytes) :
    ∃ a, first limit parse (frame ++ rest) = .ok (some (a, rest)) := by
  obtain ⟨body, a, hframe, hparse⟩ := h
  exact ⟨a, first_of_encode hframe hparse rest⟩

theorem exists_whole_of_first (h : first limit parse bytes = .ok (some (a, rest))) :
    ∃ frame, Whole limit parse frame ∧ bytes = frame ++ rest := by
  obtain ⟨body, hfits, hparse, rfl⟩ := of_first_eq_some h
  exact ⟨_, ⟨body, a, if_neg (Nat.not_lt_of_le hfits), hparse⟩, rfl⟩

/-- Some bytes are a sequence of whole frames and then some more. -/
def WholeThen (limit : Nat) (parse : Bytes → Except Json.Failure α) (bytes rest : Bytes) : Prop :=
  ∃ frames : List Bytes, (∀ frame ∈ frames, Whole limit parse frame) ∧ bytes = frames.flatten ++ rest

theorem Told.wholeThen (h : Told limit parse bytes as (.ok rest)) : WholeThen limit parse bytes rest := by
  generalize hend : Except.ok rest = ending at h
  induction h with
  | waits =>
    cases hend
    exact ⟨[], nofun, rfl⟩
  | fails => cases hend
  | document hfirst _ ih =>
    obtain ⟨frame, hframe, rfl⟩ := exists_whole_of_first hfirst
    obtain ⟨frames, hframes, rfl⟩ := ih hend
    exact ⟨frame :: frames, List.forall_mem_cons.2 ⟨hframe, hframes⟩, by rw [List.flatten_cons, List.append_assoc]⟩

theorem exists_told_flatten {frames : List Bytes} (hframes : ∀ frame ∈ frames, Whole limit parse frame)
    (hrest : first limit parse rest = .ok none) : ∃ as, Told limit parse (frames.flatten ++ rest) as (.ok rest) := by
  induction frames with
  | nil => exact ⟨[], .waits hrest⟩
  | cons frame frames ih =>
    obtain ⟨hframe, hframes⟩ := List.forall_mem_cons.1 hframes
    obtain ⟨as, htold⟩ := ih hframes
    obtain ⟨a, hfirst⟩ := hframe.first_append (frames.flatten ++ rest)
    rw [List.flatten_cons, List.append_assoc]
    exact ⟨a :: as, .document hfirst htold⟩

/-- What a stream without a fault is made of. -/
theorem exists_told_iff :
    (∃ as, Told limit parse bytes as (.ok rest)) ↔ WholeThen limit parse bytes rest ∧ first limit parse rest = .ok none := by
  constructor
  · rintro ⟨as, h⟩
    exact ⟨h.wholeThen, h.first_eq_none⟩
  · rintro ⟨⟨frames, hframes, rfl⟩, hrest⟩
    exact exists_told_flatten hframes hrest

/-! ## What is missed at the end -/

/-- What a stream may end with after its last whole frame without being taken for cut: nothing, or just the length of a frame. -/
inductive Unmissed (limit : Nat) : Bytes → Prop where
  | nothing : Unmissed limit []
  | length {n : Nat} : 0 < n → n ≤ min limit maxLength → Unmissed limit (BigEndian.encode prefixLength n)

theorem Unmissed.first_eq_none (h : Unmissed limit rest) (parse : Bytes → Except Json.Failure α) :
    first limit parse rest = .ok none := by
  cases h with
  | nothing => rfl
  | @length n hn hfits =>
    have hincomplete : Starts limit parse (BigEndian.encode prefixLength n ++ []) (.ok none) := .incomplete hfits hn
    rw [List.append_nil] at hincomplete
    exact hincomplete.first_eq

theorem eq_nil_of_unmissed_of_length_lt (h : Unmissed limit rest) (hshort : rest.length < prefixLength) : rest = [] := by
  cases h with
  | nothing => rfl
  | length =>
    rw [BigEndian.length_encode] at hshort
    exact absurd hshort (Nat.lt_irrefl _)

theorem eq_nil_of_unmissed_append {n : Nat} (h : Unmissed limit (BigEndian.encode prefixLength n ++ rest)) : rest = [] := by
  have hlength : (BigEndian.encode prefixLength n).length = prefixLength := BigEndian.length_encode _ _
  generalize hbytes : BigEndian.encode prefixLength n ++ rest = bytes at h
  have htotal := congrArg List.length hbytes
  rw [List.length_append, hlength] at htotal
  cases h with
  | nothing =>
    rw [List.length_nil, prefixLength] at htotal
    omega
  | length =>
    rw [BigEndian.length_encode] at htotal
    exact List.eq_nil_of_length_eq_zero (by omega)

/-- A stream that tells its documents and then ends, as far as a receiver can see. -/
def Complete (limit : Nat) (parse : Bytes → Except Json.Failure α) (bytes : Bytes) : Prop :=
  ∃ rest, WholeThen limit parse bytes rest ∧ Unmissed limit rest

theorem complete_iff_of_told (h : Told limit parse bytes as (.ok rest)) : Complete limit parse bytes ↔ Unmissed limit rest := by
  constructor
  · rintro ⟨rest', hwhole, hunmissed⟩
    obtain ⟨as', h'⟩ := exists_told_iff.2 ⟨hwhole, hunmissed.first_eq_none parse⟩
    cases (h.unique h').2
    exact hunmissed
  · intro hunmissed
    exact ⟨rest, h.wholeThen, hunmissed⟩

theorem not_complete_of_told {e : BrokerError} (h : Told limit parse bytes as (.error e)) : ¬Complete limit parse bytes := by
  rintro ⟨rest, hwhole, hunmissed⟩
  obtain ⟨as', h'⟩ := exists_told_iff.2 ⟨hwhole, hunmissed.first_eq_none parse⟩
  cases (h.unique h').2

end Frame

namespace Receiver

variable {r : Receiver}

/-- A receiver that has no whole frame at the end of the stream complains of what it holds. -/
theorem finish_of_first_eq_none (h : r.Sound) (hfirst : Frame.first r.limit parse r.unread = .ok none) :
    Frame.Unmissed r.limit r.unread ∧ (r.finish parse).1 = .ok none ∨
      ¬Frame.Unmissed r.limit r.unread ∧ (r.finish parse).1 = .error (.stream .cut) := by
  rw [finish, ← next_unread h]
  generalize r.unread = bytes at hfirst ⊢
  cases Frame.starts_iff.2 hfirst with
  | short hshort =>
    rw [next, takeFrame, takePrefix]
    dsimp only
    rw [if_pos hshort]
    cases bytes with
    | nil => exact Or.inl ⟨.nothing, rfl⟩
    | cons byte bytes => exact Or.inr ⟨fun h => List.cons_ne_nil _ _ (Frame.eq_nil_of_unmissed_of_length_lt h hshort), rfl⟩
  | @incomplete n later hfits hpart =>
    rw [next, takeFrame, takePrefix_of_fits hfits]
    dsimp only
    rw [if_pos hpart]
    cases later with
    | nil =>
      rw [List.append_nil]
      exact Or.inl ⟨.length hpart hfits, rfl⟩
    | cons byte later => exact Or.inr ⟨fun h => List.cons_ne_nil _ _ (Frame.eq_nil_of_unmissed_append h), rfl⟩

end Receiver

end QueueBroker

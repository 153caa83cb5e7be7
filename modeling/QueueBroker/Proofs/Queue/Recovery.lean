import QueueBroker.Proofs.Message.RoundTrip
import QueueBroker.Proofs.Queue.Log
import QueueBroker.Proofs.Queue.Names
import QueueBroker.Queue.Durable

/-!
# Repairing the files of a queue

Before a queue is opened its files are read and cut: the checkpoint file to whole records, the log to the records that are kept.
`Found` says what is found in any two files, and `attains_recover` that this is what the repair reports and leaves.
-/

namespace QueueBroker

open FileOp

variable {faults : Prop} {F : Folder} {c : Contents} {d d' : Disk} {name : String}

namespace DurableQueue

/-! ## Reading the files -/

/-- The number that a checkpoint file says, a missing file counting as empty. -/
def takenIn (file : Option Bytes) : Nat :=
  Checkpoint.last (file.getD [])

/-- A checkpoint file without a torn record at its end. -/
def repaired (file : Option Bytes) : Option Bytes :=
  file.map fun bytes => bytes.take (Checkpoint.completeLength bytes)

theorem takenIn_repaired (file : Option Bytes) : takenIn (repaired file) = takenIn file := by
  cases file with
  | none => rfl
  | some bytes => exact Checkpoint.last_take bytes

/-- Cutting a file, if there is something to cut, leaves its first bytes. -/
theorem attains_cut {α : Type} (hs : F.Shows c d) {n : String} (hn : F.names n) {file : Handle} (ho : F.Opens d n file)
    {bytes : Bytes} (hc : c n = some bytes) {length : Nat} (hlength : length ≤ bytes.length) {p : Prop} [Decidable p]
    (hp : ¬p → length = bytes.length) {next : FileAttempt Errno α} {Q : α → Disk → Prop}
    (h : ∀ d₁, d.Extends d₁ → F.Shows (Function.update c n (some (bytes.take length))) d₁ →
      FileAttempt.Attains faults next d₁ Q) :
    FileAttempt.Attains faults (if p then FileAttempt.truncate file length >>= fun _ => next else next) d Q := by
  by_cases hcut : p
  · rw [if_pos hcut]
    exact (hs.attains_truncate hn ho hc hlength).bind fun _ d₁ h₁ => h d₁ h₁.1 h₁.2
  · rw [if_neg hcut]
    refine h d (Disk.Extends.refl d) ?_
    rw [hp hcut, List.take_length, ← hc, Function.update_eq_self]
    exact hs

theorem attains_readCheckpoint (hs : F.Shows c d) {n : String} (hn : F.names n) :
    FileAttempt.Attains faults (readCheckpoint (Disk.join F.path n)) d fun read d' =>
      read = (takenIn (c n), ((repaired (c n)).getD []).length) ∧ d.Extends d' ∧
        F.Shows (Function.update c n (repaired (c n))) d' := by
  intro r d' h
  rw [readCheckpoint, FileAttempt.runs_bind_iff] at h
  obtain ⟨opened, d₁, hopen, h⟩ | ⟨e, hopen, -⟩ := h
  case inr =>
    obtain ⟨a, -, heq⟩ := FileAttempt.runs_lift_iff.1 hopen
    cases heq
  obtain ⟨opened', hopen, heq⟩ := FileAttempt.runs_lift_iff.1 hopen
  cases heq
  cases hc : c n with
  | none =>
    rcases hs.runs_openExisting_none hn hc hopen with ⟨rfl, rfl⟩ | ⟨hf, e, rfl, hne⟩
    · simp only [if_true] at h
      obtain ⟨rfl, rfl⟩ := FileAttempt.runs_pure_iff.1 h
      refine Or.inl ⟨_, rfl, rfl, Disk.Extends.refl _, ?_⟩
      rw [repaired, Option.map_none, ← hc, Function.update_eq_self]
      exact hs
    · simp only [if_neg hne] at h
      obtain ⟨rfl, rfl⟩ := FileAttempt.runs_throw_iff.1 h
      exact Or.inr ⟨hf, e, rfl⟩
  | some bytes =>
    rcases hs.runs_openExisting_some hn hc hopen with ⟨file, rfl, rfl, ho⟩ | ⟨hf, ⟨e, rfl, hne⟩, -⟩
    · have hle := Checkpoint.completeLength_le bytes
      refine FileAttempt.Attains.bind (R := fun read d' => read = (takenIn (some bytes), ((repaired (some bytes)).getD []).length) ∧
        _ ∧ F.Shows (Function.update c n (repaired (some bytes))) d') (hs.attains_read hn ho hc) (fun read d₂ h₂ => ?_) r d' h
      obtain ⟨rfl, rfl⟩ := h₂
      refine attains_cut hs hn ho hc hle (fun h => not_not.1 h) fun d₃ hext hs => FileAttempt.Attains.pure ?_
      refine ⟨?_, hext, hs⟩
      rw [repaired, Option.map_some, Option.getD_some, List.length_take, Nat.min_eq_left hle]
      rfl
    · simp only [if_neg hne] at h
      obtain ⟨rfl, rfl⟩ := FileAttempt.runs_throw_iff.1 h
      exact Or.inr ⟨hf, e, rfl⟩

theorem attains_readLog (hs : F.Shows c d) {n : String} (hn : F.names n) {bytes : Bytes} (hc : c n = some bytes) {skip : Nat}
    {bodies : List Bytes} {pending : List Message} {left : Bytes} (hscan : Log.Scanned skip bytes bodies pending left) :
    FileAttempt.Attains faults (readLog (Disk.join F.path n) skip) d fun contents d' =>
      contents = ⟨pending, bodies.length, (Log.joined bodies).length⟩ ∧ d.Extends d' ∧
        F.Shows (Function.update c n (some (Log.joined bodies))) d' := by
  have hjoined := hscan.eq_joined_append
  have hlength : (Log.joined bodies).length ≤ bytes.length := by
    rw [hjoined, List.length_append]
    exact Nat.le_add_right _ _
  have htake : bytes.take (Log.joined bodies).length = Log.joined bodies := by
    rw [hjoined, List.take_left]
  refine (hs.attains_openExisting hn hc).bind fun file d₁ h₁ => ?_
  obtain ⟨rfl, ho⟩ := h₁
  refine (hs.attains_read hn ho hc).bind fun read d₂ h₂ => ?_
  obtain ⟨rfl, rfl⟩ := h₂
  rw [Log.scan_eq hscan]
  refine attains_cut hs hn ho hc hlength (fun h => Nat.le_antisymm hlength (Nat.le_of_not_lt h)) fun d₃ hext hs => ?_
  rw [htake] at hs
  exact FileAttempt.Attains.pure ⟨rfl, hext, hs⟩

/-- A file is cut and opened again. -/
theorem attains_resetTo (hs : F.Shows c d) {n : String} (hn : F.names n) {bytes : Bytes} (hc : c n = some bytes)
    {length : Nat} (hlength : length ≤ bytes.length) :
    FileAttempt.Attains faults (FileAttempt.resetTo (Disk.join F.path n) length) d fun file d' =>
      F.Opens d' n file ∧ d.Extends d' ∧ F.Shows (Function.update c n (some (bytes.take length))) d' := by
  refine (hs.attains_openExisting hn hc).bind fun file d₁ h₁ => ?_
  obtain ⟨rfl, ho⟩ := h₁
  refine (hs.attains_truncate hn ho hc hlength).bind fun _ d₂ h₂ => ?_
  obtain ⟨hext, hs⟩ := h₂
  refine (hs.attains_openExisting hn (Function.update_self _ _ _)).mono fun file d₃ h₃ => ?_
  obtain ⟨rfl, ho⟩ := h₃
  exact ⟨ho, hext, hs⟩

/-- A file whose end was torn is as before when the torn part is cut off. -/
theorem attains_undo {n : String} (hn : F.names n) {old tail : Bytes} (hc : c n = some old)
    (hs : F.Shows (Function.update c n (some (old ++ tail))) d) :
    FileAttempt.Attains faults (FileAttempt.resetTo (Disk.join F.path n) old.length) d fun file d' =>
      F.Opens d' n file ∧ d.Extends d' ∧ F.Shows c d' := by
  have hle : old.length ≤ (old ++ tail).length := by
    rw [List.length_append]
    exact Nat.le_add_right _ _
  refine (attains_resetTo hs hn (Function.update_self _ _ _) hle).mono fun file d' h => ?_
  obtain ⟨ho, hext, hs'⟩ := h
  rw [List.take_left, Function.update_idem, ← hc, Function.update_eq_self] at hs'
  exact ⟨ho, hext, hs'⟩

/-! ## What opening finds -/

/-- What the files of a queue come to: the bodies of the records that are kept, the messages pending, how many were taken and
whether the checkpoint says more. Without a log there is nothing. -/
inductive Found (log checkpoint : Option Bytes) : List Bytes → List Message → (taken : Nat) → (stale : Bool) → Prop where
  | nothing : log = none → Found log checkpoint [] [] 0 false
  | scanned {bytes left : Bytes} {bodies : List Bytes} {pending : List Message} : log = some bytes →
      Log.Scanned (takenIn checkpoint) bytes bodies pending left →
      Found log checkpoint bodies pending (min (takenIn checkpoint) bodies.length) (decide (bodies.length < takenIn checkpoint))

theorem exists_found (log checkpoint : Option Bytes) :
    ∃ bodies pending taken stale, Found log checkpoint bodies pending taken stale := by
  cases log with
  | none => exact ⟨_, _, _, _, .nothing rfl⟩
  | some bytes =>
    obtain ⟨bodies, pending, left, h⟩ := Log.exists_scanned (takenIn checkpoint) bytes
    exact ⟨_, _, _, _, .scanned rfl h⟩

/-- The checkpoint file after it was repaired: without a log it is emptied. -/
def checkpointAfter (log checkpoint : Option Bytes) : Bytes :=
  if log.isSome then (repaired checkpoint).getD [] else []

theorem whole_checkpointAfter (log checkpoint : Option Bytes) : Checkpoint.Whole (checkpointAfter log checkpoint) := by
  rw [checkpointAfter]
  split
  · cases checkpoint with
    | none => exact Checkpoint.whole_nil
    | some bytes => exact Checkpoint.whole_take bytes
  · exact Checkpoint.whole_nil

variable {bodies : List Bytes} {pending : List Message} {taken : Nat} {stale : Bool}

theorem Found.fit {log checkpoint : Option Bytes} (h : Found log checkpoint bodies pending taken stale) : Log.Fit bodies := by
  cases h with
  | nothing => exact List.forall_mem_nil _
  | scanned _ hscan => exact hscan.fit

theorem Found.taken_le {log checkpoint : Option Bytes} (h : Found log checkpoint bodies pending taken stale) :
    taken ≤ bodies.length := by
  cases h with
  | nothing => exact Nat.le_refl _
  | scanned => exact Nat.min_le_right _ _

/-- The messages found are those of the records not taken. -/
theorem Found.forall₂_drop {log checkpoint : Option Bytes} (h : Found log checkpoint bodies pending taken stale) :
    List.Forall₂ Message.ReadFrom (bodies.drop taken) pending := by
  cases h with
  | nothing => exact List.Forall₂.nil
  | scanned _ hscan =>
    have h := hscan.forall₂_drop
    rcases Nat.le_total (takenIn checkpoint) bodies.length with hle | hle
    · rwa [Nat.min_eq_left hle]
    · rw [List.drop_eq_nil_of_le hle] at h
      rwa [Nat.min_eq_right hle, List.drop_length]

/-- A checkpoint that is not stale says how many were taken. -/
theorem Found.last_checkpointAfter {log checkpoint : Option Bytes} (h : Found log checkpoint bodies pending taken false) :
    Checkpoint.last (checkpointAfter log checkpoint) = taken := by
  generalize hstale : false = stale at h
  cases h with
  | nothing hlog =>
    rw [hlog]
    rfl
  | scanned hlog _ =>
    have hle : takenIn checkpoint ≤ bodies.length := Nat.le_of_not_lt (of_decide_eq_false hstale.symm)
    rw [hlog, checkpointAfter, Option.isSome_some, if_pos rfl, ← takenIn, takenIn_repaired, Nat.min_eq_left hle]

theorem Found.length_joined_le {log checkpoint : Option Bytes} (h : Found log checkpoint bodies pending taken stale) :
    (Log.joined bodies).length ≤ (log.getD []).length := by
  cases h with
  | nothing => exact Nat.zero_le _
  | scanned hlog hscan =>
    rw [hlog, Option.getD_some, hscan.eq_joined_append, List.length_append]
    exact Nat.le_add_right _ _

/-- Without a log nothing is pending. -/
theorem Found.pending_eq_nil {checkpoint : Option Bytes} (h : Found none checkpoint bodies pending taken stale) : pending = [] := by
  cases h with
  | nothing => rfl
  | scanned hlog => cases hlog

/-- Files other than the two of a queue. -/
def SameElsewhere (name : String) (c c' : Contents) : Prop :=
  ∀ n, n ≠ Destination.logName name → n ≠ Destination.checkpointName name → c' n = c n

theorem SameElsewhere.refl (name : String) (c : Contents) : SameElsewhere name c c :=
  fun _ _ _ => rfl

theorem SameElsewhere.update_log {c' : Contents} (h : SameElsewhere name c c') (file : Option Bytes) :
    SameElsewhere name c (Function.update c' (Destination.logName name) file) :=
  fun n h1 h2 => (Function.update_of_ne h1 _ _).trans (h n h1 h2)

theorem SameElsewhere.update_checkpoint {c' : Contents} (h : SameElsewhere name c c') (file : Option Bytes) :
    SameElsewhere name c (Function.update c' (Destination.checkpointName name) file) :=
  fun n h1 h2 => (Function.update_of_ne h2 _ _).trans (h n h1 h2)

/-- What a repair finds and leaves. -/
theorem attains_recover (hs : F.Shows c d) (hq : F.HasQueue name)
    (hfound : Found (c (Destination.logName name)) (c (Destination.checkpointName name)) bodies pending taken stale) :
    FileAttempt.Attains faults (recover (logPathOf F.path name) (checkpointPathOf F.path name)) d fun found d' =>
      found = ⟨pending, taken, (Log.joined bodies).length,
        (checkpointAfter (c (Destination.logName name)) (c (Destination.checkpointName name))).length, stale⟩ ∧
      d.Extends d' ∧ ∃ c', F.Shows c' d' ∧ SameElsewhere name c c' ∧
        (c' (Destination.logName name)).getD [] = Log.joined bodies ∧
        (c' (Destination.checkpointName name)).getD [] =
          checkpointAfter (c (Destination.logName name)) (c (Destination.checkpointName name)) := by
  have hne := Destination.checkpointName_ne_logName name
  refine (hs.attains_pathExists hq.log).storage.bind fun exists? d₁ h₁ => ?_
  obtain ⟨rfl, rfl⟩ := h₁
  cases hfound with
  | nothing hlog =>
    rw [hlog, Option.isSome_none, if_neg (by decide)]
    refine (hs.attains_pathExists hq.checkpoint).storage.bind fun exists? d₂ h₂ => ?_
    obtain ⟨rfl, rfl⟩ := h₂
    cases hcp : c (Destination.checkpointName name) with
    | none =>
      rw [Option.isSome_none, if_neg (by decide)]
      refine FileAttempt.Attains.pure ⟨rfl, Disk.Extends.refl _, c, hs, SameElsewhere.refl name c, ?_, ?_⟩
      · rw [hlog]
        rfl
      · rw [hcp]
        rfl
    | some bytes =>
      rw [Option.isSome_some, if_pos rfl]
      refine (attains_resetTo hs hq.checkpoint hcp (Nat.zero_le _)).storage.bind fun file d₃ h₃ => ?_
      obtain ⟨-, hext, hs⟩ := h₃
      refine FileAttempt.Attains.pure ⟨rfl, hext, _, hs, (SameElsewhere.refl name c).update_checkpoint _, ?_, ?_⟩
      · rw [Function.update_of_ne hne.symm, hlog]
        rfl
      · rw [Function.update_self]
        rfl
  | scanned hlog hscan =>
    rw [hlog, Option.isSome_some, if_pos rfl]
    -- The checkpoint is repaired first, which leaves the log as it was found.
    refine (attains_readCheckpoint hs hq.checkpoint).storage.bind fun read d₂ h₂ => ?_
    obtain ⟨rfl, hext, hs⟩ := h₂
    have hlog' := (Function.update_of_ne hne.symm (repaired (c (Destination.checkpointName name))) c).trans hlog
    refine (attains_readLog hs hq.log hlog' hscan).storage.bind fun contents d₃ h₃ => ?_
    obtain ⟨rfl, hext', hs⟩ := h₃
    refine FileAttempt.Attains.pure ⟨?_, hext.trans hext', _, hs,
      ((SameElsewhere.refl name c).update_checkpoint _).update_log _, ?_, ?_⟩
    · rw [checkpointAfter, Option.isSome_some, if_pos rfl]
    · rw [Function.update_self, Option.getD_some]
    · rw [Function.update_of_ne hne, Function.update_self]
      rfl

end DurableQueue

end QueueBroker

import QueueBroker.Proofs.Queue.Agreement
import QueueBroker.Proofs.Queue.Cursor
import QueueBroker.Proofs.Storage.Progress

/-!
# What opening a queue comes to

Whatever the two files of a queue hold, opening it succeeds and repairs them. `Outcome.Of` says what it has to come to, in terms of the
bytes alone: the log keeps the longest beginning that is made of complete records of which those past the checkpoint can be read, the
checkpoint is the last complete value, and a checkpoint past the end of the log is followed by one that is not. There is one such
outcome, and `opens_exactly` says that opening comes to it.
-/

namespace QueueBroker

open FileOp

namespace Message

variable {bodies : List Bytes} {pending : List Message}

theorem exists_readFrom {body : Bytes} (h : List.Forall₂ ReadFrom bodies pending) (hbody : body ∈ bodies) :
    ∃ m, ReadFrom body m := by
  induction h with
  | nil => cases hbody
  | cons hm _ ih =>
    rcases List.mem_cons.1 hbody with rfl | hbody
    · exact ⟨_, hm⟩
    · exact ih hbody

theorem readFrom_unique {other : List Message} (h : List.Forall₂ ReadFrom bodies pending)
    (h' : List.Forall₂ ReadFrom bodies other) : pending = other := by
  induction h generalizing other with
  | nil =>
    cases h'
    rfl
  | cons hm _ ih =>
    cases h' with
    | cons hm' h' => rw [ih h', Except.ok.inj (hm.symm.trans hm')]

end Message

namespace Log

variable {skip : Nat} {bytes left : Bytes} {bodies : List Bytes} {pending : List Message}

/-- Records that a log begins with, of which those after the first `skip` hold messages. -/
structure Intact (skip : Nat) (bytes : Bytes) (bodies : List Bytes) : Prop where
  fit : Fit bodies
  begins : joined bodies <+: bytes
  readable : ∀ body ∈ bodies.drop skip, ∃ m, Message.ReadFrom body m

/-- The most records that are intact. -/
structure Kept (skip : Nat) (bytes : Bytes) (bodies : List Bytes) : Prop extends Intact skip bytes bodies where
  longest : ∀ other, Intact skip bytes other → other <+: bodies

theorem Kept.unique {other : List Bytes} (h : Kept skip bytes bodies) (h' : Kept skip bytes other) : bodies = other :=
  (h'.longest _ h.toIntact).eq_of_length_le (h.longest _ h'.toIntact).length_le

/-- The first of some intact records is the one that is split off. -/
theorem Intact.split {body : Bytes} (h : Intact skip bytes (body :: bodies)) :
    ∃ rest, splitRecord? bytes = some (body, rest) ∧ joined bodies <+: rest := by
  obtain ⟨tail, heq⟩ := h.begins
  refine ⟨joined bodies ++ tail, ?_, List.prefix_append _ _⟩
  rw [← heq, joined_cons, List.append_assoc]
  exact splitRecord?_recordOf (h.fit body List.mem_cons_self) _

theorem Intact.nil : Intact skip bytes [] :=
  ⟨List.forall_mem_nil _, List.nil_prefix, by simp⟩

/-- Reading a log keeps the most records that are intact. -/
theorem Scanned.keeps_most (h : Scanned skip bytes bodies pending left) : Kept skip bytes bodies := by
  refine ⟨⟨h.fit, ⟨left, h.eq_joined_append.symm⟩, fun body hbody => ?_⟩, ?_⟩
  · exact Message.exists_readFrom h.forall₂_drop hbody
  · induction h with
    | incomplete hstop =>
      intro other hother
      cases other with
      | nil => exact List.prefix_refl _
      | cons body other =>
        obtain ⟨rest, hsplit, -⟩ := hother.split
        rw [Incomplete, hsplit] at hstop
        cases hstop
    | unreadable hsplit hparse =>
      intro other hother
      cases other with
      | nil => exact List.prefix_refl _
      | cons body other =>
        obtain ⟨rest, hsplit', -⟩ := hother.split
        obtain ⟨rfl, rfl⟩ := Prod.mk.inj (Option.some.inj (hsplit'.symm.trans hsplit))
        obtain ⟨m, hm⟩ := hother.readable body List.mem_cons_self
        rw [Message.ReadFrom, hparse] at hm
        cases hm
    | @skipped skip bytes body rest left bodies pending hsplit _ ih =>
      intro other hother
      cases other with
      | nil => exact List.nil_prefix
      | cons body' other =>
        obtain ⟨rest', hsplit', hbegins⟩ := hother.split
        obtain ⟨rfl, rfl⟩ := Prod.mk.inj (Option.some.inj (hsplit'.symm.trans hsplit))
        exact (List.prefix_cons_inj _).2 (ih other ⟨(List.forall_mem_cons.1 hother.fit).2, hbegins, hother.readable⟩)
    | @kept bytes body rest left m bodies pending hsplit _ _ ih =>
      intro other hother
      cases other with
      | nil => exact List.nil_prefix
      | cons body' other =>
        obtain ⟨rest', hsplit', hbegins⟩ := hother.split
        obtain ⟨rfl, rfl⟩ := Prod.mk.inj (Option.some.inj (hsplit'.symm.trans hsplit))
        refine (List.prefix_cons_inj _).2 (ih other ⟨(List.forall_mem_cons.1 hother.fit).2, hbegins, fun body hbody => ?_⟩)
        exact hother.readable body (List.mem_cons_of_mem _ hbody)

end Log

namespace Checkpoint

/-- What whole checkpoint records say: the last of them, and zero if there is none. -/
inductive Says : Bytes → Nat → Prop where
  | nothing : Says [] 0
  | last (earlier : Bytes) {word : Bytes} : word.length = recordLength → Says (earlier ++ word) (BigEndian.decode word)

theorem Whole.says_iff {bytes : Bytes} (h : Whole bytes) {said : Nat} : Says bytes said ↔ said = last bytes := by
  constructor
  · intro hsays
    cases hsays with
    | nothing => rfl
    | last earlier hword =>
      rw [Checkpoint.last, h.completeLength_eq, List.take_length, List.length_append, hword, Nat.add_sub_cancel, List.drop_left]
  · rintro rfl
    rw [Whole] at h
    rcases Nat.lt_or_ge bytes.length recordLength with hshort | hlong
    · rw [Nat.mod_eq_of_lt hshort] at h
      obtain rfl := List.eq_nil_of_length_eq_zero h
      exact .nothing
    · have hword : (bytes.drop (bytes.length - recordLength)).length = recordLength := by
        rw [List.length_drop]
        omega
      have hsays := Says.last (bytes.take (bytes.length - recordLength)) hword
      rw [List.take_append_drop] at hsays
      rw [Checkpoint.last, Whole.completeLength_eq h, List.take_length]
      exact hsays

end Checkpoint

namespace DurableQueue

variable {faults : Prop} {F : Folder} {c c' : Contents} {d d' : Disk} {name : String}

/-! ## Outcomes -/

/-- What opening a queue comes to: the messages pending, how many were taken, and what the files hold. -/
structure Outcome where
  pending : List Message
  taken : Nat
  log : Bytes
  checkpoint : Bytes

/-- What opening a queue has to come to when its files hold `log` and `checkpoint`. -/
inductive Outcome.Of : (log checkpoint : Option Bytes) → Outcome → Prop where
  /-- Without a log nothing is pending, and the checkpoint file is emptied. -/
  | missing {checkpoint : Option Bytes} : Of none checkpoint ⟨[], 0, [], []⟩
  /-- With one, `bodies` are the records that are kept and `said` is what the checkpoint file says. -/
  | found {log whole torn : Bytes} {checkpoint : Option Bytes} {said : Nat} {bodies : List Bytes} {pending : List Message} :
      checkpoint.getD [] = whole ++ torn → Checkpoint.Whole whole → torn.length < Checkpoint.recordLength →
      Checkpoint.Says whole said → Log.Kept said log bodies → List.Forall₂ Message.ReadFrom (bodies.drop said) pending →
      Of (some log) checkpoint {
        pending
        taken := min said bodies.length
        log := Log.joined bodies
        checkpoint := if bodies.length < said then whole ++ Checkpoint.record (min said bodies.length) else whole }

variable {log checkpoint : Option Bytes} {bodies : List Bytes} {pending : List Message} {taken : Nat} {stale : Bool} {o : Outcome}

/-- What is found in two files is what they have to come to. -/
theorem Found.outcome (h : Found log checkpoint bodies pending taken stale) :
    Outcome.Of log checkpoint ⟨pending, taken, Log.joined bodies, checkpointLeft log checkpoint taken stale⟩ := by
  cases h with
  | nothing hlog =>
    rw [hlog]
    exact .missing
  | @scanned bytes left bodies pending hlog hscan =>
    have hwhole := Checkpoint.whole_take (checkpoint.getD [])
    have hafter : checkpointAfter log checkpoint =
        (checkpoint.getD []).take (Checkpoint.completeLength (checkpoint.getD [])) := by
      rw [hlog]
      cases checkpoint <;> rfl
    have htorn : ((checkpoint.getD []).drop (Checkpoint.completeLength (checkpoint.getD []))).length < Checkpoint.recordLength := by
      rw [List.length_drop, Checkpoint.completeLength, Checkpoint.recordLength]
      omega
    have hsays := hwhole.says_iff.2 (Checkpoint.last_take (checkpoint.getD [])).symm
    have hof : Outcome.Of (some bytes) checkpoint _ :=
      .found (List.take_append_drop _ _).symm hwhole htorn hsays hscan.keeps_most hscan.forall₂_drop
    rw [checkpointLeft, hafter, hlog]
    simp only [decide_eq_true_eq]
    exact hof

/-- Two files have to come to one thing only. -/
theorem Outcome.Of.unique {o' : Outcome} (h : Of log checkpoint o) (h' : Of log checkpoint o') : o = o' := by
  cases h with
  | missing =>
    cases h'
    rfl
  | @found _ whole torn _ said bodies pending hfile hwhole htorn hsays hkept hpending =>
    cases h' with
    | @found _ whole' torn' _ said' bodies' pending' hfile' hwhole' htorn' hsays' hkept' hpending' =>
      have hsame := hfile.symm.trans hfile'
      have hlength : whole.length = whole'.length := by
        rw [← hwhole.completeLength_append htorn, hsame, hwhole'.completeLength_append htorn']
      obtain ⟨rfl, rfl⟩ := List.append_inj hsame hlength
      obtain rfl : said = said' := (hwhole.says_iff.1 hsays).trans (hwhole.says_iff.1 hsays').symm
      obtain rfl := hkept.unique hkept'
      obtain rfl := Message.readFrom_unique hpending hpending'
      rfl

/-- What files have to come to is what is found in them. -/
theorem Outcome.Of.exists_found (h : Of log checkpoint o) : ∃ bodies stale, Found log checkpoint bodies o.pending o.taken stale ∧
    o.log = Log.joined bodies ∧ o.checkpoint = checkpointLeft log checkpoint o.taken stale := by
  obtain ⟨bodies, pending, taken, stale, hfound⟩ := DurableQueue.exists_found log checkpoint
  obtain rfl := h.unique hfound.outcome
  exact ⟨bodies, stale, hfound, rfl, rfl⟩

/-! ## Opening without a failure -/

/-- What trying to open a file comes to when nothing fails. -/
theorem attains_tryOpen {ε : Type} (hs : F.Shows c d) {n : String} (hn : F.names n) :
    FileAttempt.Attains False (ExceptT.lift (FileAttempt.openExisting (Disk.join F.path n)).run : FileAttempt ε _) d
      fun opened d' => d' = d ∧ (c n = none → opened = .error .noEntry) ∧
        ∀ bytes, c n = some bytes → ∃ file, opened = .ok file ∧ F.Opens d n file := by
  intro r d' hr
  obtain ⟨opened, hopen, rfl⟩ := FileAttempt.runs_lift_iff.1 hr
  refine Or.inl ⟨opened, rfl, ?_⟩
  cases hc : c n with
  | none =>
    rcases hs.runs_openExisting_none hn hc hopen with ⟨rfl, rfl⟩ | ⟨hf, -⟩
    · exact ⟨rfl, fun _ => rfl, fun _ heq => (by cases heq)⟩
    · exact hf.elim
  | some bytes =>
    rcases hs.runs_openExisting_some hn hc hopen with ⟨file, rfl, rfl, ho⟩ | ⟨hf, -⟩
    · exact ⟨rfl, fun heq => (by cases heq), fun _ _ => ⟨file, rfl, ho⟩⟩
    · exact hf.elim

theorem undisturbed_cut {α : Type} (hs : F.Shows c d) {n : String} (hn : F.names n) {file : Handle} (ho : F.Opens d n file)
    {bytes : Bytes} (hc : c n = some bytes) {length : Nat} (hlength : length ≤ bytes.length) {p : Prop} [Decidable p] (a : α) :
    FileAttempt.Undisturbed (if p then FileAttempt.truncate file length >>= fun _ => pure a else pure a) d := by
  by_cases hcut : p
  · rw [if_pos hcut]
    exact (hs.undisturbed_truncate hn ho hc hlength).bind (hs.attains_truncate hn ho hc hlength) fun _ _ _ _ =>
      FileAttempt.undisturbed_pure _ _
  · rw [if_neg hcut]
    exact FileAttempt.undisturbed_pure _ _

theorem undisturbed_readCheckpoint (hs : F.Shows c d) {n : String} (hn : F.names n) :
    FileAttempt.Undisturbed (readCheckpoint (Disk.join F.path n)) d := by
  refine (hs.undisturbed_openExisting hn).lift.bind (attains_tryOpen hs hn) fun opened d₁ h₁ _ => ?_
  obtain ⟨rfl, hnone, hsome⟩ := h₁
  cases hc : c n with
  | none =>
    obtain rfl := hnone hc
    exact FileAttempt.undisturbed_pure _ _
  | some bytes =>
    obtain ⟨file, rfl, ho⟩ := hsome bytes hc
    refine Folder.Shows.undisturbed_read.bind (hs.attains_read hn ho hc) fun read d₂ h₂ _ => ?_
    obtain ⟨rfl, rfl⟩ := h₂
    exact undisturbed_cut hs hn ho hc (Checkpoint.completeLength_le read) _

theorem undisturbed_readLog (hs : F.Shows c d) {n : String} (hn : F.names n) {bytes left : Bytes} (hc : c n = some bytes)
    {skip : Nat} (hscan : Log.Scanned skip bytes bodies pending left) :
    FileAttempt.Undisturbed (readLog (Disk.join F.path n) skip) d := by
  refine (hs.undisturbed_openExisting hn).bind (hs.attains_openExisting hn hc) fun file d₁ h₁ _ => ?_
  obtain ⟨rfl, ho⟩ := h₁
  refine Folder.Shows.undisturbed_read.bind (hs.attains_read hn ho hc) fun read d₂ h₂ _ => ?_
  obtain ⟨rfl, rfl⟩ := h₂
  rw [Log.scan_eq hscan]
  refine undisturbed_cut hs hn ho hc ?_ _
  rw [hscan.eq_joined_append, List.length_append]
  exact Nat.le_add_right _ _

theorem undisturbed_resetTo (hs : F.Shows c d) {n : String} (hn : F.names n) {bytes : Bytes} (hc : c n = some bytes)
    {length : Nat} (hlength : length ≤ bytes.length) :
    FileAttempt.Undisturbed (FileAttempt.resetTo (Disk.join F.path n) length) d := by
  refine (hs.undisturbed_openExisting hn).bind (hs.attains_openExisting hn hc) fun file d₁ h₁ _ => ?_
  obtain ⟨rfl, ho⟩ := h₁
  refine (hs.undisturbed_truncate hn ho hc hlength).bind (hs.attains_truncate hn ho hc hlength) fun _ d₂ h₂ _ => ?_
  exact h₂.2.undisturbed_openExisting hn

theorem undisturbed_recover (hs : F.Shows c d) (hq : F.HasQueue name)
    (hfound : Found (c (Destination.logName name)) (c (Destination.checkpointName name)) bodies pending taken stale) :
    FileAttempt.Undisturbed (recover (logPathOf F.path name) (checkpointPathOf F.path name)) d := by
  refine (hs.undisturbed_pathExists hq.log).storage.bind (hs.attains_pathExists hq.log).storage fun exists? d₁ h₁ _ => ?_
  obtain ⟨rfl, rfl⟩ := h₁
  cases hfound with
  | nothing hlog =>
    rw [hlog, Option.isSome_none, if_neg (by decide)]
    refine (hs.undisturbed_pathExists hq.checkpoint).storage.bind (hs.attains_pathExists hq.checkpoint).storage
      fun exists? d₂ h₂ _ => ?_
    obtain ⟨rfl, rfl⟩ := h₂
    cases hcp : c (Destination.checkpointName name) with
    | none =>
      rw [Option.isSome_none, if_neg (by decide)]
      exact FileAttempt.undisturbed_pure _ _
    | some bytes =>
      rw [Option.isSome_some, if_pos rfl]
      exact (undisturbed_resetTo hs hq.checkpoint hcp (Nat.zero_le _)).storage.bind
        (attains_resetTo hs hq.checkpoint hcp (Nat.zero_le _)).storage fun _ _ _ _ => FileAttempt.undisturbed_pure _ _
  | scanned hlog hscan =>
    rw [hlog, Option.isSome_some, if_pos rfl]
    refine (undisturbed_readCheckpoint hs hq.checkpoint).storage.bind (attains_readCheckpoint hs hq.checkpoint).storage
      fun read d₂ h₂ _ => ?_
    obtain ⟨rfl, -, hs₂⟩ := h₂
    have hlog' := (Function.update_of_ne (Destination.checkpointName_ne_logName name).symm
      (repaired (c (Destination.checkpointName name))) c).trans hlog
    exact (undisturbed_readLog hs₂ hq.log hlog' hscan).storage.bind (attains_readLog hs₂ hq.log hlog' hscan).storage
      fun _ _ _ _ => FileAttempt.undisturbed_pure _ _

/-- A queue can be opened when a checkpoint that has to be written has room. -/
theorem undisturbed_openIn (hs : F.Shows c d) (hq : F.HasQueue name) (hvalid : Destination.fault? name = none)
    (hfound : Found (c (Destination.logName name)) (c (Destination.checkpointName name)) bodies pending taken stale)
    (hroom : stale = true →
      (checkpointLeft (c (Destination.logName name)) (c (Destination.checkpointName name)) taken stale).length ≤ d.bound)
    (durable : Bool) : FileAttempt.Undisturbed (openIn name F.path durable) d := by
  rw [openIn, validate_eq_ok hvalid]
  refine (undisturbed_recover hs hq hfound).bind (attains_recover hs hq hfound) fun found d₁ h₁ hb₁ => ?_
  obtain ⟨rfl, -, c₁, hs₁, -, -, hcp₁⟩ := h₁
  refine (hs₁.undisturbed_openAppend hq.log).storage.bind (hs₁.attains_openAppend hq.log).storage fun log d₂ h₂ hb₂ => ?_
  obtain ⟨-, -, hs₂⟩ := h₂
  refine (hs₂.undisturbed_openAppend hq.checkpoint).storage.bind (hs₂.attains_openAppend hq.checkpoint).storage
    fun checkpoint d₃ h₃ hb₃ => ?_
  obtain ⟨hoc, -, hs₃⟩ := h₃
  rw [Function.update_of_ne (Destination.checkpointName_ne_logName name), hcp₁] at hs₃
  cases stale with
  | false => exact FileAttempt.undisturbed_pure _ _
  | true =>
    have hroom := hroom rfl
    rw [length_checkpointLeft_true, ← Checkpoint.length_record taken, ← hb₁, ← hb₂, ← hb₃] at hroom
    exact (hs₃.undisturbed_appendRecord hq.checkpoint hoc (Function.update_self _ _ _) hroom durable).storage.bind
      (hs₃.attains_appendRecord hq.checkpoint hoc (Function.update_self _ _ _) _ durable).storage fun _ _ _ _ =>
        FileAttempt.undisturbed_pure _ _

/-- Where a queue was opened without a failure, a checkpoint that had to be written had room. -/
theorem room_of_succeeds (hs : F.Shows c d) (hq : F.HasQueue name) (hvalid : Destination.fault? name = none)
    (hfound : Found (c (Destination.logName name)) (c (Destination.checkpointName name)) bodies pending taken true)
    {durable : Bool} {q : DurableQueue} (hr : FileAttempt.Succeeds (openIn name F.path durable) d q d') :
    (checkpointLeft (c (Destination.logName name)) (c (Destination.checkpointName name)) taken true).length ≤ d.bound := by
  rw [← FileProgram.bound_of_cut hr.cut]
  rw [openIn, validate_eq_ok hvalid] at hr
  obtain ⟨found, d₁, -, ⟨rfl, -, c₁, hs₁, -, -, hcp₁⟩, hr⟩ := hr.of_bind (attains_recover hs hq hfound)
  obtain ⟨log, d₂, -, ⟨-, -, hs₂⟩, hr⟩ := hr.of_bind (hs₁.attains_openAppend hq.log).storage
  obtain ⟨checkpoint, d₃, -, ⟨hoc, -, hs₃⟩, hr⟩ := hr.of_bind (hs₂.attains_openAppend hq.checkpoint).storage
  rw [Function.update_of_ne (Destination.checkpointName_ne_logName name), hcp₁] at hs₃
  obtain ⟨_, d₄, happend, -, hr⟩ :=
    hr.of_bind (hs₃.attains_appendRecord hq.checkpoint hoc (Function.update_self _ _ _) _ durable).storage
  obtain ⟨-, rfl⟩ := FileAttempt.runs_pure_iff.1 hr
  rw [length_checkpointLeft_true, ← Checkpoint.length_record taken]
  refine hs₃.room_of_runs_appendRecord hq.checkpoint hoc (Function.update_self _ _ _) happend.of_storage ?_
  exact List.ne_nil_of_length_pos (by rw [Checkpoint.length_record]; decide)

/-! ## The outcome of opening -/

/-- A queue that was just opened and came to an outcome: its state, and what its files hold. -/
structure Outcome.Left (o : Outcome) (storage name : String) (q : DurableQueue) (d : Disk) : Prop where
  named : q.name = name
  stored : q.storage = storage
  opened : q.isClosed = false
  pending : q.pending = o.pending
  taken : q.taken = o.taken
  log : d.contentsAt (logPathOf storage name) = .ok o.log
  checkpoint : d.contentsAt (checkpointPathOf storage name) = .ok o.checkpoint

/-- Opening a queue that meets no failure comes to the outcome that its files have to come to. -/
theorem attains_left (hs : F.Shows c d) (hq : F.HasQueue name) (hvalid : Destination.fault? name = none)
    (hof : Outcome.Of (c (Destination.logName name)) (c (Destination.checkpointName name)) o) (durable : Bool) :
    FileAttempt.Attains faults (openIn name F.path durable) d fun q d' => o.Left F.path name q d' := by
  obtain ⟨bodies, stale, hfound, hlog, hcheckpoint⟩ := hof.exists_found
  refine (attains_openIn_attached hs hq hvalid hfound durable).mono fun q d' h => ?_
  obtain ⟨rfl, -, hpending, htaken, -, c', -, ha⟩ := h
  rw [← hlog, ← hcheckpoint] at ha
  obtain ⟨files, hfiles, -⟩ := ha.opened
  exact ⟨rfl, ha.storage, by rw [isClosed, hfiles]; rfl, hpending, htaken, ha.shows.contentsAt_eq hq.log ha.log,
    ha.shows.contentsAt_eq hq.checkpoint ha.checkpoint⟩

/-- Whether the checkpoint file that an outcome leaves has room: it ends below the bound, or does not grow. -/
def Outcome.Fits (o : Outcome) (checkpoint : Option Bytes) (d : Disk) : Prop :=
  o.checkpoint.length ≤ d.bound ∨ o.checkpoint.length ≤ (checkpoint.getD []).length

theorem length_checkpointAfter_le (log checkpoint : Option Bytes) :
    (checkpointAfter log checkpoint).length ≤ (checkpoint.getD []).length := by
  rw [checkpointAfter]
  split
  · cases checkpoint with
    | none => exact Nat.le_refl _
    | some bytes => exact (List.take_sublist _ _).length_le
  · exact Nat.zero_le _

/-- A torn record that is cut off leaves no room for a whole one. -/
theorem length_lt_checkpointLeft (checkpoint : Option Bytes) (hlog : log.isSome = true) (taken : Nat) :
    (checkpoint.getD []).length < (checkpointLeft log checkpoint taken true).length := by
  rw [length_checkpointLeft_true, checkpointAfter, if_pos hlog]
  cases checkpoint with
  | none => exact Nat.succ_pos _
  | some bytes =>
    rw [repaired, Option.map_some, Option.getD_some, Option.getD_some, List.length_take,
      Nat.min_eq_left (Checkpoint.completeLength_le bytes), Checkpoint.completeLength, Checkpoint.recordLength]
    omega

theorem Found.exists_log (h : Found log checkpoint bodies pending taken true) : ∃ bytes, log = some bytes := by
  generalize hstale : true = stale at h
  cases h with
  | nothing => cases hstale
  | scanned hlog => exact ⟨_, hlog⟩

/-- An outcome fits if a checkpoint that follows a stale one does. -/
theorem Found.fits_iff (h : Found log checkpoint bodies pending taken stale) :
    Outcome.Fits ⟨pending, taken, Log.joined bodies, checkpointLeft log checkpoint taken stale⟩ checkpoint d ↔
      (stale = true → (checkpointLeft log checkpoint taken stale).length ≤ d.bound) := by
  rw [Outcome.Fits]
  cases stale with
  | false =>
    refine ⟨fun _ hstale => (by cases hstale), fun _ => Or.inr ?_⟩
    exact length_checkpointAfter_le log checkpoint
  | true =>
    have hlt := length_lt_checkpointLeft checkpoint (Option.isSome_iff_exists.2 h.exists_log) taken
    exact ⟨fun h _ => h.resolve_right (Nat.not_le_of_lt hlt), fun h => Or.inl (h rfl)⟩

/-- A queue can be opened without a failure exactly if its outcome has room. -/
theorem exists_succeeds_iff (hs : F.Shows c d) (hq : F.HasQueue name) (hvalid : Destination.fault? name = none)
    (hof : Outcome.Of (c (Destination.logName name)) (c (Destination.checkpointName name)) o) (durable : Bool) :
    (∃ q d', FileAttempt.Succeeds (openIn name F.path durable) d q d') ↔ o.Fits (c (Destination.checkpointName name)) d := by
  obtain ⟨bodies, stale, hfound, hlog, hcheckpoint⟩ := hof.exists_found
  have hiff := hfound.fits_iff (d := d)
  rw [← hlog, ← hcheckpoint] at hiff
  rw [hiff, hcheckpoint]
  constructor
  · rintro ⟨q, d', hr⟩ rfl
    exact room_of_succeeds hs hq hvalid hfound hr
  · intro hroom
    obtain ⟨q, d', hr, -⟩ := (undisturbed_openIn hs hq hvalid hfound hroom durable).succeeds
      (attains_openIn_attached hs hq hvalid hfound durable)
    exact ⟨q, d', hr⟩

/-- The files of a queue can be read piece by piece, what is read is what opening goes by, and the checkpoint file can be followed
by a record. -/
structure ReadsSafely (log checkpoint : Option Bytes) : Prop where
  said : Cursor.readCheckpoint (checkpoint.getD []) =
    .ok (takenIn checkpoint, Checkpoint.completeLength (checkpoint.getD []))
  kept : Cursor.readLog (takenIn checkpoint) (log.getD []) = .ok (Log.scan (takenIn checkpoint) (log.getD []))
  grown : Cursor.add (Checkpoint.completeLength (checkpoint.getD [])) Checkpoint.recordLength =
    .ok (Checkpoint.completeLength (checkpoint.getD []) + Checkpoint.recordLength)

theorem readsSafely (hlog : (log.getD []).length ≤ Disk.maxFile) (hcheckpoint : (checkpoint.getD []).length ≤ Disk.maxFile) :
    ReadsSafely log checkpoint := by
  refine ⟨Cursor.readCheckpoint_eq _, Cursor.readLog_eq hlog, Cursor.add_eq_ok ?_⟩
  have hle := Checkpoint.completeLength_le (checkpoint.getD [])
  have hsize : Disk.maxFile + Checkpoint.recordLength < UInt64.size := by decide
  omega

/-- Opening a queue on any two files reads them without a fault and, if nothing fails, comes to the one outcome that they have to
come to; and nothing has to fail where that outcome has room. -/
theorem opens_exactly (hs : F.Shows c d) (hq : F.HasQueue name) (hvalid : Destination.fault? name = none)
    (hlog : ((c (Destination.logName name)).getD []).length ≤ Disk.maxFile)
    (hcheckpoint : ((c (Destination.checkpointName name)).getD []).length ≤ Disk.maxFile) (durable : Bool) :
    ReadsSafely (c (Destination.logName name)) (c (Destination.checkpointName name)) ∧
      ∃ o, (∀ o', Outcome.Of (c (Destination.logName name)) (c (Destination.checkpointName name)) o' ↔ o' = o) ∧
        ((∃ q d', FileAttempt.Succeeds (openIn name F.path durable) d q d') ↔ o.Fits (c (Destination.checkpointName name)) d) ∧
        ∀ r d', (openIn name F.path durable).run.Runs (Answers False) d r d' → ∃ q, r = .ok q ∧ o.Left F.path name q d' := by
  obtain ⟨bodies, pending, taken, stale, hfound⟩ :=
    exists_found (c (Destination.logName name)) (c (Destination.checkpointName name))
  have hof := hfound.outcome
  refine ⟨readsSafely hlog hcheckpoint, _, fun o' => ⟨fun h => h.unique hof, ?_⟩, exists_succeeds_iff hs hq hvalid hof durable,
    fun r d' hr => (attains_left hs hq hvalid hof durable).exists_of_not id hr⟩
  rintro rfl
  exact hof

/-! A log with a torn record at its end, under a checkpoint that says more than it holds and is followed by a byte of another. -/

/-- The contents of the two files of the queue `q`. -/
def contentsOf (log checkpoint : Bytes) : Contents :=
  Function.update (Function.update (fun _ => none) "q" (some log)) "q-checkpoint" (some checkpoint)

theorem shows_diskOf (log checkpoint : Bytes) :
    (Folder.ofDestinations "" ["home"] (· = "q")).Shows (contentsOf log checkpoint) (diskOf log checkpoint) := by
  have hnames {n : String} (hn : (Folder.ofDestinations "" ["home"] (· = "q")).names n) : n = "q" ∨ n = "q-checkpoint" := by
    obtain ⟨name, rfl, -, hn⟩ := hn
    exact hn
  have hlog : (diskOf log checkpoint).fileAt ["home"] "q" = some 0 := rfl
  have hcheckpoint : (diskOf log checkpoint).fileAt ["home"] "q-checkpoint" = some 1 := rfl
  refine ⟨rfl, fun n hn node hnode => ?_, fun m n id hm hn hidm hidn => ?_, fun n hn => ?_⟩
  · rcases hnames hn with rfl | rfl
    · exact ⟨0, Nat.zero_lt_two, (Option.some.inj hnode).symm⟩
    · exact ⟨1, Nat.one_lt_two, (Option.some.inj hnode).symm⟩
  · have hid := hidm.trans hidn.symm
    rcases hnames hm with rfl | rfl <;> rcases hnames hn with rfl | rfl
    · rfl
    · cases hlog.symm.trans (hid.trans hcheckpoint)
    · cases hcheckpoint.symm.trans (hid.trans hlog)
    · rfl
  · rcases hnames hn with rfl | rfl <;> rfl

def staleLog : Bytes :=
  Log.recordOf plainMessage.bytes ++ [0, 0]

def staleCheckpoint : Bytes :=
  Checkpoint.record 5 ++ [7]

theorem outcome_stale : Outcome.Of (some staleLog) (some staleCheckpoint)
    ⟨[], 1, Log.recordOf plainMessage.bytes, Checkpoint.record 5 ++ Checkpoint.record 1⟩ := by
  have htaken : takenIn (some staleCheckpoint) = 5 := by decide +kernel
  have hscan : Log.Scanned (takenIn (some staleCheckpoint)) staleLog [plainMessage.bytes] [] [0, 0] := by
    rw [htaken]
    exact .skipped (Log.splitRecord?_recordOf (by decide +kernel) _) (.incomplete rfl)
  have hfound : Found (some staleLog) (some staleCheckpoint) [plainMessage.bytes] [] 1 true := by
    have h : Found (some staleLog) (some staleCheckpoint) _ _ _ _ := .scanned rfl hscan
    rwa [htaken] at h
  have hleft : checkpointLeft (some staleLog) (some staleCheckpoint) 1 true = Checkpoint.record 5 ++ Checkpoint.record 1 := by
    decide +kernel
  have houtcome := hfound.outcome
  rwa [hleft, Log.joined_singleton] at houtcome

theorem opens_exactly_stale : ∃ q d', FileAttempt.Succeeds (openIn "q" "" true) (diskOf staleLog staleCheckpoint) q d' ∧
    q.pending = [] ∧ q.taken = 1 ∧ d'.contentsAt "q" = .ok (Log.recordOf plainMessage.bytes) ∧
    d'.contentsAt "q-checkpoint" = .ok (Checkpoint.record 5 ++ Checkpoint.record 1) := by
  obtain ⟨-, o, hof, hexists, hruns⟩ :=
    opens_exactly (shows_diskOf staleLog staleCheckpoint) hasQueue_q rfl (by decide +kernel) (by decide +kernel) true
  obtain rfl := (hof _).1 outcome_stale
  obtain ⟨q, d', hr⟩ := hexists.2 (Or.inl (by decide +kernel))
  obtain ⟨_, heq, hq⟩ := hruns _ _ hr
  cases heq
  exact ⟨q, d', hr, hq.pending, hq.taken, hq.log, hq.checkpoint⟩

end DurableQueue

end QueueBroker

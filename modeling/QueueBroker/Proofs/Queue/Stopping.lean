import Mathlib.Data.List.TakeWhile
import QueueBroker.Proofs.Queue.Working

/-!
# Queues that are stopped

Opening a queue, putting a message in and taking one out may be stopped anywhere. `DurableQueue.Rests` says what the files of a
queue then still tell, and opening keeps it at every point; of the record that was being written a part is there, from its
beginning.
-/

namespace QueueBroker

open FileOp

variable {faults : Prop} {F : Folder} {c c' : Contents} {d d' : Disk} {name : String}

/-- Whether all of some bytes were written at the end of the file that a path leads to. -/
def Disk.GrewBy (d d' : Disk) (path : String) (bytes : Bytes) : Prop :=
  ∃ old, d.contentsAt path = .ok old ∧ d'.contentsAt path = .ok (old ++ bytes)

namespace DurableQueue

variable {R : Bytes → Message → Prop} {q q' : DurableQueue} {bodies : List Bytes} {pending : List Message} {taken : Nat}
  {m : Message} {I : Disk → Prop}

/-! ## Files at rest -/

/-- Files that hold the records of some bodies, with an incomplete record at most after them, and say how many were taken. -/
structure Rests (F : Folder) (name : String) (c : Contents) (d : Disk) (bodies : List Bytes) (taken : Nat) : Prop where
  folder : F.HasQueue name
  shows : F.Shows c d
  log : ∃ tail, Log.Incomplete tail ∧ (c (Destination.logName name)).getD [] = Log.joined bodies ++ tail
  short : ((c (Destination.logName name)).getD []).length ≤ Disk.maxFile
  fit : Log.Fit bodies
  checkpoint : takenIn (c (Destination.checkpointName name)) = taken
  taken_le : taken ≤ bodies.length

/-- The files of an open queue may be left as they are. -/
theorem Mirrors.rests (hm : q.Mirrors R F c d bodies) : Rests F q.name c d bodies q.taken := by
  obtain ⟨checkpoint, ha, -, hlast⟩ := hm.attached
  refine ⟨ha.folder, ha.shows, ⟨[], Log.incomplete_nil, ?_⟩, ?_, hm.fit, ?_, hm.taken_le⟩
  · rw [ha.log, Option.getD_some, List.append_nil]
  · rw [ha.log, Option.getD_some]
    exact hm.short
  · rw [ha.checkpoint]
    exact hlast

/-- In files at rest opening finds the messages before the first that is not read back. -/
theorem Rests.found_of_tells (h : Rests F name c d bodies taken) {readable : Message → Bool}
    (htells : List.Forall₂ (Log.Tells readable) (bodies.drop taken) pending) :
    Found (c (Destination.logName name)) (c (Destination.checkpointName name))
      (bodies.take (taken + (pending.takeWhile readable).length)) (pending.takeWhile readable) taken false := by
  have hle := h.taken_le
  obtain ⟨tail, htail, hlog⟩ := h.log
  cases hc : c (Destination.logName name) with
  | none =>
    rw [hc, Option.getD_none] at hlog
    obtain ⟨hjoined, -⟩ := List.append_eq_nil_iff.1 hlog.symm
    obtain rfl : bodies = [] := by
      have hlen := Log.length_le_length_joined bodies
      rw [hjoined] at hlen
      exact List.eq_nil_of_length_eq_zero (Nat.le_zero.1 hlen)
    obtain rfl : taken = 0 := Nat.le_zero.1 hle
    cases htells
    exact .nothing rfl
  | some bytes =>
    rw [hc, Option.getD_some] at hlog
    obtain ⟨left, hscan⟩ := Log.Scanned.of_tells h.fit hle htells htail
    rw [← hlog, ← h.checkpoint] at hscan
    have hfound : Found (some bytes) _ _ _ _ _ := Found.scanned rfl hscan
    have hkept : taken ≤ (bodies.take (taken + (pending.takeWhile readable).length)).length := by
      rw [List.length_take]
      omega
    rw [h.checkpoint, Nat.min_eq_left hkept, decide_eq_false (Nat.not_lt_of_le hkept)] at hfound
    exact hfound

/-- When all messages are read back, opening finds all of them. -/
theorem Rests.found (h : Rests F name c d bodies taken)
    (hread : List.Forall₂ Message.ReadFrom (bodies.drop taken) pending) :
    Found (c (Destination.logName name)) (c (Destination.checkpointName name)) bodies pending taken false := by
  have htells : List.Forall₂ (Log.Tells fun _ => true) (bodies.drop taken) pending :=
    hread.imp fun body m hm => (if_pos rfl).mpr hm
  have hfound := h.found_of_tells htells
  have hlen := hread.length_eq
  rw [List.length_drop] at hlen
  rwa [List.takeWhile_eq_self_iff.2 fun _ _ => rfl, List.take_of_length_le (by omega)] at hfound

/-- Files at rest under the eyes of a program: whatever else they hold. -/
def AtRest (F : Folder) (name : String) (bodies : List Bytes) (taken : Nat) (d : Disk) : Prop :=
  ∃ c, Rests F name c d bodies taken

/-! ## Opening -/

/-- What is in the two files of a queue however far an opening got, when they held `log` and `checkpoint` and come to `bodies` and so
on: what they held, then a repaired checkpoint, then also a repaired log, and at last a part of the record that is to follow a stale
checkpoint. -/
inductive Mended (log checkpoint : Option Bytes) (bodies : List Bytes) (taken : Nat) (stale : Bool) :
    Option Bytes → Option Bytes → Prop where
  | before : Mended log checkpoint bodies taken stale log checkpoint
  | checkpoint {file : Option Bytes} : file.getD [] = checkpointAfter log checkpoint →
      Mended log checkpoint bodies taken stale log file
  | log {file : Option Bytes} : file.getD [] = checkpointAfter log checkpoint →
      Mended log checkpoint bodies taken stale (some (Log.joined bodies)) file
  | record (k : Nat) : stale = true → Mended log checkpoint bodies taken stale (some (Log.joined bodies))
      (some (checkpointAfter log checkpoint ++ (Checkpoint.record taken).take k))

/-- A disk on which the opening of a queue got so far. -/
def Mending (F : Folder) (name : String) (c : Contents) (bodies : List Bytes) (taken : Nat) (stale : Bool) (d : Disk) : Prop :=
  ∃ c', F.Shows c' d ∧ SameElsewhere name c c' ∧
    Mended (c (Destination.logName name)) (c (Destination.checkpointName name)) bodies taken stale
      (c' (Destination.logName name)) (c' (Destination.checkpointName name))

variable {stale : Bool}

theorem Mending.before (hs : F.Shows c d) : Mending F name c bodies taken stale d :=
  ⟨c, hs, SameElsewhere.refl name c, Mended.before⟩

theorem Mending.checkpoint {file : Option Bytes} (hs : F.Shows (Function.update c (Destination.checkpointName name) file) d)
    (heq : file.getD [] = checkpointAfter (c (Destination.logName name)) (c (Destination.checkpointName name))) :
    Mending F name c bodies taken stale d := by
  refine ⟨_, hs, (SameElsewhere.refl name c).update_checkpoint file, ?_⟩
  rw [Function.update_self, Function.update_of_ne (Destination.checkpointName_ne_logName name).symm]
  exact Mended.checkpoint heq

theorem Mending.log (hsame : SameElsewhere name c c')
    (hs : F.Shows (Function.update c' (Destination.logName name) (some (Log.joined bodies))) d)
    (heq : (c' (Destination.checkpointName name)).getD [] =
      checkpointAfter (c (Destination.logName name)) (c (Destination.checkpointName name))) :
    Mending F name c bodies taken stale d := by
  refine ⟨_, hs, hsame.update_log _, ?_⟩
  rw [Function.update_self, Function.update_of_ne (Destination.checkpointName_ne_logName name)]
  exact Mended.log heq

theorem Mending.record (k : Nat) (hsame : SameElsewhere name c c') (hlog : c' (Destination.logName name) = some (Log.joined bodies))
    (hs : F.Shows (Function.update c' (Destination.checkpointName name)
      (some (checkpointAfter (c (Destination.logName name)) (c (Destination.checkpointName name)) ++
        (Checkpoint.record taken).take k))) d) : Mending F name c bodies taken true d := by
  refine ⟨_, hs, hsame.update_checkpoint _, ?_⟩
  rw [Function.update_self, Function.update_of_ne (Destination.checkpointName_ne_logName name).symm, hlog]
  exact Mended.record k rfl

theorem keeps_cut {α : Type} (hs : F.Shows c d) {n : String} (hn : F.names n) {file : Handle} (ho : F.Opens d n file)
    {bytes : Bytes} (hc : c n = some bytes) {length : Nat} (hlength : length ≤ bytes.length) {p : Prop} [Decidable p]
    (h0 : I d) (h1 : ∀ d', d.Extends d' → F.Shows (Function.update c n (some (bytes.take length))) d' → I d') {a : α} :
    FileAttempt.Keeps faults (if p then FileAttempt.truncate file length >>= fun _ => pure a else pure a) d I := by
  by_cases hcut : p
  · rw [if_pos hcut]
    exact (hs.keeps_truncate hn ho hc hlength h0 h1).bind (hs.attains_truncate hn ho hc hlength) fun _ _ h =>
      FileAttempt.Keeps.pure (h1 _ h.1 h.2)
  · rw [if_neg hcut]
    exact FileAttempt.Keeps.pure h0

theorem keeps_readCheckpoint (hs : F.Shows c d) {n : String} (hn : F.names n) (h0 : I d)
    (h1 : ∀ d', F.Shows (Function.update c n (repaired (c n))) d' → I d') :
    FileAttempt.Keeps faults (readCheckpoint (Disk.join F.path n)) d I := by
  refine (hs.keeps_openExisting hn h0).lift.bind_runs fun opened d₁ hr => ?_
  obtain ⟨r, hr, heq⟩ := FileAttempt.runs_lift_iff.1 hr
  cases heq
  have hkept : I d₁ := hs.keeps_openExisting hn h0 _ hr.cut
  cases opened with
  | error e =>
    dsimp only
    split
    · exact FileAttempt.Keeps.pure hkept
    · exact FileAttempt.Keeps.throw hkept
  | ok file =>
    cases hc : c n with
    | none =>
      rcases hs.runs_openExisting_none hn hc hr with ⟨heq, -⟩ | ⟨-, e, heq, -⟩ <;> cases heq
    | some bytes =>
      obtain ⟨rfl, ho⟩ : d₁ = d ∧ F.Opens d n file := by
        rcases hs.runs_openExisting_some hn hc hr with ⟨file', heq, hd, ho⟩ | ⟨-, ⟨e, heq, -⟩, -⟩
        · cases heq
          exact ⟨hd, ho⟩
        · cases heq
      refine (Folder.Shows.keeps_read h0).bind (hs.attains_read hn ho hc) fun read d₂ h₂ => ?_
      obtain ⟨rfl, rfl⟩ := h₂
      refine keeps_cut hs hn ho hc (Checkpoint.completeLength_le _) h0 fun d' _ hs' => h1 d' ?_
      rw [hc]
      exact hs'

theorem keeps_readLog (hs : F.Shows c d) {n : String} (hn : F.names n) {bytes left : Bytes} (hc : c n = some bytes) {skip : Nat}
    (hscan : Log.Scanned skip bytes bodies pending left) (h0 : I d)
    (h1 : ∀ d', F.Shows (Function.update c n (some (Log.joined bodies))) d' → I d') :
    FileAttempt.Keeps faults (readLog (Disk.join F.path n) skip) d I := by
  have hjoined := hscan.eq_joined_append
  refine (hs.keeps_openExisting hn h0).bind (hs.attains_openExisting hn hc) fun file d₁ h₁ => ?_
  obtain ⟨rfl, ho⟩ := h₁
  refine (Folder.Shows.keeps_read h0).bind (hs.attains_read hn ho hc) fun read d₂ h₂ => ?_
  obtain ⟨rfl, rfl⟩ := h₂
  rw [Log.scan_eq hscan]
  refine keeps_cut hs hn ho hc ?_ h0 fun d' _ hs' => h1 d' ?_
  · rw [hjoined, List.length_append]
    exact Nat.le_add_right _ _
  · rw [hjoined, List.take_left] at hs'
    exact hs'

theorem keeps_resetTo (hs : F.Shows c d) {n : String} (hn : F.names n) {bytes : Bytes} (hc : c n = some bytes) {length : Nat}
    (hlength : length ≤ bytes.length) (h0 : I d)
    (h1 : ∀ d', d.Extends d' → F.Shows (Function.update c n (some (bytes.take length))) d' → I d') :
    FileAttempt.Keeps faults (FileAttempt.resetTo (Disk.join F.path n) length) d I := by
  refine (hs.keeps_openExisting hn h0).bind (hs.attains_openExisting hn hc) fun file d₁ h₁ => ?_
  obtain ⟨rfl, ho⟩ := h₁
  refine (hs.keeps_truncate hn ho hc hlength h0 h1).bind (hs.attains_truncate hn ho hc hlength) fun _ d₂ h₂ => ?_
  obtain ⟨hext, hs₂⟩ := h₂
  exact hs₂.keeps_openExisting hn (h1 d₂ hext hs₂)

/-- However far the files are repaired, they are mended. -/
theorem keeps_recover (hs : F.Shows c d) (hq : F.HasQueue name)
    (hfound : Found (c (Destination.logName name)) (c (Destination.checkpointName name)) bodies pending taken stale) :
    FileAttempt.Keeps faults (recover (logPathOf F.path name) (checkpointPathOf F.path name)) d
      (Mending F name c bodies taken stale) := by
  have hne := Destination.checkpointName_ne_logName name
  have h0 : Mending F name c bodies taken stale d := .before hs
  refine (Folder.Shows.keeps_pathExists h0).storage.bind (hs.attains_pathExists hq.log).storage fun exists? d₁ h₁ => ?_
  obtain ⟨rfl, rfl⟩ := h₁
  cases hfound with
  | nothing hlog =>
    rw [hlog, Option.isSome_none, if_neg (by decide)]
    refine (Folder.Shows.keeps_pathExists h0).storage.bind (hs.attains_pathExists hq.checkpoint).storage fun exists? d₂ h₂ => ?_
    obtain ⟨rfl, rfl⟩ := h₂
    cases hcp : c (Destination.checkpointName name) with
    | none =>
      rw [Option.isSome_none, if_neg (by decide)]
      exact FileAttempt.Keeps.pure h0
    | some bytes =>
      have hempty : (some (bytes.take 0)).getD [] =
          checkpointAfter (c (Destination.logName name)) (c (Destination.checkpointName name)) := by
        rw [hlog]
        rfl
      rw [Option.isSome_some, if_pos rfl]
      refine (keeps_resetTo hs hq.checkpoint hcp (Nat.zero_le _) h0 fun _ _ hs₁ => .checkpoint hs₁ hempty).storage.bind
        (attains_resetTo hs hq.checkpoint hcp (Nat.zero_le _)).storage fun file d₃ h₃ => ?_
      exact FileAttempt.Keeps.pure (.checkpoint h₃.2.2 hempty)
  | scanned hlog hscan =>
    rw [hlog, Option.isSome_some, if_pos rfl]
    have hafter : (repaired (c (Destination.checkpointName name))).getD [] =
        checkpointAfter (c (Destination.logName name)) (c (Destination.checkpointName name)) := by
      rw [hlog]
      rfl
    refine (keeps_readCheckpoint hs hq.checkpoint h0 fun _ hs₂ => .checkpoint hs₂ hafter).storage.bind
      (attains_readCheckpoint hs hq.checkpoint).storage fun read d₂ hread => ?_
    obtain ⟨rfl, -, hs₂⟩ := hread
    have hsame := (SameElsewhere.refl name c).update_checkpoint (repaired (c (Destination.checkpointName name)))
    have hlog' := (Function.update_of_ne hne.symm (repaired (c (Destination.checkpointName name))) c).trans hlog
    have hafter' := hafter
    rw [← Function.update_self (Destination.checkpointName name) (repaired (c (Destination.checkpointName name))) c] at hafter'
    refine (keeps_readLog hs₂ hq.log hlog' hscan (.checkpoint hs₂ hafter) fun _ hs₃ => .log hsame hs₃ hafter').storage.bind
      (attains_readLog hs₂ hq.log hlog' hscan).storage fun contents d₃ hread => ?_
    exact FileAttempt.Keeps.pure (.log hsame hread.2.2 hafter')

/-- However far a queue is opened, its files are mended. -/
theorem keeps_openIn (hs : F.Shows c d) (hq : F.HasQueue name)
    (hfound : Found (c (Destination.logName name)) (c (Destination.checkpointName name)) bodies pending taken stale)
    (durable : Bool) :
    FileAttempt.Keeps faults (openIn name F.path durable) d (Mending F name c bodies taken stale) := by
  have hne := Destination.checkpointName_ne_logName name
  have hrecover : FileAttempt.Keeps faults (recover (logPathOf F.path name) (checkpointPathOf F.path name)) d
      (Mending F name c bodies taken stale) := keeps_recover hs hq hfound
  rw [openIn]
  cases hvalid : Destination.validate name with
  | error e => exact FileAttempt.Keeps.throw (.before hs)
  | ok u =>
    refine hrecover.bind_runs fun found d₁ hr => ?_
    have h₁ := hrecover d₁ hr.cut
    rcases attains_recover hs hq hfound _ _ hr with ⟨_, heq, rfl, -, c₁, hs₁, hsame, hlog₁, hcp₁⟩ | ⟨-, e, heq⟩
    case inr => cases heq
    cases heq
    have hmade {d' : Disk} (hs₂ : F.Shows (Function.update c₁ (Destination.logName name)
        (some ((c₁ (Destination.logName name)).getD []))) d') : Mending F name c bodies taken stale d' := by
      rw [hlog₁] at hs₂
      exact .log hsame hs₂ hcp₁
    refine (hs₁.keeps_openAppend hq.log h₁ fun _ _ hs₂ => hmade hs₂).storage.bind (hs₁.attains_openAppend hq.log).storage
      fun log d₂ hopen => ?_
    obtain ⟨-, -, hs₂⟩ := hopen
    have h₂ := hmade hs₂
    generalize hc₂ : Function.update c₁ (Destination.logName name) (some ((c₁ (Destination.logName name)).getD [])) = c₂ at hs₂
    have hlog₂ : c₂ (Destination.logName name) = some (Log.joined bodies) := by
      rw [← hc₂, Function.update_self, hlog₁]
    have hcp₂ : (c₂ (Destination.checkpointName name)).getD [] =
        checkpointAfter (c (Destination.logName name)) (c (Destination.checkpointName name)) := by
      rw [← hc₂, Function.update_of_ne hne, hcp₁]
    have hsame₂ : SameElsewhere name c c₂ := hc₂ ▸ hsame.update_log _
    -- Making the checkpoint file is no more than writing nothing of the record that may have to follow.
    have hbegun {d' : Disk} (hs₃ : F.Shows (Function.update c₂ (Destination.checkpointName name)
        (some ((c₂ (Destination.checkpointName name)).getD []))) d') : Mending F name c bodies taken stale d' := by
      refine ⟨_, hs₃, hsame₂.update_checkpoint _, ?_⟩
      rw [Function.update_self, Function.update_of_ne hne.symm, hlog₂]
      exact .log hcp₂
    refine (hs₂.keeps_openAppend hq.checkpoint h₂ fun _ _ hs₃ => hbegun hs₃).storage.bind
      (hs₂.attains_openAppend hq.checkpoint).storage fun checkpoint d₃ hopen => ?_
    obtain ⟨hoc, -, hs₃⟩ := hopen
    cases stale with
    | false => exact FileAttempt.Keeps.pure (hbegun hs₃)
    | true =>
      have happend : FileAttempt.Keeps faults (FileAttempt.appendRecord checkpoint (Checkpoint.record taken) durable) d₃
          (Mending F name c bodies taken true) := by
        refine hs₃.keeps_appendRecord hq.checkpoint hoc (Function.update_self _ _ _) durable fun k d' _ hs₄ _ => ?_
        rw [Function.update_idem, hcp₂] at hs₄
        exact .record k hsame₂ hlog₂ hs₄
      refine happend.storage.bind_runs fun _ d₄ hr => FileAttempt.Keeps.pure ?_
      obtain ⟨r, hr, -⟩ := FileAttempt.runs_storage_iff.1 hr
      exact happend d₄ hr.cut

/-- Files at rest stay at rest when they are mended. -/
theorem Rests.mended (h : Rests F name c d bodies taken)
    (hfound : Found (c (Destination.logName name)) (c (Destination.checkpointName name)) bodies pending taken false)
    (hs : F.Shows c' d')
    (hm : Mended (c (Destination.logName name)) (c (Destination.checkpointName name)) bodies taken false
      (c' (Destination.logName name)) (c' (Destination.checkpointName name))) : Rests F name c' d' bodies taken := by
  have hcheckpoint {file : Option Bytes}
      (heq : file.getD [] = checkpointAfter (c (Destination.logName name)) (c (Destination.checkpointName name))) :
      takenIn file = taken := by
    rw [takenIn, heq]
    exact hfound.last_checkpointAfter
  refine ⟨h.folder, hs, ?_, ?_, h.fit, ?_, h.taken_le⟩
  all_goals generalize c' (Destination.logName name) = log, c' (Destination.checkpointName name) = file at hm
  · cases hm with
    | before => exact h.log
    | checkpoint => exact h.log
    | log => exact ⟨[], Log.incomplete_nil, (List.append_nil _).symm⟩
    | record _ hstale => cases hstale
  · cases hm with
    | before => exact h.short
    | checkpoint => exact h.short
    | log => exact Nat.le_trans hfound.length_joined_le h.short
    | record _ hstale => cases hstale
  · cases hm with
    | before => exact h.checkpoint
    | checkpoint heq => exact hcheckpoint heq
    | log heq => exact hcheckpoint heq
    | record _ hstale => cases hstale

/-- Wherever the opening of files at rest is stopped, they stay at rest. -/
theorem Rests.keeps_openIn (h : Rests F name c d bodies taken)
    (hread : List.Forall₂ Message.ReadFrom (bodies.drop taken) pending) (durable : Bool) :
    FileAttempt.Keeps faults (openIn name F.path durable) d (AtRest F name bodies taken) := by
  have hfound := h.found hread
  intro d' hcut
  obtain ⟨c', hs, -, hm⟩ := DurableQueue.keeps_openIn h.shows h.folder hfound durable d' hcut
  exact ⟨c', h.mended hfound hs hm⟩

/-! ## Working -/

/-- Files of which one has a part of some bytes at its end, from their beginning. -/
def Torn (F : Folder) (c : Contents) (n : String) (old bytes : Bytes) (d : Disk) : Prop :=
  ∃ k, F.Shows (Function.update c n (some (old ++ bytes.take k))) d ∧
    (old ++ bytes.take k).length ≤ max old.length Disk.maxFile

/-- While a record is written, and cut off again if that fails, a part of it is there. -/
theorem torn_of_cut {α : Type} (hs : F.Shows c d) {n : String} (hn : F.names n) {h : Handle} (ho : F.Opens d n h) {old : Bytes}
    (hc : c n = some old) {bytes : Bytes} {durable : Bool}
    {next : Except Errno Unit → FileProgram α}
    (hok : ∀ d₁ d₂, Program.Cut (Answers faults) FileOp.Torn (next (.ok ())) d₁ d₂ → d₂ = d₁)
    (herror : ∀ e d₁ d₂, Program.Cut (Answers faults) FileOp.Torn (next (.error e)) d₁ d₂ →
      Program.Cut (Answers faults) FileOp.Torn (FileAttempt.resetTo (Disk.join F.path n) old.length).run d₁ d₂)
    (hcut : Program.Cut (Answers faults) FileOp.Torn ((FileAttempt.appendRecord h bytes durable).run >>= next) d d') :
    Torn F c n old bytes d' := by
  have hkeeps : FileAttempt.Keeps faults (FileAttempt.appendRecord h bytes durable) d (Torn F c n old bytes) :=
    hs.keeps_appendRecord hn ho hc durable fun k _ _ hs' hmax => ⟨k, hs', hmax⟩
  rcases hcut.of_bind with hwrite | ⟨r, d₁, hwrite, hnext⟩
  · exact hkeeps d' hwrite
  · have h1 := hkeeps d₁ hwrite.cut
    cases r with
    | ok u =>
      rw [hok d₁ d' hnext]
      exact h1
    | error e =>
      obtain ⟨k, hs₁, -⟩ := id h1
      refine keeps_resetTo hs₁ hn (Function.update_self _ _ _) ?_ h1 (fun d₂ _ hs₂ => ⟨0, ?_⟩) d' (herror e d₁ d' hnext)
      · rw [List.length_append]
        exact Nat.le_add_right _ _
      · rw [List.take_left, Function.update_idem] at hs₂
        rw [List.take_zero, List.append_nil]
        exact ⟨hs₂, Nat.le_max_left _ _⟩

/-- A program that ends with something pure is stopped in what comes before. -/
theorem cut_of_cut_bind {α β : Type} {p : FileProgram α} {f : α → FileProgram β} (hf : ∀ a, ∃ b, f a = pure b)
    (h : Program.Cut (Answers faults) FileOp.Torn (p >>= f) d d') : Program.Cut (Answers faults) FileOp.Torn p d d' := by
  rcases h.of_bind with hp | ⟨a, d₁, hp, hpure⟩
  · exact hp
  · obtain ⟨b, hb⟩ := hf a
    rw [hb] at hpure
    rw [Program.Cut.of_pure hpure]
    exact hp.cut

theorem cut_resetTo_of_rollbackLog {files : QueueFiles} (h : Program.Cut (Answers faults) FileOp.Torn (q.rollbackLog files) d d') :
    Program.Cut (Answers faults) FileOp.Torn (FileAttempt.resetTo q.logPath files.logLength).run d d' := by
  refine cut_of_cut_bind (fun r => ?_) h
  cases r with
  | ok log => exact ⟨_, rfl⟩
  | error e => exact ⟨_, rfl⟩

theorem cut_resetTo_of_rollbackCheckpoint {files : QueueFiles}
    (h : Program.Cut (Answers faults) FileOp.Torn (q.rollbackCheckpoint files) d d') :
    Program.Cut (Answers faults) FileOp.Torn (FileAttempt.resetTo q.checkpointPath files.checkpointLength).run d d' := by
  refine cut_of_cut_bind (fun r => ?_) h
  cases r with
  | ok checkpoint => exact ⟨_, rfl⟩
  | error e => exact ⟨_, rfl⟩

/-- Wherever putting a message in is stopped, a part of its record stands at the end of the log, and none of it if the message is
too long for a record. -/
theorem torn_of_cut_enqueue (hm : q.Mirrors R F c d bodies)
    (hcut : Program.Cut (Answers faults) FileOp.Torn (q.enqueue m) d d') :
    (m.bytes.length ≤ Log.maxBody ∧
      Torn F c (Destination.logName q.name) (Log.joined bodies) (Log.recordOf m.bytes) d') ∨ d' = d := by
  obtain ⟨checkpoint, ha, -, -⟩ := hm.attached
  obtain ⟨files, hfiles, hlen, -, hol, -⟩ := ha.opened
  rw [enqueue] at hcut
  by_cases hbody : m.bytes.length ≤ Log.maxBody
  · rw [record_eq hbody] at hcut
    simp only [hfiles] at hcut
    refine Or.inl ⟨hbody, torn_of_cut ha.shows ha.folder.log hol ha.log ?_ ?_ hcut⟩
    · exact fun d₁ d₂ h => Program.Cut.of_pure h
    · intro e d₁ d₂ h
      rw [← hlen, ← logPath_eq ha.storage]
      exact cut_resetTo_of_rollbackLog (cut_of_cut_bind (fun _ => ⟨_, rfl⟩) h)
  · rw [Log.record] at hcut
    dsimp only at hcut
    rw [if_pos (Nat.lt_of_not_le hbody)] at hcut
    exact Or.inr (Program.Cut.of_pure hcut)

/-- Wherever taking a message out is stopped, a part of the new checkpoint stands at the end of the old ones, and none of it if
there is no message. -/
theorem torn_of_cut_dequeue {log checkpoint : Bytes} (ha : q.Attached F c d log checkpoint)
    (hcut : Program.Cut (Answers faults) FileOp.Torn q.dequeue d d') :
    (q.pending ≠ [] ∧
      Torn F c (Destination.checkpointName q.name) checkpoint (Checkpoint.record (q.taken + 1)) d') ∨ d' = d := by
  obtain ⟨files, hfiles, -, hlen, -, hoc⟩ := ha.opened
  rw [dequeue] at hcut
  simp only [hfiles] at hcut
  cases hpending : q.pending with
  | nil =>
    simp only [hpending] at hcut
    exact Or.inr (Program.Cut.of_pure hcut)
  | cons m pending =>
    simp only [hpending] at hcut
    refine Or.inl ⟨List.cons_ne_nil _ _, torn_of_cut ha.shows ha.folder.checkpoint hoc ha.checkpoint ?_ ?_ hcut⟩
    · exact fun d₁ d₂ h => Program.Cut.of_pure h
    · intro e d₁ d₂ h
      rw [← hlen, ← checkpointPath_eq ha.storage]
      exact cut_resetTo_of_rollbackCheckpoint (cut_of_cut_bind (fun _ => ⟨_, rfl⟩) h)

/-- Wherever closing is stopped, nothing was changed. -/
theorem eq_of_cut_close (hcut : q.close.Cut (Answers faults) FileOp.Torn d d') : d' = d := by
  rw [close] at hcut
  cases hfiles : q.files with
  | none =>
    simp only [hfiles] at hcut
    exact Program.Cut.of_pure hcut
  | some files =>
    simp only [hfiles] at hcut
    have hsync : FileAttempt.Keeps faults (do
        (FileAttempt.sync files.log).storage .sync q.logPath
        (FileAttempt.sync files.checkpoint).storage .sync q.checkpointPath) d (· = d) := by
      have hlog : FileAttempt.Keeps faults ((FileAttempt.sync files.log).storage .sync q.logPath) d (· = d) :=
        (Folder.Shows.keeps_sync (I := (· = d)) rfl).storage
      exact hlog.bind_runs fun _ d₁ hr => (Folder.Shows.keeps_sync (I := (· = d)) (hlog d₁ hr.cut)).storage
    split at hcut
    · exact hsync d' (cut_of_cut_bind (fun _ => ⟨_, rfl⟩) hcut)
    · exact Program.Cut.of_pure hcut

/-! ## What was written -/

theorem not_grewBy_self (d : Disk) (path : String) {bytes : Bytes} (hne : bytes ≠ []) : ¬d.GrewBy d path bytes := by
  rintro ⟨old, h1, h2⟩
  rw [h1] at h2
  exact hne (List.self_eq_append_right.1 (Except.ok.inj h2))

/-- The part of some bytes that a torn file has is all of them exactly when all were written. -/
theorem grewBy_iff (hs : F.Shows c d) {n : String} (hn : F.names n) {old bytes : Bytes} (hc : c n = some old) {k : Nat}
    (hs' : F.Shows (Function.update c n (some (old ++ bytes.take k))) d') :
    d.GrewBy d' (Disk.join F.path n) bytes ↔ bytes.take k = bytes := by
  have h1 := hs.contentsAt_eq hn hc
  have h2 := hs'.contentsAt_eq hn (Function.update_self _ _ _)
  constructor
  · rintro ⟨old', h1', h2'⟩
    obtain rfl := Except.ok.inj (h1.symm.trans h1')
    exact List.append_cancel_left (Except.ok.inj (h2.symm.trans h2'))
  · intro hall
    rw [hall] at h2
    exact ⟨old, h1, h2⟩

theorem lt_length_of_take_ne {k : Nat} {bytes : Bytes} (h : bytes.take k ≠ bytes) : k < bytes.length :=
  Nat.lt_of_not_le fun hle => h (List.take_of_length_le hle)

/-- A log with a part of a record at its end holds that record as well if it was written whole, and otherwise is at rest as
before. -/
theorem rests_of_torn_log (hm : q.Mirrors R F c d bodies) {body : Bytes} (hbody : body.length ≤ Log.maxBody)
    (ht : Torn F c (Destination.logName q.name) (Log.joined bodies) (Log.recordOf body) d') :
    (d.GrewBy d' q.logPath (Log.recordOf body) → AtRest F q.name (bodies ++ [body]) q.taken d') ∧
      (¬d.GrewBy d' q.logPath (Log.recordOf body) → AtRest F q.name bodies q.taken d') := by
  obtain ⟨checkpoint, ha, -, hlast⟩ := hm.attached
  obtain ⟨k, hs, hmax⟩ := ht
  rw [Nat.max_eq_right hm.short] at hmax
  have hlog : Function.update c (Destination.logName q.name) (some (Log.joined bodies ++ (Log.recordOf body).take k))
      (Destination.logName q.name) = some (Log.joined bodies ++ (Log.recordOf body).take k) := Function.update_self _ _ _
  have hcheckpoint : takenIn (Function.update c (Destination.logName q.name)
      (some (Log.joined bodies ++ (Log.recordOf body).take k)) (Destination.checkpointName q.name)) = q.taken := by
    rw [Function.update_of_ne (Destination.checkpointName_ne_logName q.name), ha.checkpoint]
    exact hlast
  have hshort : ((Function.update c (Destination.logName q.name) (some (Log.joined bodies ++ (Log.recordOf body).take k))
      (Destination.logName q.name)).getD []).length ≤ Disk.maxFile := by
    rw [hlog]
    exact hmax
  rw [logPath_eq ha.storage, grewBy_iff ha.shows ha.folder.log ha.log hs]
  constructor
  · intro hall
    refine ⟨_, ha.folder, hs, ⟨[], Log.incomplete_nil, ?_⟩, hshort, ?_, hcheckpoint, ?_⟩
    · rw [hlog, Option.getD_some, hall, Log.joined_append, Log.joined_singleton, List.append_nil]
    · intro b hb
      rcases List.mem_append.1 hb with hb | hb
      · exact hm.fit b hb
      · exact List.mem_singleton.1 hb ▸ hbody
    · rw [List.length_append]
      exact Nat.le_add_right_of_le hm.taken_le
  · intro hpart
    refine ⟨_, ha.folder, hs, ⟨_, Log.incomplete_take hbody (lt_length_of_take_ne hpart), ?_⟩, hshort, hm.fit, hcheckpoint,
      hm.taken_le⟩
    rw [hlog, Option.getD_some]

/-- A checkpoint file with a part of a record at its end says what that record does if it was written whole, and otherwise what it
said before. -/
theorem rests_of_torn_checkpoint (hm : q.Mirrors R F c d bodies) (hpending : q.pending ≠ []) {checkpoint : Bytes}
    (ha : q.Attached F c d (Log.joined bodies) checkpoint) (hwhole : Checkpoint.Whole checkpoint)
    (hlast : Checkpoint.last checkpoint = q.taken)
    (ht : Torn F c (Destination.checkpointName q.name) checkpoint (Checkpoint.record (q.taken + 1)) d') :
    (d.GrewBy d' q.checkpointPath (Checkpoint.record (q.taken + 1)) → AtRest F q.name bodies (q.taken + 1) d') ∧
      (¬d.GrewBy d' q.checkpointPath (Checkpoint.record (q.taken + 1)) → AtRest F q.name bodies q.taken d') := by
  obtain ⟨k, hs, -⟩ := ht
  have hlog : Function.update c (Destination.checkpointName q.name)
      (some (checkpoint ++ (Checkpoint.record (q.taken + 1)).take k)) (Destination.logName q.name) =
      some (Log.joined bodies) :=
    (Function.update_of_ne (Destination.checkpointName_ne_logName q.name).symm _ _).trans ha.log
  have hshort : ((Function.update c (Destination.checkpointName q.name)
      (some (checkpoint ++ (Checkpoint.record (q.taken + 1)).take k)) (Destination.logName q.name)).getD []).length ≤
      Disk.maxFile := by
    rw [hlog]
    exact hm.short
  have htaken := hm.taken_lt
  rw [checkpointPath_eq ha.storage, grewBy_iff ha.shows ha.folder.checkpoint ha.checkpoint hs]
  constructor
  · intro hall
    refine ⟨_, ha.folder, hs, ⟨[], Log.incomplete_nil, ?_⟩, hshort, hm.fit, ?_, hm.taken_lt_length hpending⟩
    · rw [hlog, Option.getD_some, List.append_nil]
    · rw [Function.update_self, hall]
      exact hwhole.last_append_record (by omega)
  · intro hpart
    have hk := lt_length_of_take_ne hpart
    rw [Checkpoint.length_record] at hk
    refine ⟨_, ha.folder, hs, ⟨[], Log.incomplete_nil, ?_⟩, hshort, hm.fit, ?_, hm.taken_le⟩
    · rw [hlog, Option.getD_some, List.append_nil]
    · rw [Function.update_self, ← hlast]
      refine hwhole.last_append ?_
      rw [List.length_take]
      omega

end DurableQueue

end QueueBroker

import QueueBroker.Proofs.Runs
import QueueBroker.Storage.FileProgram

/-!
# Failing file operations

`FileOp.perform` answers as a disk does that keeps its promises. Here an operation may also fail for no reason that the disk
shows, and a write may stop after any number of bytes: `FileOp.Answers True` allows all of this, `FileOp.Answers False` only
what the disk does, and of that only what succeeds. `FileOp.Torn` is what a crash may leave of an operation.
-/

namespace QueueBroker

namespace Disk

variable {d : Disk} {e : Errno}

/-- A file that cannot be opened is not made. -/
theorem openFile_of_error {make : Bool} {path : String} (h : (d.openFile make path).1 = .error e) :
    (d.openFile make path).2 = d := by
  unfold openFile at h ⊢
  split at h
  · rfl
  · split at h
    · nomatch h
    · rename_i hmake
      simp only [hmake]
      rfl
  · nomatch h
  · nomatch h
  · rfl

/-- A file that cannot be cut stays as it is. -/
theorem truncate_of_error {file : Handle} {length : Nat} (h : (d.truncate file length).1 = .error e) :
    (d.truncate file length).2 = d := by
  unfold truncate at h ⊢
  split at h
  · rfl
  · dsimp only at h ⊢
    split at h
    · rename_i hlong
      rw [if_pos hlong]
    · nomatch h

end Disk

namespace FileOp

/-- Whether a reply tells of a failure. That a file to be opened is not there is none. -/
def Failed : (op : FileOp) → op.Reply → Prop
  | pathExists _, reply => reply.isOk = false
  | openExisting _, reply => ∃ e, reply = .error e ∧ e ≠ .noEntry
  | openAppend _, reply => reply.isOk = false
  | read _, reply => reply.isOk = false
  | truncate _ _, reply => reply.isOk = false
  | append _ _, reply => reply.isOk = false
  | sync _, reply => reply.isOk = false
  | makeDirectories _, reply => reply.isOk = false

instance Failed.decidable : (op : FileOp) → (reply : op.Reply) → Decidable (op.Failed reply)
  | pathExists _, reply => inferInstanceAs (Decidable (reply.isOk = false))
  | openExisting _, .ok _ => isFalse fun ⟨_, h, _⟩ => nomatch h
  | openExisting _, .error e =>
    if h : e = .noEntry then isFalse fun ⟨_, h1, h2⟩ => h2 (Except.error.inj h1 ▸ h) else isTrue ⟨e, rfl, h⟩
  | openAppend _, reply => inferInstanceAs (Decidable (reply.isOk = false))
  | read _, reply => inferInstanceAs (Decidable (reply.isOk = false))
  | truncate _ _, reply => inferInstanceAs (Decidable (reply.isOk = false))
  | append _ _, reply => inferInstanceAs (Decidable (reply.isOk = false))
  | sync _, reply => inferInstanceAs (Decidable (reply.isOk = false))
  | makeDirectories _, reply => inferInstanceAs (Decidable (reply.isOk = false))

/-- What may have come of an operation that did not get to its end: of a write any part from its beginning, of making
directories any number from the first, and of any other operation nothing. -/
def Torn : FileOp → Disk → Disk → Prop
  | append h bytes, d, d' => ∃ k, d' = (d.append h (bytes.take k)).2
  | makeDirectories path, d, d' =>
    ∃ count ≤ (Disk.names path).length,
      d' = (d.makeFirst (if Disk.isAbsolute path then "/" else "") (Disk.names path) count).2
  | _, d, d' => d' = d

/-- The answers of a disk that keeps its promises. -/
abbrev Performs (op : FileOp) (d : Disk) (reply : op.Reply) (d' : Disk) : Prop :=
  op.perform d = (reply, d')

/-- The answers that an operation may get: what the disk does, when that succeeds, and if there are `faults` also failures. -/
inductive Answers (faults : Prop) : (op : FileOp) → Disk → op.Reply → Disk → Prop where
  | performed {op : FileOp} {d d' : Disk} {reply : op.Reply} :
      op.perform d = (reply, d') → ¬op.Failed reply → Answers faults op d reply d'
  | failed {op : FileOp} {d d' : Disk} {reply : op.Reply} :
      faults → op.Failed reply → op.Torn d d' → Answers faults op d reply d'

/-- Without faults the answer is that of the disk, and it tells of no failure. -/
theorem answers_false_iff {op : FileOp} {d d' : Disk} {reply : op.Reply} :
    Answers False op d reply d' ↔ op.perform d = (reply, d') ∧ ¬op.Failed reply := by
  constructor
  · intro h
    cases h with
    | performed h1 h2 => exact ⟨h1, h2⟩
    | failed h1 => exact h1.elim
  · rintro ⟨h1, h2⟩
    exact .performed h1 h2

/-- What may be answered without faults may be answered anyway. -/
theorem Answers.of_false {faults : Prop} {op : FileOp} {d d' : Disk} {reply : op.Reply} (h : Answers False op d reply d') :
    Answers faults op d reply d' := by
  obtain ⟨hperform, hgood⟩ := answers_false_iff.1 h
  exact .performed hperform hgood

theorem exists_error_of_isOk_eq_false {ε α : Type} {r : Except ε α} (h : r.isOk = false) : ∃ e, r = .error e := by
  cases r with
  | ok a => nomatch h
  | error e => exact ⟨e, rfl⟩

/-- A disk that keeps its promises is one of those that may fail: what it does may be answered. -/
theorem answers_perform (op : FileOp) (d : Disk) : Answers True op d (op.perform d).1 (op.perform d).2 := by
  by_cases hfailed : op.Failed (op.perform d).1
  · refine .failed trivial hfailed ?_
    cases op with
    | pathExists path => rfl
    | read h => rfl
    | sync h => rfl
    | makeDirectories path => exact ⟨_, Nat.le_refl _, rfl⟩
    | append h bytes => exact ⟨bytes.length, by rw [List.take_length]; rfl⟩
    | openExisting path =>
      obtain ⟨e, he, -⟩ := hfailed
      exact Disk.openFile_of_error he
    | openAppend path =>
      obtain ⟨e, he⟩ := exists_error_of_isOk_eq_false hfailed
      exact Disk.openFile_of_error he
    | truncate h length =>
      obtain ⟨e, he⟩ := exists_error_of_isOk_eq_false hfailed
      exact Disk.truncate_of_error he
  · exact .performed rfl hfailed

/-- Where an operation can be stopped: before it, on the way, or when the disk has performed it. -/
theorem of_cut_request {faults : Prop} {op : FileOp} {d d' : Disk}
    (h : Program.Cut (Answers faults) Torn (Program.request op : FileProgram op.Reply) d d') :
    d' = d ∨ op.Torn d d' ∨ d' = (op.perform d).2 := by
  rcases Program.Cut.of_request h with hd | ht | ⟨reply, ha⟩
  · exact Or.inl hd
  · exact Or.inr (Or.inl ht)
  · cases ha with
    | performed hp _ => exact Or.inr (Or.inr (congrArg Prod.snd hp).symm)
    | failed _ _ ht => exact Or.inr (Or.inl ht)

/-- An operation that is done at once or not at all keeps what holds before it and after. -/
theorem keeps_request {faults : Prop} {op : FileOp} {d : Disk} {I : Disk → Prop} (htorn : ∀ d', op.Torn d d' → d' = d) (h0 : I d)
    (h1 : I (op.perform d).2) :
    ∀ d', Program.Cut (Answers faults) Torn (Program.request op : FileProgram op.Reply) d d' → I d' := by
  intro d' hcut
  rcases of_cut_request hcut with rfl | ht | rfl
  · exact h0
  · exact htorn d' ht ▸ h0
  · exact h1

end FileOp

namespace FileProgram

variable {α : Type}

/-- A run of a file program in which no operation fails. -/
abbrev Undisturbed (p : FileProgram α) (d : Disk) : Prop :=
  p.AllAnswers FileOp.perform (fun op reply => ¬op.Failed reply) d

/-- A program that meets no failure has a run without faults. -/
theorem Undisturbed.runs {p : FileProgram α} {d : Disk} (h : p.Undisturbed d) :
    p.Runs (FileOp.Answers False) d (p.run d).1 (p.run d).2 :=
  Program.AllAnswers.runs (fun _ _ hgood => .performed rfl hgood) h

/-- What a program comes to when it meets no failure is what a run without faults comes to. -/
theorem Undisturbed.runs_of_eq {p : FileProgram α} {d d' : Disk} {a : α} (h : p.Undisturbed d) (hrun : p.run d = (a, d')) :
    p.Runs (FileOp.Answers False) d a d' := by
  have hr := h.runs
  rw [hrun] at hr
  exact hr

/-- The runs on a disk that keeps its promises: there is one. -/
theorem runs_performs_iff {p : FileProgram α} {d d' : Disk} {a : α} :
    p.Runs FileOp.Performs d a d' ↔ p.run d = (a, d') := by
  constructor
  · exact Program.Runs.run_eq fun _ _ _ _ h => h
  · intro h
    have hr : p.Runs FileOp.Performs d (p.run d).1 (p.run d).2 := Program.runs_run (fun _ _ => rfl) p d
    rw [h] at hr
    exact hr

/-- What a program comes to on a disk is what a run comes to in which operations may fail. -/
theorem runs_run (p : FileProgram α) (d : Disk) : p.Runs (FileOp.Answers True) d (p.run d).1 (p.run d).2 :=
  Program.runs_run FileOp.answers_perform p d

end FileProgram

namespace FileAttempt

variable {ε α β : Type} {answers : (op : FileOp) → Disk → op.Reply → Disk → Prop} {d d' : Disk}

@[simp] theorem runs_pure_iff {a : α} {r : Except ε α} :
    Program.Runs answers (pure a : FileAttempt ε α).run d r d' ↔ r = .ok a ∧ d' = d :=
  Program.runs_done_iff

@[simp] theorem runs_throw_iff {e : ε} {r : Except ε α} :
    Program.Runs answers (throw e : FileAttempt ε α).run d r d' ↔ r = .error e ∧ d' = d :=
  Program.runs_done_iff

/-- A run of two attempts in sequence ends with the first if that fails. -/
theorem runs_bind_iff {x : FileAttempt ε α} {f : α → FileAttempt ε β} {r : Except ε β} :
    Program.Runs answers (x >>= f).run d r d' ↔
      (∃ a d₁, Program.Runs answers x.run d (.ok a) d₁ ∧ Program.Runs answers (f a).run d₁ r d') ∨
        ∃ e, Program.Runs answers x.run d (.error e) d' ∧ r = .error e := by
  rw [ExceptT.run_bind, Program.runs_bind_iff]
  constructor
  · rintro ⟨a, d₁, h1, h2⟩
    cases a with
    | ok a => exact Or.inl ⟨a, d₁, h1, h2⟩
    | error e =>
      obtain ⟨rfl, rfl⟩ := Program.runs_pure_iff.1 h2
      exact Or.inr ⟨e, h1, rfl⟩
  · rintro (⟨a, d₁, h1, h2⟩ | ⟨e, h1, rfl⟩)
    · exact ⟨.ok a, d₁, h1, h2⟩
    · exact ⟨.error e, d', h1, Program.runs_pure_iff.2 ⟨rfl, rfl⟩⟩

/-- Looking at the failure of an attempt makes it a result. -/
theorem runs_lift_iff {p : FileProgram α} {r : Except ε α} :
    Program.Runs answers (ExceptT.lift p : FileAttempt ε α).run d r d' ↔ ∃ a, Program.Runs answers p d a d' ∧ r = .ok a := by
  change Program.Runs answers (p >>= fun a => pure (.ok a)) d r d' ↔ _
  rw [Program.runs_bind_iff]
  constructor
  · rintro ⟨a, d₁, h1, h2⟩
    obtain ⟨rfl, rfl⟩ := Program.runs_pure_iff.1 h2
    exact ⟨a, h1, rfl⟩
  · rintro ⟨a, h1, rfl⟩
    exact ⟨a, d', h1, Program.runs_pure_iff.2 ⟨rfl, rfl⟩⟩

/-- Naming the file changes a failure only. -/
theorem runs_storage_iff {action : FileAction} {path : String} {p : FileAttempt Errno α} {r : Except BrokerError α} :
    Program.Runs answers (p.storage action path).run d r d' ↔
      ∃ r₀, Program.Runs answers p.run d r₀ d' ∧ r = r₀.mapError fun cause => .storage (.file action path cause) := by
  change Program.Runs answers (p.run >>= fun r₀ => pure (r₀.mapError _)) d r d' ↔ _
  rw [Program.runs_bind_iff]
  constructor
  · rintro ⟨r₀, d₁, h1, h2⟩
    obtain ⟨rfl, rfl⟩ := Program.runs_pure_iff.1 h2
    exact ⟨r₀, h1, rfl⟩
  · rintro ⟨r₀, h1, rfl⟩
    exact ⟨r₀, d', h1, Program.runs_pure_iff.2 ⟨rfl, rfl⟩⟩

/-! ## What attempts attain -/

/-- Every run of an attempt ends with a result and a disk that satisfy `Q`, or fails; without faults none fails. -/
def Attains (faults : Prop) (p : FileAttempt ε α) (d : Disk) (Q : α → Disk → Prop) : Prop :=
  ∀ r d', p.run.Runs (FileOp.Answers faults) d r d' → (∃ a, r = .ok a ∧ Q a d') ∨ (faults ∧ ∃ e, r = .error e)

variable {faults : Prop} {p : FileAttempt ε α} {Q : α → Disk → Prop}

theorem Attains.pure {a : α} (h : Q a d) : Attains faults (pure a : FileAttempt ε α) d Q := by
  intro r d' hr
  obtain ⟨rfl, rfl⟩ := runs_pure_iff.1 hr
  exact Or.inl ⟨a, rfl, h⟩

theorem Attains.bind {f : α → FileAttempt ε β} {R : β → Disk → Prop} (h1 : Attains faults p d Q)
    (h2 : ∀ a d', Q a d' → Attains faults (f a) d' R) : Attains faults (p >>= f) d R := by
  intro r d' hr
  rcases runs_bind_iff.1 hr with ⟨a, d₁, hp, hf⟩ | ⟨e, hp, rfl⟩
  · rcases h1 _ _ hp with ⟨a', heq, hq⟩ | ⟨-, e, he⟩
    · cases heq
      exact h2 a d₁ hq r d' hf
    · cases he
  · rcases h1 _ _ hp with ⟨a, heq, -⟩ | ⟨hfaults, -⟩
    · cases heq
    · exact Or.inr ⟨hfaults, e, rfl⟩

theorem Attains.mono {R : α → Disk → Prop} (h : Attains faults p d Q) (hsub : ∀ a d', Q a d' → R a d') :
    Attains faults p d R := by
  intro r d' hr
  rcases h r d' hr with ⟨a, rfl, hq⟩ | herror
  · exact Or.inl ⟨a, rfl, hsub a d' hq⟩
  · exact Or.inr herror

theorem Attains.storage {p : FileAttempt Errno α} {action : FileAction} {path : String} (h : Attains faults p d Q) :
    Attains faults (p.storage action path) d Q := by
  intro r d' hr
  obtain ⟨r₀, hrun, rfl⟩ := runs_storage_iff.1 hr
  rcases h r₀ d' hrun with ⟨a, rfl, hq⟩ | ⟨hfaults, e, rfl⟩
  · exact Or.inl ⟨a, rfl, hq⟩
  · exact Or.inr ⟨hfaults, _, rfl⟩

/-- An attempt that attains something has a result when nothing fails. -/
theorem Attains.exists_of_not (h : Attains faults p d Q) (hf : ¬faults) {r : Except ε α} {d' : Disk}
    (hr : p.run.Runs (FileOp.Answers faults) d r d') : ∃ a, r = .ok a ∧ Q a d' :=
  (h r d' hr).resolve_right fun herror => hf herror.1

/-! ## Attempts in which nothing fails -/

/-- A run of an attempt to a result, in which no operation fails. -/
abbrev Succeeds (p : FileAttempt ε α) (d : Disk) (a : α) (d' : Disk) : Prop :=
  p.run.Runs (FileOp.Answers False) d (.ok a) d'

theorem succeeds_pure (a : α) (d : Disk) : Succeeds (pure a : FileAttempt ε α) d a d :=
  runs_pure_iff.2 ⟨rfl, rfl⟩

theorem Succeeds.bind {f : α → FileAttempt ε β} {a : α} {b : β} {d₁ : Disk} (h1 : Succeeds p d a d₁)
    (h2 : Succeeds (f a) d₁ b d') : Succeeds (p >>= f) d b d' :=
  runs_bind_iff.2 (Or.inl ⟨a, d₁, h1, h2⟩)

theorem Succeeds.storage {p : FileAttempt Errno α} {action : FileAction} {path : String} {a : α} (h : Succeeds p d a d') :
    Succeeds (p.storage action path) d a d' :=
  runs_storage_iff.2 ⟨_, h, rfl⟩

/-- Without faults there is one run. -/
theorem Succeeds.runs_iff {a : α} (h : Succeeds p d a d') {r : Except ε α} {d₁ : Disk} :
    p.run.Runs (FileOp.Answers False) d r d₁ ↔ r = .ok a ∧ d₁ = d' := by
  constructor
  · intro hr
    have hperform (op : FileOp) (d : Disk) (reply : op.Reply) (d' : Disk) (ha : FileOp.Answers False op d reply d') :
        op.perform d = (reply, d') := (FileOp.answers_false_iff.1 ha).1
    have h1 := Program.Runs.run_eq hperform hr
    have h2 := Program.Runs.run_eq hperform h
    exact Prod.mk.inj (h1.symm.trans h2)
  · rintro ⟨rfl, rfl⟩
    exact h

/-! ## What attempts keep -/

/-- Wherever a run of an attempt is stopped, at its end or before, the disk satisfies `I`. -/
def Keeps (faults : Prop) (p : FileAttempt ε α) (d : Disk) (I : Disk → Prop) : Prop :=
  ∀ d', p.run.Cut (FileOp.Answers faults) FileOp.Torn d d' → I d'

variable {I : Disk → Prop}

theorem Keeps.pure {a : α} (h : I d) : Keeps faults (pure a : FileAttempt ε α) d I :=
  fun _ hcut => (Program.Cut.of_pure hcut).symm ▸ h

theorem Keeps.throw {e : ε} (h : I d) : Keeps faults (throw e : FileAttempt ε α) d I :=
  fun _ hcut => (Program.Cut.of_pure hcut).symm ▸ h

/-- Two attempts in sequence keep what the first keeps, and the second after every result of the first. -/
theorem Keeps.bind_runs {f : α → FileAttempt ε β} (h1 : Keeps faults p d I)
    (h2 : ∀ a d', p.run.Runs (FileOp.Answers faults) d (.ok a) d' → Keeps faults (f a) d' I) : Keeps faults (p >>= f) d I := by
  intro d' hcut
  rw [ExceptT.run_bind] at hcut
  rcases hcut.of_bind with hp | ⟨r, d₁, hp, hf⟩
  · exact h1 d' hp
  · cases r with
    | ok a => exact h2 a d₁ hp d' hf
    | error e =>
      rw [Program.Cut.of_pure hf]
      exact h1 d₁ hp.cut

theorem Keeps.bind {f : α → FileAttempt ε β} (h1 : Keeps faults p d I) (hq : Attains faults p d Q)
    (h2 : ∀ a d', Q a d' → Keeps faults (f a) d' I) : Keeps faults (p >>= f) d I := by
  refine h1.bind_runs fun a d' hr => ?_
  rcases hq _ _ hr with ⟨a', heq, ha⟩ | ⟨-, e, heq⟩
  · cases heq
    exact h2 a d' ha
  · cases heq

theorem Keeps.storage {p : FileAttempt Errno α} {action : FileAction} {path : String} (h : Keeps faults p d I) :
    Keeps faults (p.storage action path) d I := by
  intro d' hcut
  change Program.Cut _ _ (p.run >>= fun r => Pure.pure (r.mapError _)) d d' at hcut
  rcases hcut.of_bind with hp | ⟨r, d₁, hp, hf⟩
  · exact h d' hp
  · rw [Program.Cut.of_pure hf]
    exact h d₁ hp.cut

theorem Keeps.lift {p : FileAttempt Errno α} (h : Keeps faults p d I) :
    Keeps faults (ExceptT.lift p.run : FileAttempt ε (Except Errno α)) d I := by
  intro d' hcut
  change Program.Cut _ _ (p.run >>= fun r => Pure.pure (Except.ok r : Except ε (Except Errno α))) d d' at hcut
  rcases hcut.of_bind with hp | ⟨r, d₁, hp, hf⟩
  · exact h d' hp
  · rw [Program.Cut.of_pure hf]
    exact h d₁ hp.cut

end FileAttempt

end QueueBroker

import QueueBroker.Proofs.Storage.Confinement

/-!
# Failures that are reported

Beside a program that works on files it can be noted whether one of its operations failed. `FileOp.Watched` does so, and
`FileAttempt.Reports` says of an attempt that it keeps nothing back: it ends with an error if an operation failed, and only then. That
a file to be opened is not there counts as no failure, so an attempt that needs the file must know that it is there.
-/

namespace QueueBroker

namespace Disk

variable {d d' d'' : Disk} {path : String}

/-- Whether paths lead where they led. -/
def SamePaths (d d' : Disk) : Prop :=
  ∀ path, d'.resolve true path = d.resolve true path

theorem SamePaths.refl (d : Disk) : d.SamePaths d :=
  fun _ => rfl

theorem SamePaths.trans (h : d.SamePaths d') (h' : d'.SamePaths d'') : d.SamePaths d'' :=
  fun path => (h' path).trans (h path)

theorem SamePaths.pathExists_eq (h : d.SamePaths d') (path : String) : d'.pathExists path = d.pathExists path := by
  rw [pathExists, pathExists, h path]

theorem samePaths_truncate (d : Disk) (h : Handle) (length : Nat) : d.SamePaths (d.truncate h length).2 := by
  rw [truncate.eq_def]
  split
  · exact .refl d
  · dsimp only
    split
    · exact .refl d
    · exact resolve_setContent d true _ _

/-- What is there to be opened is not missing. -/
theorem openFile_of_pathExists (h : d.pathExists path = .ok true) :
    ∃ result, d.openFile false path = (result, d) ∧ result ≠ .error .noEntry := by
  rw [pathExists] at h
  rw [openFile]
  cases hfound : d.resolve true path with
  | error e =>
    rw [hfound] at h
    dsimp only at h
    split at h <;> cases h
  | ok found =>
    rw [hfound] at h
    cases found with
    | missing place => cases h
    | node place node => cases node <;> exact ⟨_, rfl, by rintro ⟨⟩⟩

end Disk

namespace FileOp

variable {op : FileOp} {d d' : Disk} {reply : op.Reply} {faults : Prop}

/-- An answer that tells of no failure is that of the disk. -/
theorem Answers.perform_eq (h : Answers faults op d reply d') (hgood : ¬op.Failed reply) : op.perform d = (reply, d') := by
  cases h with
  | performed hperform => exact hperform
  | failed _ hfailed => exact absurd hfailed hgood

/-- The answers that an operation may get, while it is noted whether one told of a failure. -/
def Watched (op : FileOp) (s : Disk × Bool) (reply : op.Reply) (s' : Disk × Bool) : Prop :=
  op.Answers True s.1 reply s'.1 ∧ s'.2 = (s.2 || decide (op.Failed reply))

end FileOp

namespace FileProgram

variable {α β : Type} {d d' : Disk} {failed failed' : Bool} {a : α} {Q : α → Disk → Bool → Prop}

/-- Every run of a program, with failing operations or without, ends with a result and a disk that satisfy `Q`, given whether an
operation failed so far. -/
def Watches (p : FileProgram α) (d : Disk) (failed : Bool) (Q : α → Disk → Bool → Prop) : Prop :=
  p.Guarded (fun _ _ => True) (fun s op reply s' => op.Watched s reply s') (d, failed) fun a s' => Q a s'.1 s'.2

theorem Watches.pure (h : Q a d failed) : Watches (pure a) d failed Q :=
  h

theorem Watches.mono {p : FileProgram α} {R : α → Disk → Bool → Prop} (h : p.Watches d failed R)
    (hsub : ∀ a d' failed', R a d' failed' → Q a d' failed') : p.Watches d failed Q :=
  Program.Guarded.mono h fun a s' => hsub a s'.1 s'.2

theorem watches_bind_iff {p : FileProgram β} {f : β → FileProgram α} :
    (p >>= f).Watches d failed Q ↔ p.Watches d failed fun b d' failed' => (f b).Watches d' failed' Q :=
  Program.guarded_bind_iff

theorem Watches.bind {p : FileProgram β} {f : β → FileProgram α}
    (h : p.Watches d failed fun b d' failed' => (f b).Watches d' failed' Q) : (p >>= f).Watches d failed Q :=
  watches_bind_iff.2 h

theorem Watches.request {op : FileOp} {Q : op.Reply → Disk → Bool → Prop}
    (h : ∀ reply d', op.Answers True d reply d' → Q reply d' (failed || decide (op.Failed reply))) :
    Watches (Program.request op) d failed Q := by
  refine Program.Guarded.request trivial fun reply s' hwatched => ?_
  obtain ⟨hanswers, hfailed⟩ := hwatched
  rw [hfailed]
  exact h reply s'.1 hanswers

/-- A failure is not forgotten. -/
theorem watches_failed (p : FileProgram α) (d : Disk) : p.Watches d true fun _ _ failed => failed = true := by
  induction p generalizing d with
  | done a => exact rfl
  | ask op next ih =>
    refine ⟨trivial, ?_⟩
    rintro reply ⟨d', failed'⟩ ⟨-, hfailed⟩
    obtain rfl : failed' = true := hfailed
    exact ih reply d'

theorem Watches.of_runs {p : FileProgram α} (h : p.Watches d failed Q) (hr : p.Runs FileOp.Watched (d, failed) a (d', failed')) :
    Q a d' failed' :=
  Program.Guarded.of_runs (fun s : Disk × Bool => s) (fun _ _ _ _ hwatched => hwatched) h hr

/-- Every run can be watched. -/
theorem exists_watched {p : FileProgram α} (hr : p.Runs (FileOp.Answers True) d a d') (failed : Bool) :
    ∃ failed', p.Runs FileOp.Watched (d, failed) a (d', failed') :=
  hr.exists_beside (fun (op : FileOp) (reply : op.Reply) failed => failed || decide (op.Failed reply)) failed

/-- In a run without failures none is noted. -/
theorem watched_of_false {p : FileProgram α} (hr : p.Runs (FileOp.Answers False) d a d') :
    p.Runs FileOp.Watched (d, false) a (d', false) := by
  induction hr with
  | done a d => exact .done a (d, false)
  | @ask op next d d₁ d' reply a hans _ ih =>
    have hgood := (FileOp.answers_false_iff.1 hans).2
    have hwatched : FileOp.Watched op (d, false) reply (d₁, false) := ⟨hans.of_false, (decide_eq_false hgood).symm⟩
    exact .ask hwatched ih

end FileProgram

namespace FileAttempt

variable {ε α β : Type} {d d' : Disk} {E : ε → Prop} {Q : α → Disk → Prop} {path : String} {h : Handle}

/-- How an attempt ends that keeps nothing back: with a result if no operation failed, with an error if one did. -/
inductive Reported (E : ε → Prop) (Q : α → Disk → Prop) : Except ε α → Disk → Bool → Prop where
  | result {a : α} {d : Disk} : Q a d → Reported E Q (.ok a) d false
  | failure {e : ε} {d : Disk} : E e → Reported E Q (.error e) d true

/-- Every run of an attempt ends with a result and a disk that satisfy `Q` if no operation failed, and with an error that satisfies
`E` if one did. -/
def Reports (E : ε → Prop) (p : FileAttempt ε α) (d : Disk) (Q : α → Disk → Prop) : Prop :=
  FileProgram.Watches p.run d false (Reported E Q)

theorem Reports.pure {a : α} (h : Q a d) : Reports E (pure a : FileAttempt ε α) d Q :=
  FileProgram.Watches.pure (.result h)

theorem Reports.bind {p : FileAttempt ε β} {f : β → FileAttempt ε α} (h : Reports E p d fun b d' => Reports E (f b) d' Q) :
    Reports E (p >>= f) d Q := by
  rw [Reports, ExceptT.run_bind]
  refine FileProgram.Watches.bind (h.mono fun r d' failed hr => ?_)
  cases hr with
  | result hnext => exact hnext
  | failure he => exact FileProgram.Watches.pure (.failure he)

theorem Reports.mono {p : FileAttempt ε α} {R : α → Disk → Prop} (h : Reports E p d R) (hsub : ∀ a d', R a d' → Q a d') :
    Reports E p d Q := by
  refine FileProgram.Watches.mono h fun r d' failed hr => ?_
  cases hr with
  | result hq => exact .result (hsub _ _ hq)
  | failure he => exact .failure he

/-- Whether an error is that of the files of a queue. -/
def OfStorage (e : BrokerError) : Prop :=
  ∃ fault, e = .storage fault

/-- Naming the file makes a failure one of the files of a queue. -/
theorem Reports.storage {E : Errno → Prop} {p : FileAttempt Errno α} {action : FileAction} (h : Reports E p d Q) :
    Reports OfStorage (p.storage action path) d Q := by
  change FileProgram.Watches (p.run >>= fun r => Pure.pure (r.mapError _)) d false _
  refine FileProgram.Watches.bind (FileProgram.Watches.mono h fun r d' failed hr => FileProgram.Watches.pure ?_)
  cases hr with
  | result hq => exact .result hq
  | failure _ => exact .failure ⟨_, rfl⟩

/-! ## Single operations -/

/-- An operation that fails whenever it has no result. -/
theorem reported_of_result {reply : Except Errno α} (h : ∀ a, reply = .ok a → Q a d) :
    Reported (fun _ => True) Q reply d (false || decide (reply.isOk = false)) := by
  cases reply with
  | ok a => exact .result (h a rfl)
  | error e => exact .failure trivial

theorem reports_pathExists (path : String) :
    Reports (fun _ => True) (pathExists path) d fun found d' => d' = d ∧ d.pathExists path = .ok found := by
  refine FileProgram.Watches.request fun reply d' hans => reported_of_result fun found heq => ?_
  subst heq
  obtain ⟨hfound, rfl⟩ := Prod.mk.inj (hans.perform_eq nofun)
  exact ⟨rfl, hfound⟩

theorem reports_openAppend (path : String) : Reports (fun _ => True) (openAppend path) d fun _ _ => True :=
  FileProgram.Watches.request fun _ _ _ => reported_of_result fun _ _ => trivial

theorem reports_makeDirectories (path : String) : Reports (fun _ => True) (makeDirectories path) d fun _ _ => True :=
  FileProgram.Watches.request fun _ _ _ => reported_of_result fun _ _ => trivial

theorem reports_read (h : Handle) : Reports (fun _ => True) (read h) d fun _ d' => d' = d := by
  refine FileProgram.Watches.request fun reply d' hans => reported_of_result fun bytes heq => ?_
  subst heq
  exact (Prod.mk.inj (hans.perform_eq nofun)).2.symm

theorem reports_truncate (h : Handle) (length : Nat) :
    Reports (fun _ => True) (truncate h length) d fun _ d' => d.SamePaths d' := by
  refine FileProgram.Watches.request fun reply d' hans => reported_of_result fun _ heq => ?_
  subst heq
  obtain rfl : (d.truncate h length).2 = d' := congrArg Prod.snd (hans.perform_eq nofun)
  exact Disk.samePaths_truncate d h length

theorem reports_append (h : Handle) (bytes : Bytes) : Reports (fun _ => True) (append h bytes) d fun _ _ => True :=
  FileProgram.Watches.request fun _ _ _ => reported_of_result fun _ _ => trivial

theorem reports_sync (h : Handle) : Reports (fun _ => True) (sync h) d fun _ _ => True :=
  FileProgram.Watches.request fun _ _ _ => reported_of_result fun _ _ => trivial

/-- A file that is there is opened unless that fails. -/
theorem reports_openExisting (hthere : d.pathExists path = .ok true) :
    Reports (fun _ => True) (openExisting path) d fun _ d' => d' = d := by
  obtain ⟨result, hopen, hne⟩ := Disk.openFile_of_pathExists hthere
  refine FileProgram.Watches.request fun reply d' hans => ?_
  cases reply with
  | ok h =>
    have hperform : d.openFile false path = (.ok h, d') := hans.perform_eq (by rintro ⟨_, ⟨⟩, _⟩)
    exact .result (Prod.mk.inj (hperform.symm.trans hopen)).2
  | error e =>
    have hfailed : (FileOp.openExisting path).Failed (.error e) := by
      refine ⟨e, rfl, ?_⟩
      rintro rfl
      have hperform : d.openFile false path = (.error .noEntry, d') := hans.perform_eq (by rintro ⟨_, ⟨⟩, hne⟩; exact hne rfl)
      exact hne (Prod.mk.inj (hopen.symm.trans hperform)).1
    rw [decide_eq_true hfailed]
    exact .failure trivial

theorem reports_appendRecord (h : Handle) (bytes : Bytes) (durable : Bool) :
    Reports (fun _ => True) (appendRecord h bytes durable) d fun _ _ => True := by
  refine Reports.bind ((reports_append h bytes).mono fun _ d' _ => ?_)
  cases durable with
  | false => exact Reports.pure trivial
  | true => exact reports_sync h

/-- A file that is there is cut, and opened again. -/
theorem reports_resetTo (hthere : d.pathExists path = .ok true) (length : Nat) :
    Reports (fun _ => True) (resetTo path length) d fun _ _ => True := by
  refine Reports.bind ((reports_openExisting hthere).mono fun h d' hsame => ?_)
  subst hsame
  refine Reports.bind ((reports_truncate h length).mono fun _ d' hpaths => ?_)
  have hthere' : d'.pathExists path = .ok true := (hpaths.pathExists_eq path).trans hthere
  exact (reports_openExisting hthere').mono fun _ _ _ => trivial

end FileAttempt

end QueueBroker

import QueueBroker.Proofs.Storage.Handles
import QueueBroker.Proofs.Storage.Reports

/-!
# Entries that stay

Most operations on files change what is in them and leave the entries of the directories alone; only `FileOp.openAppend` makes a file,
and `FileOp.makeDirectories` directories. `FileProgram.MakesNothing` says of a program that it asks for neither, and `Disk.Fills` what
opening a file does to the entries if it may have to be made.
-/

namespace QueueBroker

namespace Disk

variable {d d' d'' : Disk} {path : String} {place : Place} {opened : Bool}

/-- Whether two disks have the same entries. What is in the files may differ. -/
structure SameEntries (d d' : Disk) : Prop where
  nodes : d'.nodes = d.nodes
  home : d'.home = d.home
  count : d'.files.length = d.files.length

theorem SameEntries.refl (d : Disk) : d.SameEntries d :=
  ⟨rfl, rfl, rfl⟩

theorem SameEntries.trans (h : d.SameEntries d') (h' : d'.SameEntries d'') : d.SameEntries d'' :=
  ⟨h'.nodes.trans h.nodes, h'.home.trans h.home, h'.count.trans h.count⟩

theorem sameEntries_setContent (d : Disk) (id : Nat) (bytes : Bytes) : d.SameEntries (d.setContent id bytes) :=
  ⟨rfl, rfl, List.length_set⟩

/-- Who opens what is there makes nothing. -/
theorem sameEntries_openFile (d : Disk) (path : String) : d.SameEntries (d.openFile false path).2 := by
  unfold openFile
  split <;> exact .refl d

theorem sameEntries_truncate (d : Disk) (h : Handle) (length : Nat) : d.SameEntries (d.truncate h length).2 := by
  unfold truncate
  split
  · exact .refl d
  · dsimp only
    split
    · exact .refl d
    · exact sameEntries_setContent d _ _

theorem sameEntries_append (d : Disk) (h : Handle) (bytes : Bytes) : d.SameEntries (d.append h bytes).2 := by
  unfold append
  split
  · exact .refl d
  · exact .refl d
  · exact sameEntries_setContent d _ _

/-- The same entries stand at the same places, -/
theorem SameEntries.node?_eq (h : d.SameEntries d') (place : Place) : d'.node? place = d.node? place := by
  simp only [node?, h.nodes]

/-- and paths lead to the same of them. -/
theorem SameEntries.resolve_eq (h : d.SameEntries d') (path : String) : d'.resolve true path = d.resolve true path :=
  resolve_congr d d' h.node?_eq h.home true path

theorem SameEntries.samePaths (h : d.SameEntries d') : d.SamePaths d' :=
  h.resolve_eq

/-- A file is made from the entries alone. -/
theorem SameEntries.create (h : d.SameEntries d') (place : Place) : (d.create place).2.SameEntries (d'.create place).2 := by
  refine ⟨?_, h.home, ?_⟩
  · simp [Disk.create, setNode, h.nodes, h.count]
  · simp [Disk.create, setNode, h.count]

/-- What opening a file does to the entries, given whether it was opened: nothing, unless nothing is there to be opened. Then the file is
made, and is opened only if it was. -/
inductive Fills (d : Disk) (path : String) (opened : Bool) (d' : Disk) : Prop where
  | kept : d.SameEntries d' → (opened = true → ∀ place, d.resolve true path ≠ .ok (.missing place)) → Fills d path opened d'
  | made {place : Place} : d.resolve true path = .ok (.missing place) → (d.create place).2.SameEntries d' → Fills d path opened d'

theorem Fills.of_sameEntries (h : d.SameEntries d') : d.Fills path false d' :=
  .kept h nofun

/-- What is done to the contents before changes nothing of this, -/
theorem Fills.after (h : d'.Fills path opened d'') (hsame : d.SameEntries d') : d.Fills path opened d'' := by
  cases h with
  | kept hkept hthere =>
    refine .kept (hsame.trans hkept) fun hopened place => ?_
    rw [← hsame.resolve_eq path]
    exact hthere hopened place
  | made hmissing hmade =>
    rw [hsame.resolve_eq path] at hmissing
    exact .made hmissing ((hsame.create _).trans hmade)

/-- and neither does what is done to them afterwards, whether it succeeds or fails. -/
theorem Fills.before {done : Bool} (h : d.Fills path opened d') (hsame : d'.SameEntries d'') (hdone : done = true → opened = true) :
    d.Fills path done d'' := by
  cases h with
  | kept hkept hthere => exact .kept (hkept.trans hsame) fun h => hthere (hdone h)
  | made hmissing hmade => exact .made hmissing (hmade.trans hsame)

/-- What is there need not be made. -/
theorem Fills.sameEntries (h : d.Fills path opened d') (hthere : d.pathExists path = .ok true) : d.SameEntries d' := by
  cases h with
  | kept hkept _ => exact hkept
  | made hmissing _ =>
    rw [pathExists, hmissing] at hthere
    cases hthere

theorem fills_openFile (d : Disk) (path : String) : d.Fills path (d.openFile true path).1.isOk (d.openFile true path).2 := by
  unfold openFile
  split
  · exact .of_sameEntries (.refl d)
  · rename_i place hmissing
    exact .made hmissing (.refl _)
  all_goals
    rename_i hfound
    refine .kept (.refl d) fun _ place hmissing => ?_
    rw [hfound] at hmissing
    cases hmissing

end Disk

namespace FileOp

variable {op : FileOp} {d d' : Disk} {reply : op.Reply} {faults : Prop}

/-- Whether an operation may make an entry. -/
def Makes : FileOp → Prop
  | openAppend _ => True
  | makeDirectories _ => True
  | pathExists _ | openExisting _ | read _ | truncate _ _ | append _ _ | sync _ => False

theorem Answers.sameEntries (h : Answers faults op d reply d') (hop : ¬op.Makes) : d.SameEntries d' := by
  cases h with
  | performed hperform _ =>
    obtain rfl : (op.perform d).2 = d' := congrArg Prod.snd hperform
    cases op with
    | pathExists path | read h | sync h => exact .refl d
    | truncate h length => exact d.sameEntries_truncate h length
    | append h bytes => exact d.sameEntries_append h bytes
    | openExisting path => exact d.sameEntries_openFile path
    | openAppend path | makeDirectories path => exact absurd trivial hop
  | failed _ _ htorn =>
    cases op with
    | append h bytes =>
      obtain ⟨k, rfl⟩ := htorn
      exact d.sameEntries_append h _
    | pathExists path | openExisting path | read h | truncate h length | sync h =>
      obtain rfl : d' = d := htorn
      exact .refl d'
    | openAppend path | makeDirectories path => exact absurd trivial hop

end FileOp

namespace FileProgram

variable {α β : Type} {d d' : Disk} {a : α}

/-- Whatever it is answered, a program asks for nothing that may make an entry. -/
def MakesNothing (p : FileProgram α) : Prop :=
  p.Guarded (fun (_ : Unit) op => ¬op.Makes) (fun _ _ _ _ => True) () fun _ _ => True

theorem makesNothing_pure (a : α) : MakesNothing (pure a) :=
  trivial

theorem MakesNothing.bind {p : FileProgram β} {f : β → FileProgram α} (h : p.MakesNothing) (hf : ∀ b, (f b).MakesNothing) :
    MakesNothing (p >>= f) :=
  Program.Guarded.bind (Program.Guarded.mono h fun b _ _ => hf b)

theorem makesNothing_request {op : FileOp} (hop : ¬op.Makes) : MakesNothing (Program.request op) :=
  Program.Guarded.request hop fun _ _ _ => trivial

/-- A program that makes nothing leaves the entries what they are. -/
theorem MakesNothing.sameEntries {p : FileProgram α} (h : p.MakesNothing) {faults : Prop} (hr : p.Runs (FileOp.Answers faults) d a d') :
    d.SameEntries d' := by
  induction hr with
  | done a d => exact .refl d
  | ask hans _ ih => exact (hans.sameEntries h.1).trans (ih (h.2 _ () trivial))

/-- What holds at the end of every run is seen by who watches the program. -/
theorem watches_of_runs {p : FileProgram α} {failed : Bool} {Q : α → Disk → Prop}
    (h : ∀ a d', p.Runs (FileOp.Answers True) d a d' → Q a d') : p.Watches d failed fun a d' _ => Q a d' := by
  induction p generalizing d failed with
  | done a => exact h a d (.done a d)
  | ask op next ih =>
    refine ⟨trivial, ?_⟩
    rintro reply ⟨d₁, failed₁⟩ ⟨hans, -⟩
    exact ih reply fun a d' hr => h a d' (.ask hans hr)

end FileProgram

namespace FileAttempt

variable {ε α β : Type} {d d' : Disk} {path : String} {h : Handle}

/-- An attempt makes nothing if its program does not. -/
abbrev MakesNothing (p : FileAttempt ε α) : Prop :=
  FileProgram.MakesNothing p.run

theorem makesNothing_pure (a : α) : MakesNothing (pure a : FileAttempt ε α) :=
  trivial

theorem makesNothing_throw (e : ε) : MakesNothing (throw e : FileAttempt ε α) :=
  trivial

theorem MakesNothing.bind {p : FileAttempt ε β} {f : β → FileAttempt ε α} (hp : MakesNothing p) (hf : ∀ b, MakesNothing (f b)) :
    MakesNothing (p >>= f) := by
  unfold MakesNothing
  rw [ExceptT.run_bind]
  refine FileProgram.MakesNothing.bind hp fun r => ?_
  cases r with
  | ok b => exact hf b
  | error e => exact makesNothing_throw e

theorem MakesNothing.storage {p : FileAttempt Errno α} {action : FileAction} (hp : MakesNothing p) :
    MakesNothing (p.storage action path) :=
  FileProgram.MakesNothing.bind hp fun _ => FileProgram.makesNothing_pure _

theorem MakesNothing.lift {p : FileProgram α} (hp : p.MakesNothing) : MakesNothing (ExceptT.lift p : FileAttempt ε α) :=
  FileProgram.MakesNothing.bind hp fun _ => FileProgram.makesNothing_pure _

theorem makesNothing_pathExists (path : String) : MakesNothing (pathExists path) :=
  FileProgram.makesNothing_request id

theorem makesNothing_openExisting (path : String) : MakesNothing (openExisting path) :=
  FileProgram.makesNothing_request id

theorem makesNothing_read (h : Handle) : MakesNothing (read h) :=
  FileProgram.makesNothing_request id

theorem makesNothing_truncate (h : Handle) (length : Nat) : MakesNothing (truncate h length) :=
  FileProgram.makesNothing_request id

theorem makesNothing_appendRecord (h : Handle) (bytes : Bytes) (durable : Bool) : MakesNothing (appendRecord h bytes durable) := by
  refine MakesNothing.bind (FileProgram.makesNothing_request id) fun _ => ?_
  cases durable with
  | false => exact makesNothing_pure ()
  | true => exact FileProgram.makesNothing_request id

theorem makesNothing_resetTo (path : String) (length : Nat) : MakesNothing (resetTo path length) := by
  refine MakesNothing.bind (makesNothing_openExisting path) fun h => ?_
  refine MakesNothing.bind (makesNothing_truncate h length) fun _ => ?_
  exact makesNothing_openExisting path

/-! ## Attempts that make one file -/

/-- Every run of an attempt leaves the entries what they are. -/
def Spares (p : FileAttempt ε α) (d : Disk) : Prop :=
  ∀ r d', p.run.Runs (FileOp.Answers True) d r d' → d.SameEntries d'

/-- Every run of an attempt leaves the entries what opening a file by `path` does, and has a result only if that was opened. -/
def Fills (p : FileAttempt ε α) (d : Disk) (path : String) : Prop :=
  ∀ r d', p.run.Runs (FileOp.Answers True) d r d' → d.Fills path r.isOk d'

theorem MakesNothing.spares {p : FileAttempt ε α} (hp : MakesNothing p) (d : Disk) : Spares p d :=
  fun _ _ hr => FileProgram.MakesNothing.sameEntries hp hr

theorem Spares.storage {p : FileAttempt Errno α} {action : FileAction} {path : String} (hp : Spares p d) :
    Spares (p.storage action path) d := by
  intro r d' hr
  obtain ⟨r₀, hrun, -⟩ := runs_storage_iff.1 hr
  exact hp r₀ d' hrun

theorem Fills.storage {p : FileAttempt Errno α} {action : FileAction} {name : String} (hp : Fills p d path) :
    Fills (p.storage action name) d path := by
  intro r d' hr
  obtain ⟨r₀, hrun, rfl⟩ := runs_storage_iff.1 hr
  have hfills := hp r₀ d' hrun
  cases r₀ <;> exact hfills

/-- What an attempt is made after that leaves the entries alone does not matter, -/
theorem Spares.fills_bind {p : FileAttempt ε β} {f : β → FileAttempt ε α} (hp : Spares p d)
    (hf : ∀ b d₁, d.SameEntries d₁ → Fills (f b) d₁ path) : Fills (p >>= f) d path := by
  intro r d' hr
  rcases runs_bind_iff.1 hr with ⟨b, d₁, hfirst, hr⟩ | ⟨e, hfirst, rfl⟩
  · have hsame := hp _ d₁ hfirst
    exact (hf b d₁ hsame r d' hr).after hsame
  · exact .of_sameEntries (hp _ d' hfirst)

/-- nor does what is done afterwards. -/
theorem Fills.bind {p : FileAttempt ε β} {f : β → FileAttempt ε α} (hp : Fills p d path) (hf : ∀ b, MakesNothing (f b)) :
    Fills (p >>= f) d path := by
  intro r d' hr
  rcases runs_bind_iff.1 hr with ⟨b, d₁, hfirst, hr⟩ | ⟨e, hfirst, rfl⟩
  · exact (hp _ d₁ hfirst).before ((hf b).spares d₁ r d' hr) fun _ => rfl
  · exact hp _ d' hfirst

/-- Who asks whether a path leads to something is told so, if anything. -/
theorem runs_pathExists {r : Except Errno Bool} (hr : (pathExists path).run.Runs (FileOp.Answers True) d r d') :
    d' = d ∧ ∀ found, r = .ok found → d.pathExists path = .ok found := by
  rcases Folder.answers_cases (Program.runs_request_iff.1 hr) with ⟨hperform, -⟩ | ⟨-, hfailed, htorn⟩
  · obtain ⟨rfl, rfl⟩ := Prod.mk.inj hperform
    exact ⟨rfl, fun _ => id⟩
  · obtain ⟨e, rfl⟩ := FileOp.exists_error_of_isOk_eq_false hfailed
    exact ⟨htorn, nofun⟩

/-- Opening a file for writing at its end makes it if it is not there. -/
theorem fills_openAppend (d : Disk) (path : String) : Fills (openAppend path) d path := by
  intro r d' hr
  rcases Folder.answers_cases (Program.runs_request_iff.1 hr) with ⟨hperform, -⟩ | ⟨-, hfailed, htorn⟩
  · have hfills := d.fills_openFile path
    have hopen : d.openFile true path = (r, d') := hperform
    rwa [hopen] at hfills
  · obtain ⟨e, rfl⟩ := FileOp.exists_error_of_isOk_eq_false hfailed
    obtain rfl : d' = d := htorn
    exact .of_sameEntries (.refl d')

theorem spares_openAppend (hthere : d.pathExists path = .ok true) : Spares (openAppend path) d :=
  fun r d' hr => (fills_openAppend d path r d' hr).sameEntries hthere

end FileAttempt

end QueueBroker

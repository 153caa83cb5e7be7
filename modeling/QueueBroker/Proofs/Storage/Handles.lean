import QueueBroker.Proofs.Storage.Growth

/-!
# What paths open

In any tree of files, with links and devices in it, a path opens what it leads to, and goes on to open that however the tree grows.
`Disk.Measured` says how long the file is that a path leads to, a file that is still to be made being empty; work on the file of
another path leaves that alone unless both paths lead to one file.
-/

namespace QueueBroker

open FileOp

/-- What is opened at an entry, if anything. -/
def Node.handle? : Node → Option Handle
  | .file id => some (.file id)
  | .device dev => some (.device dev)
  | _ => none

namespace Disk

variable {d d' d'' : Disk} {path other : String} {h h' : Handle} {id length : Nat} {n : String} {bytes : Bytes}

/-- What a path opens. -/
def Opens (d : Disk) (path : String) (h : Handle) : Prop :=
  ∃ place node, d.resolve true path = .ok (.node place node) ∧ node.handle? = some h

theorem Opens.mono (ho : d.Opens path h) (hext : d.Extends d') : d'.Opens path h := by
  obtain ⟨place, node, hfound, hnode⟩ := ho
  exact ⟨place, node, resolve_mono hext hfound, hnode⟩

theorem Opens.unique (ho : d.Opens path h) (ho' : d.Opens path h') : h = h' := by
  obtain ⟨place, node, hfound, hnode⟩ := ho
  obtain ⟨place', node', hfound', hnode'⟩ := ho'
  cases hfound.symm.trans hfound'
  exact Option.some.inj (hnode.symm.trans hnode')

theorem Opens.lt_length (ho : d.Opens path (.file id)) (ht : d.IsTree) : id < d.files.length := by
  obtain ⟨place, node, hfound, hnode⟩ := ho
  cases node with
  | file id' =>
    cases hnode
    exact ht.numbered _ _ (node?_of_resolve hfound)
  | directory | link | device => cases hnode

/-- What opening a path comes to. -/
theorem of_openFile_false (heq : d.openFile false path = (.ok h, d')) : d' = d ∧ d.Opens path h := by
  rw [openFile] at heq
  cases hfound : d.resolve true path with
  | error e => rw [hfound] at heq; cases heq
  | ok found =>
    rw [hfound] at heq
    cases found with
    | missing place => cases heq
    | node place node =>
      cases node with
      | directory | link => cases heq
      | file | device =>
        cases heq
        exact ⟨rfl, place, _, hfound, rfl⟩

/-- What opens is opened. -/
theorem Opens.openFile_eq (ho : d.Opens path h) (make : Bool) : d.openFile make path = (.ok h, d) := by
  obtain ⟨place, node, hfound, hnode⟩ := ho
  rw [openFile, hfound]
  cases node with
  | directory | link => cases hnode
  | file | device =>
    cases hnode
    rfl

theorem Opens.pathExists_eq (ho : d.Opens path h) : d.pathExists path = .ok true := by
  obtain ⟨place, node, hfound, -⟩ := ho
  rw [pathExists, hfound]

/-- Opening a path for writing comes to the same, or to a new file. -/
theorem of_openFile_true (heq : d.openFile true path = (.ok h, d')) :
    (d' = d ∧ d.Opens path h) ∨ ∃ start n, d.Lacks start n ∧ d.resolve true path = .ok (.missing (start ++ [n])) ∧
      h = .file d.files.length ∧ d' = (d.create (start ++ [n])).2 := by
  rw [openFile] at heq
  cases hfound : d.resolve true path with
  | error e => rw [hfound] at heq; cases heq
  | ok found =>
    rw [hfound] at heq
    cases found with
    | missing place =>
      obtain ⟨start, n, hlacks, rfl⟩ := exists_lacks hfound
      cases heq
      exact Or.inr ⟨start, n, hlacks, rfl, rfl, rfl⟩
    | node place node =>
      cases node with
      | directory | link => cases heq
      | file | device =>
        cases heq
        exact Or.inl ⟨rfl, place, _, hfound, rfl⟩

/-- How long the regular file is that a path leads to; one that is to be made is empty. -/
structure Measured (d : Disk) (path : String) (length : Nat) : Prop where
  file : ∀ id, d.Opens path (.file id) → (d.content id).length = length
  missing : ∀ place, d.resolve true path = .ok (.missing place) → length = 0

theorem Opens.measured_iff (ho : d.Opens path (.file id)) : d.Measured path length ↔ (d.content id).length = length := by
  refine ⟨fun hm => hm.file id ho, fun heq => ⟨fun id' ho' => ?_, fun place hmissing => ?_⟩⟩
  · obtain rfl := Handle.file.inj (ho.unique ho')
    exact heq
  · obtain ⟨_, _, hfound, -⟩ := ho
    cases hfound.symm.trans hmissing

/-- A device has any length. -/
theorem Opens.measured_device {device : Device} (ho : d.Opens path (.device device)) (length : Nat) : d.Measured path length := by
  refine ⟨fun id ho' => ?_, fun place hmissing => ?_⟩
  · cases ho.unique ho'
  · obtain ⟨_, _, hfound, -⟩ := ho
    cases hfound.symm.trans hmissing

/-- What can be read is as long as the file. -/
theorem Opens.measured_read (ho : d.Opens path h) : d.Measured path (d.read h).length := by
  cases h with
  | file id => exact ho.measured_iff.2 rfl
  | device dev => exact ho.measured_device _

/-- A path that opens nothing leads to no file, or to an empty one that is to be made. -/
theorem measured_zero (hnone : ∀ h, ¬d.Opens path h) : d.Measured path 0 :=
  ⟨fun _ ho => absurd ho (hnone _), fun _ _ => rfl⟩

/-- A file is as long as it was if it holds what it did. -/
theorem Opens.measured_of_same (ho : d.Opens path h) (hext : d.Extends d')
    (hsame : ∀ id, d.Opens path (.file id) → d'.content id = d.content id) (hm : d.Measured path length) : d'.Measured path length := by
  cases h with
  | file id => exact (ho.mono hext).measured_iff.2 (hsame id ho ▸ hm.file id ho)
  | device dev => exact (ho.mono hext).measured_device _

/-- No two paths lead to one regular file. -/
def Distinct (d : Disk) (path other : String) : Prop :=
  ∀ id, d.Opens path (.file id) → ¬d.Opens other (.file id)

theorem Distinct.symm (hne : d.Distinct path other) : d.Distinct other path :=
  fun id ho ho' => hne id ho' ho

/-- Paths that never come to lead to one file do not do so now. -/
theorem Distinct.of_extends (hne : d'.Distinct path other) (hext : d.Extends d') : d.Distinct path other :=
  fun id ho ho' => hne id (ho.mono hext) (ho'.mono hext)

theorem opens_setContent_iff : (d.setContent id bytes).Opens path h ↔ d.Opens path h := by
  rw [Opens, Opens, resolve_setContent]

theorem Measured.setContent (hm : d.Measured other length) (hne : ¬d.Opens other (.file id)) (bytes : Bytes) :
    (d.setContent id bytes).Measured other length := by
  refine ⟨fun id' ho => ?_, fun place hmissing => ?_⟩
  · rw [opens_setContent_iff] at ho
    rw [content_setContent_of_ne d fun heq : id' = id => hne (heq ▸ ho)]
    exact hm.file id' ho
  · rw [resolve_setContent] at hmissing
    exact hm.missing place hmissing

/-- A new file is empty, as it was measured. -/
theorem Measured.create {start : Place} (hm : d.Measured other length) (ht : d.IsTree) (hlacks : d.Lacks start n) :
    (d.create (start ++ [n])).2.Measured other length := by
  refine ⟨fun id ho => ?_, fun place hmissing => ?_⟩
  · obtain ⟨place, node, hfound, hnode⟩ := ho
    rcases hlacks.resolve_create ht hfound with ⟨heq, hmissing⟩ | hfound
    · obtain ⟨-, rfl⟩ := Found.node.inj heq
      cases hnode
      rw [content_create_self, hm.missing _ hmissing]
      rfl
    · have ho : d.Opens other (.file id) := ⟨place, node, hfound, hnode⟩
      rw [content_create _ (ho.lt_length ht)]
      exact hm.file id ho
  · rcases hlacks.resolve_create ht hmissing with ⟨heq, -⟩ | hmissing
    · cases heq
    · exact hm.missing place hmissing

theorem setContent_setContent (d : Disk) (id : Nat) (bytes other : Bytes) :
    (d.setContent id bytes).setContent id other = d.setContent id other := by
  rw [Disk.setContent, Disk.setContent, Disk.setContent, List.set_set]

theorem setContent_content (hlt : id < d.files.length) : d.setContent id (d.content id) = d := by
  have hfiles : d.files.set id (d.content id) = d.files := by
    rw [content, List.getD_eq_getElem?_getD, List.getElem?_eq_getElem hlt, Option.getD_some, List.set_getElem_self]
  rw [Disk.setContent, hfiles]

/-! ## Work on one path -/

/-- What work on the file of one path does to a tree: it may grow, and the files of paths that lead elsewhere are as long as they
were. -/
structure WorksAt (path : String) (d d' : Disk) : Prop extends d.Grows d' where
  others : ∀ other length, d'.Distinct path other → d.Measured other length → d'.Measured other length

theorem WorksAt.refl (ht : d.IsTree) (path : String) : WorksAt path d d :=
  ⟨.refl ht, fun _ _ _ hm => hm⟩

theorem WorksAt.trans (hw : WorksAt path d d') (hw' : WorksAt path d' d'') : WorksAt path d d'' :=
  ⟨hw.toGrows.trans hw'.toGrows, fun other length hne hm =>
    hw'.others other length hne (hw.others other length (hne.of_extends hw'.entries) hm)⟩

theorem Opens.worksAt_setContent (ho : d.Opens path (.file id)) (ht : d.IsTree) (bytes : Bytes) :
    WorksAt path d (d.setContent id bytes) := by
  refine ⟨grows_setContent ht id bytes, fun other length hne hm => hm.setContent ?_ bytes⟩
  exact fun ho' => hne id (opens_setContent_iff.2 ho) (opens_setContent_iff.2 ho')

/-! ## Writing and cutting -/

/-- The disk after bytes were written at the end of an open file; a device keeps nothing. -/
def written (d : Disk) (h : Handle) (bytes : Bytes) : Disk :=
  match h with
  | .file id => d.setContent id (d.content id ++ bytes)
  | .device _ => d

/-- The disk after a regular file was cut to a length, or filled up. -/
def fitted (d : Disk) (id length : Nat) : Disk :=
  d.setContent id ((d.content id).take length ++ List.replicate (length - (d.content id).length) 0)

theorem opens_written_iff : (d.written h' bytes).Opens path h ↔ d.Opens path h := by
  cases h' with
  | file id => exact opens_setContent_iff
  | device dev => exact Iff.rfl

theorem opens_fitted_iff : (d.fitted id length).Opens path h ↔ d.Opens path h :=
  opens_setContent_iff

section
variable (ho : d.Opens path h) (ht : d.IsTree)
include ho ht

theorem Opens.worksAt_written (bytes : Bytes) : WorksAt path d (d.written h bytes) := by
  cases h with
  | file id => exact ho.worksAt_setContent ht _
  | device dev => exact .refl ht path

theorem Opens.measured_written (hm : d.Measured path length) (bytes : Bytes) :
    (d.written h bytes).Measured path (length + bytes.length) := by
  cases h with
  | device dev => exact ho.measured_device _
  | file id =>
    rw [(opens_written_iff.2 ho).measured_iff, written, content_setContent_self (ho.lt_length ht), List.length_append,
      hm.file id ho]

end

section
variable (ho : d.Opens path (.file id)) (ht : d.IsTree)
include ho ht

theorem Opens.worksAt_fitted (length : Nat) : WorksAt path d (d.fitted id length) :=
  ho.worksAt_setContent ht _

theorem Opens.measured_fitted (length : Nat) : (d.fitted id length).Measured path length := by
  rw [(opens_fitted_iff.2 ho).measured_iff, fitted, content_setContent_self (ho.lt_length ht), List.length_append,
    List.length_take, List.length_replicate]
  omega

/-- What is written and cut off again leaves no trace. -/
theorem Opens.fitted_written (hm : d.Measured path length) (bytes : Bytes) : (d.written (.file id) bytes).fitted id length = d := by
  have hlt := ho.lt_length ht
  have hlength : (d.content id).length = length := hm.file id ho
  rw [fitted, written, content_setContent_self hlt, setContent_setContent, List.take_left' hlength, List.length_append, hlength,
    Nat.sub_eq_zero_of_le (Nat.le_add_right _ _), List.replicate_zero, List.append_nil, setContent_content hlt]

end

end Disk

/-! ## Operations that may fail -/

namespace FileAttempt

variable {ε α : Type} {p : FileAttempt ε α} {Q : α → Disk → Prop} {d d' : Disk} {path : String} {h h' : Handle} {bytes : Bytes}
  {length : Nat}

open Disk

/-- Where anything may fail, what an attempt attains is what its results satisfy. -/
theorem attains_true_iff : Attains True p d Q ↔ ∀ a d', p.run.Runs (FileOp.Answers True) d (.ok a) d' → Q a d' := by
  constructor
  · intro hp a d' hr
    rcases hp _ _ hr with ⟨_, heq, ha⟩ | ⟨-, e, heq⟩
    · cases heq
      exact ha
    · cases heq
  · intro hp r d' hr
    cases r with
    | ok a => exact Or.inl ⟨a, rfl, hp a d' hr⟩
    | error e => exact Or.inr ⟨trivial, e, rfl⟩

theorem attains_pathExists : Attains True (pathExists path) d fun found d' => d' = d ∧ (found = false → d.Measured path 0) := by
  refine attains_true_iff.2 fun found d' hr => ?_
  rcases Folder.answers_cases (Program.runs_request_iff.1 hr) with ⟨hp, -⟩ | ⟨-, hfailed, -⟩
  · obtain ⟨heq, rfl⟩ := Prod.mk.inj hp
    refine ⟨rfl, fun hfound => measured_zero fun h ho => ?_⟩
    rw [ho.pathExists_eq, hfound] at heq
    cases heq
  · cases hfailed

/-- What looking for a file to open comes to: it opens what is there, and what is not there is empty. -/
theorem runs_openExisting {r : Except Errno Handle} (hr : (openExisting path).run.Runs (FileOp.Answers True) d r d') :
    d' = d ∧ (∀ h, r = .ok h → d.Opens path h) ∧ (r = .error .noEntry → d.Measured path 0) := by
  rcases Folder.answers_cases (Program.runs_request_iff.1 hr) with ⟨hp, -⟩ | ⟨-, ⟨e, rfl, hne⟩, htorn⟩
  · cases r with
    | ok h =>
      obtain ⟨rfl, ho⟩ := of_openFile_false hp
      refine ⟨rfl, fun h' heq => Except.ok.inj heq ▸ ho, fun heq => ?_⟩
      cases heq
    | error e =>
      have hp : d.openFile false path = (.error e, d') := hp
      have hsame := openFile_of_error (congrArg Prod.fst hp)
      rw [hp] at hsame
      refine ⟨hsame, fun h heq => ?_, fun _ => measured_zero fun h ho => ?_⟩
      · cases heq
      · rw [ho.openFile_eq] at hp
        cases hp
  · refine ⟨htorn, fun h heq => ?_, fun heq => absurd (Except.error.inj heq) hne⟩
    cases heq

theorem attains_openExisting : Attains True (openExisting path) d fun h d' => d' = d ∧ d.Opens path h := by
  refine attains_true_iff.2 fun h d' hr => ?_
  obtain ⟨hsame, hopens, -⟩ := runs_openExisting hr
  exact ⟨hsame, hopens h rfl⟩

theorem attains_openAppend (ht : d.IsTree) : Attains True (openAppend path) d fun h d' => d'.Opens path h ∧ d.Grows d' ∧
    ∀ other length, d.Measured other length → d'.Measured other length := by
  refine attains_true_iff.2 fun h d' hr => ?_
  rcases Folder.answers_cases (Program.runs_request_iff.1 hr) with ⟨hp, -⟩ | ⟨-, hfailed, -⟩
  · rcases of_openFile_true hp with ⟨rfl, ho⟩ | ⟨start, n, hlacks, hmissing, rfl, rfl⟩
    · exact ⟨ho, .refl ht, fun _ _ hm => hm⟩
    · have ho : (d.create (start ++ [n])).2.Opens path (.file d.files.length) := ⟨_, _, hlacks.resolve_create_self hmissing, rfl⟩
      exact ⟨ho, ⟨ht.create hlacks, hlacks.extends_create⟩, fun _ _ hm => hm.create ht hlacks⟩
  · cases hfailed

theorem attains_read : Attains True (read h) d fun bytes d' => d' = d ∧ bytes = d.read h := by
  refine attains_true_iff.2 fun bytes d' hr => ?_
  rcases Folder.answers_cases (Program.runs_request_iff.1 hr) with ⟨hp, -⟩ | ⟨-, hfailed, -⟩
  · obtain ⟨heq, rfl⟩ := Prod.mk.inj hp
    exact ⟨rfl, (Except.ok.inj heq).symm⟩
  · cases hfailed

/-- Only regular files can be cut. -/
theorem attains_truncate : Attains True (truncate h length) d fun _ d' => ∃ id, h = .file id ∧ d' = d.fitted id length := by
  refine attains_true_iff.2 fun _ d' hr => ?_
  rcases Folder.answers_cases (Program.runs_request_iff.1 hr) with ⟨hp, -⟩ | ⟨-, hfailed, -⟩
  · have hp : d.truncate h length = (.ok (), d') := hp
    cases h with
    | device dev => cases hp
    | file id =>
      rw [Disk.truncate] at hp
      split at hp
      · cases hp
      · exact ⟨id, rfl, (congrArg Prod.snd hp).symm⟩
  · cases hfailed

/-- Bytes are written whole, or a part of them from their beginning. -/
theorem runs_append {r : Except Errno Unit} (hr : (append h bytes).run.Runs (FileOp.Answers True) d r d') :
    ∃ k, d' = d.written h (bytes.take k) ∧ (r = .ok () → d' = d.written h bytes) := by
  have hperform (bytes : Bytes) : ∃ k, (d.append h bytes).2 = d.written h (bytes.take k) ∧
      ((d.append h bytes).1 = .ok () → (d.append h bytes).2 = d.written h bytes) := by
    cases h with
    | device dev => cases dev <;> exact ⟨0, rfl, fun _ => rfl⟩
    | file id =>
      refine ⟨d.bound - (d.content id).length, rfl, fun hok => ?_⟩
      rw [Disk.append] at hok ⊢
      dsimp only at hok ⊢
      split at hok
      · rename_i hfits
        rw [List.take_of_length_le hfits]
        rfl
      · cases hok
  rcases Folder.answers_cases (Program.runs_request_iff.1 hr) with ⟨hp, -⟩ | ⟨-, hfailed, k, rfl⟩
  · have hp : d.append h bytes = (r, d') := hp
    have := hperform bytes
    rw [hp] at this
    exact this
  · obtain ⟨j, hj, -⟩ := hperform (bytes.take k)
    rw [List.take_take] at hj
    refine ⟨_, hj, fun hok => ?_⟩
    rw [hok] at hfailed
    cases hfailed

/-- A record is written whole, or a part of it from its beginning. -/
theorem runs_appendRecord {durable : Bool} {r : Except Errno Unit}
    (hr : (appendRecord h bytes durable).run.Runs (FileOp.Answers True) d r d') :
    ∃ k, d' = d.written h (bytes.take k) ∧ (r = .ok () → d' = d.written h bytes) := by
  rw [appendRecord, runs_bind_iff] at hr
  rcases hr with ⟨_, d₁, happend, hr⟩ | ⟨e, happend, rfl⟩
  · obtain ⟨k, -, hwhole⟩ := runs_append happend
    have hsame : d' = d₁ := by
      cases durable with
      | false => exact (runs_pure_iff.1 hr).2
      | true =>
        rcases Folder.answers_cases (Program.runs_request_iff.1 hr) with ⟨hp, -⟩ | ⟨-, -, htorn⟩
        · exact (congrArg Prod.snd hp).symm
        · exact htorn
    rw [hsame, hwhole rfl]
    exact ⟨bytes.length, by rw [List.take_length], fun _ => rfl⟩
  · obtain ⟨k, hk, -⟩ := runs_append happend
    refine ⟨k, hk, fun hok => ?_⟩
    cases hok

theorem attains_resetTo : Attains True (resetTo path length) d fun h d' =>
    ∃ id, d.Opens path (.file id) ∧ h = .file id ∧ d' = d.fitted id length := by
  refine attains_openExisting.bind ?_
  rintro h _ ⟨rfl, ho⟩
  refine attains_truncate.bind ?_
  rintro _ _ ⟨id, rfl, rfl⟩
  refine attains_openExisting.mono ?_
  rintro h' _ ⟨rfl, ho'⟩
  exact ⟨id, ho, (ho.unique (opens_fitted_iff.1 ho')).symm, rfl⟩

end FileAttempt

end QueueBroker

import QueueBroker.Proofs.Storage.Trees

/-!
# What a program can reach

A program on files reaches what the paths lead to that it goes by, and the files that it has open. `FileProgram.Confined` says which
paths those are, whatever the program is answered; `Confined.leaves` says that it leaves a file alone to which nothing of this
leads, also when operations fail.
-/

namespace QueueBroker

/-- The paths and the directories that a program may go by. -/
structure Scope where
  paths : String → Prop
  folders : String → Prop

/-- Open files, with the paths that they were opened by. -/
abbrev Openings := List (String × Handle)

namespace FileOp

/-- What is opened by a path, if it can be. -/
def openedBy (path : String) : Except Errno Handle → Openings
  | .ok h => [(path, h)]
  | .error _ => []

/-- What an operation opens. -/
def opened : (op : FileOp) → op.Reply → Openings
  | openExisting path, reply => openedBy path reply
  | openAppend path, reply => openedBy path reply
  | _, _ => []

/-- Whether an operation goes by paths that it may go by, or works on a file that was opened by one of them. -/
def Within (S : Scope) (files : Openings) : FileOp → Prop
  | pathExists path => S.paths path
  | openExisting path => S.paths path
  | openAppend path => S.paths path
  | read h => ∃ path, S.paths path ∧ (path, h) ∈ files
  | truncate h _ => ∃ path, S.paths path ∧ (path, h) ∈ files
  | append h _ => ∃ path, S.paths path ∧ (path, h) ∈ files
  | sync h => ∃ path, S.paths path ∧ (path, h) ∈ files
  | makeDirectories path => S.folders path

/-- The answers that an operation may get, while it is noted what is opened. -/
def Noted (answers : (op : FileOp) → Disk → op.Reply → Disk → Prop) (op : FileOp) (s : Disk × Openings) (reply : op.Reply)
    (s' : Disk × Openings) : Prop :=
  answers op s.1 reply s'.1 ∧ s'.2 = op.opened reply ++ s.2

end FileOp

namespace FileProgram

variable {α β : Type} {S : Scope} {files files' : Openings} {Q : α → Openings → Prop} {op : FileOp}

/-- Whatever it is answered, a program makes only operations within its scope, and ends with a result and open files that
satisfy `Q`. -/
abbrev Confined (S : Scope) (p : FileProgram α) (files : Openings) (Q : α → Openings → Prop) : Prop :=
  p.Guarded (fun files op => op.Within S files) (fun files op reply files' => files' = op.opened reply ++ files) files Q

/-- What was open is open at the end. -/
theorem Confined.grows {p : FileProgram α} (h : p.Confined S files Q) :
    p.Confined S files fun a files' => files ⊆ files' ∧ Q a files' := by
  induction p generalizing files with
  | done a => exact ⟨List.Subset.refl _, h⟩
  | ask op next ih =>
    refine ⟨h.1, fun reply files₁ hfiles => (ih reply (h.2 reply files₁ hfiles)).mono fun a files' ha => ⟨?_, ha.2⟩⟩
    exact List.Subset.trans (hfiles ▸ List.subset_append_right _ _) ha.1

theorem Confined.request {Q : op.Reply → Openings → Prop} (hop : op.Within S files)
    (h : ∀ reply, Q reply (op.opened reply ++ files)) : Confined S (Program.request op) files Q :=
  Program.Guarded.request hop fun reply _ hfiles => hfiles ▸ h reply

variable {answers : (op : FileOp) → Disk → op.Reply → Disk → Prop} {d d' : Disk} {a : α}

/-- What is opened in a run can be noted. -/
theorem exists_noted {p : FileProgram α} (h : p.Runs answers d a d') (files : Openings) :
    ∃ files', p.Runs (FileOp.Noted answers) (d, files) a (d', files') :=
  h.exists_beside (fun (op : FileOp) (reply : op.Reply) files => op.opened reply ++ files) files

/-- A run of a program ends as it says, whatever the answers are. -/
theorem Confined.of_runs {p : FileProgram α} (h : p.Confined S files Q)
    (hr : p.Runs (FileOp.Noted answers) (d, files) a (d', files')) : Q a files' :=
  Program.Guarded.of_runs Prod.snd (fun _ _ _ _ hnoted => hnoted.2) h hr

end FileProgram

namespace FileAttempt

variable {ε α β : Type} {S : Scope} {files files' : Openings} {Q : α → Openings → Prop} {path : String} {h : Handle}

/-- Whatever it is answered, an attempt makes only operations within its scope, and its result, if it has one, satisfies `Q` with
the files that are open then. -/
def Confined (S : Scope) (p : FileAttempt ε α) (files : Openings) (Q : α → Openings → Prop) : Prop :=
  FileProgram.Confined S p.run files fun r files' => files ⊆ files' ∧ ∀ a, r = .ok a → Q a files'

theorem Confined.pure {a : α} (h : Q a files) : Confined S (pure a : FileAttempt ε α) files Q := by
  unfold Confined
  refine Program.Guarded.pure ⟨List.Subset.refl _, fun b heq => ?_⟩
  exact Except.ok.inj heq ▸ h

theorem Confined.throw {e : ε} : Confined S (throw e : FileAttempt ε α) files Q := by
  unfold Confined
  exact Program.Guarded.pure ⟨List.Subset.refl _, fun _ heq => nomatch heq⟩

theorem Confined.mono {p : FileAttempt ε α} {R : α → Openings → Prop} (h : Confined S p files R)
    (hsub : ∀ a files', files ⊆ files' → R a files' → Q a files') : Confined S p files Q :=
  Program.Guarded.mono h fun _ files' hr => ⟨hr.1, fun a heq => hsub a files' hr.1 (hr.2 a heq)⟩

theorem Confined.bind {p : FileAttempt ε β} {f : β → FileAttempt ε α}
    (h : Confined S p files fun b files' => Confined S (f b) files' Q) : Confined S (p >>= f) files Q := by
  change FileProgram.Confined S (p >>= f).run files _
  rw [ExceptT.run_bind]
  refine Program.Guarded.bind (Program.Guarded.mono h fun r files' hr => ?_)
  cases r with
  | ok b => exact Program.Guarded.mono (hr.2 b rfl) fun _ _ hf => ⟨List.Subset.trans hr.1 hf.1, hf.2⟩
  | error e => exact Program.Guarded.pure ⟨hr.1, fun _ heq => nomatch heq⟩

/-- Naming the file changes a failure only. -/
theorem Confined.storage {p : FileAttempt Errno α} {action : FileAction} (h : Confined S p files Q) :
    Confined S (p.storage action path) files Q := by
  change FileProgram.Confined S (p.run >>= fun r => Pure.pure (r.mapError _)) files _
  refine Program.Guarded.bind (Program.Guarded.mono h fun r files' hr => Program.Guarded.pure ⟨hr.1, fun a heq => ?_⟩)
  cases r with
  | ok b => exact hr.2 a (congrArg Except.ok (Except.ok.inj heq))
  | error e => cases heq

/-- Looking at the failure of an attempt makes it a result. -/
theorem Confined.lift {p : FileAttempt Errno α} (h : Confined S p files Q) :
    Confined S (ExceptT.lift p.run : FileAttempt ε (Except Errno α)) files fun r files' => ∀ a, r = .ok a → Q a files' := by
  change FileProgram.Confined S (p.run >>= fun r => Pure.pure (Except.ok r : Except ε (Except Errno α))) files _
  refine Program.Guarded.bind (Program.Guarded.mono h fun r files' hr => Program.Guarded.pure ⟨hr.1, fun r' heq => ?_⟩)
  exact Except.ok.inj heq ▸ hr.2

/-! ## Single operations -/

theorem confined_pathExists (hpath : S.paths path) : Confined S (pathExists path) files fun _ _ => True :=
  FileProgram.Confined.request hpath fun _ => ⟨List.subset_append_right _ _, fun _ _ => trivial⟩

theorem confined_openExisting (hpath : S.paths path) :
    Confined S (openExisting path) files fun h files' => (path, h) ∈ files' := by
  refine FileProgram.Confined.request hpath fun reply => ⟨List.subset_append_right _ _, fun h heq => ?_⟩
  subst heq
  exact List.mem_cons_self

theorem confined_openAppend (hpath : S.paths path) :
    Confined S (openAppend path) files fun h files' => (path, h) ∈ files' := by
  refine FileProgram.Confined.request hpath fun reply => ⟨List.subset_append_right _ _, fun h heq => ?_⟩
  subst heq
  exact List.mem_cons_self

theorem confined_makeDirectories (hfolder : S.folders path) : Confined S (makeDirectories path) files fun _ _ => True :=
  FileProgram.Confined.request hfolder fun _ => ⟨List.subset_append_right _ _, fun _ _ => trivial⟩

variable (hpath : S.paths path) (hopen : (path, h) ∈ files)
include hpath hopen

theorem confined_read : Confined S (read h) files fun _ _ => True :=
  FileProgram.Confined.request ⟨path, hpath, hopen⟩ fun _ => ⟨List.subset_append_right _ _, fun _ _ => trivial⟩

theorem confined_truncate (length : Nat) : Confined S (truncate h length) files fun _ _ => True :=
  FileProgram.Confined.request ⟨path, hpath, hopen⟩ fun _ => ⟨List.subset_append_right _ _, fun _ _ => trivial⟩

theorem confined_append (bytes : Bytes) : Confined S (append h bytes) files fun _ _ => True :=
  FileProgram.Confined.request ⟨path, hpath, hopen⟩ fun _ => ⟨List.subset_append_right _ _, fun _ _ => trivial⟩

theorem confined_sync : Confined S (sync h) files fun _ _ => True :=
  FileProgram.Confined.request ⟨path, hpath, hopen⟩ fun _ => ⟨List.subset_append_right _ _, fun _ _ => trivial⟩

theorem confined_appendRecord (bytes : Bytes) (durable : Bool) :
    Confined S (appendRecord h bytes durable) files fun _ _ => True := by
  refine Confined.bind ((confined_append hpath hopen bytes).mono fun _ files' hsub _ => ?_)
  cases durable with
  | false => exact Confined.pure trivial
  | true => exact confined_sync hpath (hsub hopen)

omit hopen in
theorem confined_resetTo (length : Nat) : Confined S (resetTo path length) files fun h files' => (path, h) ∈ files' := by
  refine Confined.bind ((confined_openExisting hpath).mono fun file files' _ hfile => ?_)
  refine Confined.bind ((confined_truncate hpath hfile length).mono fun _ files'' _ _ => ?_)
  exact confined_openExisting hpath

end FileAttempt

/-! ## What is left alone -/

namespace Disk

variable {S : Scope} {files new : Openings} {d d' : Disk} {path other : String} {h : Handle}

/-- Whether a path leads to the regular file with a number. -/
def Reaches (d : Disk) (path : String) (id : Nat) : Prop :=
  ∃ place, d.resolve true path = .ok (.node place (.file id))

/-- What an operation within its scope does to a disk, and what it opens: nothing but what is there already, a new file where one of
its paths leads, or new contents of a file that was opened by one of them. -/
inductive Effect (S : Scope) (files : Openings) (d : Disk) : Openings → Disk → Prop where
  | same {new : Openings} : (∀ path id, (path, .file id) ∈ new → S.paths path ∧ d.Reaches path id) → Effect S files d new d
  | made {path : String} {start : Place} {n : String} : S.paths path → d.Lacks start n →
      d.resolve true path = .ok (.missing (start ++ [n])) →
      Effect S files d [(path, .file d.files.length)] (d.create (start ++ [n])).2
  | written {path : String} {id : Nat} (bytes : Bytes) : S.paths path → (path, .file id) ∈ files →
      Effect S files d [] (d.setContent id bytes)

/-- Nothing in the scope of a program leads to where another path leads, or to the file that it leads to. -/
structure Apart (d : Disk) (S : Scope) (files : Openings) (other : String) : Prop where
  tree : d.IsTree
  places : ∀ path found found', S.paths path → d.resolve true path = .ok found → d.resolve true other = .ok found' →
    found.place ≠ found'.place
  linked : ∀ path id, S.paths path → d.Reaches path id → ¬d.Reaches other id
  opened : ∀ path id, S.paths path → (path, .file id) ∈ files → ¬d.Reaches other id

theorem effect_nothing : Effect S files d [] d :=
  .same fun _ _ hmem => absurd hmem List.not_mem_nil

theorem Effect.extends (he : Effect S files d new d') : d.Extends d' := by
  cases he with
  | same => exact Extends.refl d
  | made _ hlacks _ => exact hlacks.extends_create
  | written bytes => exact extends_setContent d _ bytes

/-- What a path leads to has the same contents on a disk where the path leads there too and the files are the same. -/
theorem contentsAt_of_same (hnode : ∀ place node, d.resolve true path = .ok (.node place node) →
      d'.resolve true path = .ok (.node place node)) (hcontent : ∀ id, d.Reaches path id → d'.content id = d.content id)
    {bytes : Bytes} (h : d.contentsAt path = .ok bytes) : d'.contentsAt path = .ok bytes := by
  rw [contentsAt] at h ⊢
  cases hfound : d.resolve true path with
  | error e => rw [hfound] at h; cases h
  | ok found =>
    rw [hfound] at h
    cases found with
    | missing place => cases h
    | node place node =>
      rw [hnode _ _ hfound]
      cases node with
      | directory => cases h
      | link target => exact h
      | device dev => exact h
      | file id =>
        dsimp only at h ⊢
        rw [hcontent id ⟨place, hfound⟩]
        exact h

/-- A new file where a path in the scope leads is not where another path leads. -/
theorem Apart.resolve_create (ha : d.Apart S files other) {start : Place} {n : String} (hpath : S.paths path) (hlacks : d.Lacks start n)
    (hmissing : d.resolve true path = .ok (.missing (start ++ [n]))) {found : Found}
    (h : (d.create (start ++ [n])).2.resolve true other = .ok found) : d.resolve true other = .ok found := by
  rcases hlacks.resolve_create ha.tree h with ⟨-, hother⟩ | hother
  · exact absurd rfl (ha.places path _ _ hpath hmissing hother)
  · exact hother

/-- What is done within a scope keeps a path apart from it. -/
theorem Apart.effect (ha : d.Apart S files other) (he : Effect S files d new d') : d'.Apart S (new ++ files) other := by
  cases he with
  | same hnew =>
    refine ⟨ha.tree, ha.places, ha.linked, fun path id hpath hmem => ?_⟩
    rcases List.mem_append.1 hmem with hmem | hmem
    · exact ha.linked path id hpath (hnew path id hmem).2
    · exact ha.opened path id hpath hmem
  | written bytes hpath hmem =>
    refine ⟨ha.tree.setContent _ _, fun path found found' hpath hfound hother => ?_, fun path id hpath hfound hother => ?_,
      fun path id hpath hmem hother => ?_⟩
    · rw [resolve_setContent] at hfound hother
      exact ha.places path _ _ hpath hfound hother
    · simp only [Reaches, resolve_setContent] at hfound hother
      exact ha.linked path id hpath hfound hother
    · simp only [Reaches, resolve_setContent] at hother
      exact ha.opened path id hpath hmem hother
  | @made new start n hnew hlacks hmissing =>
    have hfresh {id : Nat} (hother : d.Reaches other id) : id ≠ d.files.length := by
      obtain ⟨place, hresolve⟩ := hother
      have hlt := ha.tree.numbered _ _ (node?_of_resolve hresolve)
      exact Nat.ne_of_lt hlt
    have hkept {id : Nat} (hother : (d.create (start ++ [n])).2.Reaches other id) : d.Reaches other id :=
      hother.imp fun _ hresolve => ha.resolve_create hnew hlacks hmissing hresolve
    refine ⟨ha.tree.create hlacks, fun path found found' hpath hfound hother => ?_, fun path id hpath hfound hother => ?_,
      fun path id hpath hmem hother => ?_⟩
    · have hbefore := ha.resolve_create hnew hlacks hmissing hother
      rcases hlacks.resolve_create ha.tree hfound with ⟨rfl, hgone⟩ | hsame
      · have hplace := ha.places path _ _ hpath hgone hbefore
        exact hplace
      · exact ha.places path _ _ hpath hsame hbefore
    · obtain ⟨place, hresolve⟩ := hfound
      rcases hlacks.resolve_create ha.tree hresolve with ⟨heq, -⟩ | hsame
      · obtain ⟨-, heq⟩ := Found.node.inj heq
        exact hfresh (hkept hother) (Node.file.inj heq)
      · exact ha.linked path id hpath ⟨place, hsame⟩ (hkept hother)
    · rcases List.mem_cons.1 hmem with heq | hmem
      · obtain ⟨-, heq⟩ := Prod.mk.inj heq
        exact hfresh (hkept hother) (Handle.file.inj heq)
      · exact ha.opened path id hpath hmem (hkept hother)

/-- What is done within a scope leaves the contents alone to which a path leads that is apart from it. -/
theorem Apart.contentsAt_iff (ha : d.Apart S files other) (he : Effect S files d new d') {bytes : Bytes} :
    d'.contentsAt other = .ok bytes ↔ d.contentsAt other = .ok bytes := by
  have hcontent : ∀ id, d.Reaches other id → d'.content id = d.content id := by
    intro id hother
    cases he with
    | same => rfl
    | @made path start n hpath hlacks hmissing =>
      obtain ⟨place, hresolve⟩ := hother
      exact content_create _ (ha.tree.numbered _ _ (node?_of_resolve hresolve))
    | @written path written bytes hpath hmem =>
      refine content_setContent_of_ne d (fun heq => ?_) bytes
      exact ha.opened path written hpath hmem (heq ▸ hother)
  have hback : ∀ place node, d'.resolve true other = .ok (.node place node) → d.resolve true other = .ok (.node place node) := by
    intro place node h
    cases he with
    | same => exact h
    | made hpath hlacks hmissing => exact ha.resolve_create hpath hlacks hmissing h
    | written bytes => exact (resolve_setContent d true _ bytes other).symm.trans h
  constructor
  · refine contentsAt_of_same hback fun id hother => (hcontent id ?_).symm
    exact hother.imp fun _ hresolve => hback _ _ hresolve
  · exact contentsAt_of_same (fun _ _ => resolve_mono he.extends) hcontent

end Disk

/-! ## Directories of regular files -/

namespace Folder.Shows

variable {F : Folder} {c : Contents} {d : Disk} {n : String} (hs : F.Shows c d)
include hs

/-- In a directory of regular files a path leads to the file of its name only. -/
theorem fileAt_of_reaches (hn : F.names n) {id : Nat} (h : d.Reaches (Disk.join F.path n) id) : d.fileAt F.place n = some id := by
  obtain ⟨place, hresolve⟩ := h
  rw [hs.resolve_eq hn, Disk.foundAt, hs.node?_eq hn] at hresolve
  cases hid : d.fileAt F.place n with
  | none => rw [hid] at hresolve; cases hresolve
  | some id' =>
    rw [hid] at hresolve
    cases hresolve
    rfl

/-- In a directory of regular files, each under one name, a name is apart from all others. -/
theorem apart_join (ht : d.IsTree) {S : Scope} {files : Openings}
    (hscope : ∀ path, S.paths path → ∃ m, F.names m ∧ m ≠ n ∧ path = Disk.join F.path m)
    (hopen : ∀ path h, (path, h) ∈ files → ∃ m, F.names m ∧ path = Disk.join F.path m ∧ F.Opens d m h) (hn : F.names n) :
    d.Apart S files (Disk.join F.path n) := by
  refine ⟨ht, fun path found found' hpath hfound hfound' => ?_, fun path id hpath hreach hreach' => ?_,
    fun path id hpath hmem hreach => ?_⟩
  · obtain ⟨m, hm, hne, rfl⟩ := hscope path hpath
    rw [hs.resolve_eq hm] at hfound
    rw [hs.resolve_eq hn] at hfound'
    rw [← Except.ok.inj hfound, ← Except.ok.inj hfound', Disk.place_foundAt, Disk.place_foundAt]
    exact fun heq => hne (List.singleton_inj.1 (List.append_cancel_left heq))
  · obtain ⟨m, hm, hne, rfl⟩ := hscope path hpath
    exact hne (hs.apart m n id hm hn (hs.fileAt_of_reaches hm hreach) (hs.fileAt_of_reaches hn hreach'))
  · obtain ⟨m, hm, hne, rfl⟩ := hscope path hpath
    obtain ⟨m', hm', heq, id', hfile, hid⟩ := hopen _ _ hmem
    obtain rfl := Handle.file.inj hfile
    obtain rfl := Disk.join_injective (F.plain m hm) (F.plain m' hm') heq
    exact hne (hs.apart m n id hm hn hid (hs.fileAt_of_reaches hn hreach))

end Folder.Shows

/-! ## What operations do -/

open Disk

variable {S : Scope} {files files' : Openings} {faults : Prop} {d d' : Disk} {path : String} {h : Handle}

/-- Opening a path of a scope opens what it leads to, or makes a file there. -/
theorem Disk.effect_openFile (hpath : S.paths path) (make : Bool) :
    Effect S files d (FileOp.openedBy path (d.openFile make path).1) (d.openFile make path).2 := by
  rw [openFile]
  cases hfound : d.resolve true path with
  | error e => exact effect_nothing
  | ok found =>
    cases found with
    | missing place =>
      cases make with
      | false => exact effect_nothing
      | true =>
        obtain ⟨start, n, hlacks, rfl⟩ := exists_lacks hfound
        exact .made hpath hlacks hfound
    | node place node =>
      cases node with
      | directory => exact effect_nothing
      | link target => exact effect_nothing
      | file id =>
        refine .same fun path' id' hmem => ?_
        obtain ⟨rfl, heq⟩ := Prod.mk.inj (List.mem_singleton.1 hmem)
        obtain rfl := Handle.file.inj heq
        exact ⟨hpath, place, hfound⟩
      | device dev =>
        refine .same fun path' id' hmem => ?_
        cases (Prod.mk.inj (List.mem_singleton.1 hmem)).2

theorem Disk.effect_truncate (hpath : S.paths path) (hmem : (path, h) ∈ files) (length : Nat) :
    Effect S files d [] (d.truncate h length).2 := by
  unfold truncate
  cases h with
  | device dev => exact effect_nothing
  | file id =>
    dsimp only
    split
    · exact effect_nothing
    · exact .written _ hpath hmem

theorem Disk.effect_append (hpath : S.paths path) (hmem : (path, h) ∈ files) (bytes : Bytes) :
    Effect S files d [] (d.append h bytes).2 := by
  cases h with
  | device dev =>
    cases dev with
    | null => exact effect_nothing
    | full => exact effect_nothing
  | file id => exact .written _ hpath hmem

namespace FileOp.Within

variable {op : FileOp}

theorem effect_perform (hop : op.Within S files) (hfolders : ∀ path, S.folders path → ∃ place, d.LeadsTo path place) :
    Effect S files d (op.opened (op.perform d).1) (op.perform d).2 := by
  cases op with
  | pathExists path => exact effect_nothing
  | read file => exact effect_nothing
  | sync file => exact effect_nothing
  | openExisting path => exact effect_openFile hop false
  | openAppend path => exact effect_openFile hop true
  | truncate file length =>
    obtain ⟨path, hpath, hmem⟩ := hop
    exact effect_truncate hpath hmem length
  | append file bytes =>
    obtain ⟨path, hpath, hmem⟩ := hop
    exact effect_append hpath hmem bytes
  | makeDirectories path =>
    obtain ⟨place, hleads⟩ := hfolders path hop
    rw [perform, Disk.makeDirectories, hleads.makeFirst (Nat.le_refl _)]
    exact effect_nothing

/-- An operation that fails opens nothing, and does what it does only in part. -/
theorem effect_failed (hop : op.Within S files) (hfolders : ∀ path, S.folders path → ∃ place, d.LeadsTo path place)
    {reply : op.Reply} (hfailed : op.Failed reply) (htorn : op.Torn d d') : Effect S files d (op.opened reply) d' := by
  cases op with
  | pathExists path => exact htorn ▸ effect_nothing
  | read file => exact htorn ▸ effect_nothing
  | sync file => exact htorn ▸ effect_nothing
  | truncate file length => exact htorn ▸ effect_nothing
  | openExisting path =>
    obtain ⟨e, rfl, -⟩ := hfailed
    exact htorn ▸ effect_nothing
  | openAppend path =>
    obtain ⟨e, rfl⟩ := exists_error_of_isOk_eq_false hfailed
    exact htorn ▸ effect_nothing
  | append file bytes =>
    obtain ⟨path, hpath, hmem⟩ := hop
    obtain ⟨k, rfl⟩ := htorn
    exact effect_append hpath hmem _
  | makeDirectories path =>
    obtain ⟨place, hleads⟩ := hfolders path hop
    obtain ⟨count, hcount, rfl⟩ := htorn
    rw [hleads.makeFirst hcount]
    exact effect_nothing

/-- Whatever an operation within its scope is answered, it does no more than it may. -/
theorem effect (hop : op.Within S files) (hfolders : ∀ path, S.folders path → ∃ place, d.LeadsTo path place) {reply : op.Reply}
    (hans : Answers faults op d reply d') : Effect S files d (op.opened reply) d' := by
  cases hans with
  | performed hp _ =>
    have he := hop.effect_perform hfolders
    rw [hp] at he
    exact he
  | failed _ hfailed htorn => exact hop.effect_failed hfolders hfailed htorn

end FileOp.Within

/-- A program leaves the contents alone to which a path leads that is apart from its scope, whether or not operations fail. -/
theorem FileProgram.Confined.leaves {α : Type} {p : FileProgram α} {Q : α → Openings → Prop} (hp : p.Confined S files Q)
    (hfolders : ∀ path, S.folders path → ∃ place, d.LeadsTo path place) {a : α}
    (hr : p.Runs (FileOp.Noted (FileOp.Answers faults)) (d, files) a (d', files')) :
    d.Extends d' ∧ ∀ other, d.Apart S files other →
      d'.Apart S files' other ∧ ∀ bytes, d'.contentsAt other = .ok bytes ↔ d.contentsAt other = .ok bytes := by
  induction p generalizing d files with
  | done b =>
    obtain ⟨rfl, heq⟩ := Program.runs_done_iff.1 hr
    obtain ⟨rfl, rfl⟩ := Prod.mk.inj heq
    exact ⟨Extends.refl d', fun other ha => ⟨ha, fun _ => Iff.rfl⟩⟩
  | ask op next ih =>
    obtain ⟨reply, ⟨d₁, files₁⟩, ⟨hans, hfiles⟩, hnext⟩ := Program.runs_ask_iff.1 hr
    obtain rfl : files₁ = op.opened reply ++ files := hfiles
    have he := hp.1.effect hfolders hans
    obtain ⟨hextends, hleaves⟩ := ih reply (hp.2 reply _ rfl) (fun path hpath => (hfolders path hpath).imp fun _ hl => hl.mono he.extends) hnext
    refine ⟨he.extends.trans hextends, fun other ha => ?_⟩
    obtain ⟨ha', hsame⟩ := hleaves other (ha.effect he)
    exact ⟨ha', fun bytes => (hsame bytes).trans (ha.contentsAt_iff he)⟩

end QueueBroker

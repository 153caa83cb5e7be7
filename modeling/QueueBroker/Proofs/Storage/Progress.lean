import QueueBroker.Proofs.Storage.Folder

/-!
# Attempts that get to their end

`FileAttempt.Attains` says what comes of an attempt that meets no failure. That there is such a run at all is `Undisturbed`: on a disk
that keeps its promises the operations of the attempt all succeed. Only a write can fail there, for want of room below the offset
that no file reaches past, which no operation changes.
-/

namespace QueueBroker

open FileOp

namespace Program

variable {Op : Type} {Reply : Op → Type} {α β σ : Type}

/-- Two programs in sequence get good answers only if both do, the second where the first ends. -/
theorem AllAnswers.bind {answer : (op : Op) → σ → Reply op × σ} {good : (op : Op) → Reply op → Prop} {p : Program Reply α}
    {f : α → Program Reply β} {s : σ} (hp : p.AllAnswers answer good s)
    (hf : (f (p.run answer s).1).AllAnswers answer good (p.run answer s).2) : (p >>= f).AllAnswers answer good s := by
  change (p.bind f).AllAnswers answer good s
  induction p generalizing s with
  | done a => exact hf
  | ask op next ih => exact ⟨hp.1, ih _ hp.2 hf⟩

variable {answers : (op : Op) → σ → Reply op → σ → Prop} {torn : Op → σ → σ → Prop}

/-- What no answer undoes, whole or torn, no run undoes, wherever it is stopped. -/
theorem Cut.related {R : σ → σ → Prop} (hrefl : ∀ s, R s s) (htrans : ∀ {s s' s''}, R s s' → R s' s'' → R s s'')
    (hanswers : ∀ {op s reply s'}, answers op s reply s' → R s s') (htorn : ∀ {op s s'}, torn op s s' → R s s')
    {p : Program Reply α} {s s' : σ} (h : Cut answers torn p s s') : R s s' := by
  induction h with
  | before _ s => exact hrefl s
  | within ht => exact htorn ht
  | after ha _ ih => exact htrans (hanswers ha) ih

end Program

/-! ## The room for files -/

namespace Disk

variable {d : Disk}

theorem limit_openFile (make : Bool) (path : String) : (d.openFile make path).2.limit = d.limit := by
  unfold openFile
  split
  · rfl
  · cases make <;> rfl
  · rfl
  · rfl
  · rfl

theorem limit_truncate (h : Handle) (length : Nat) : (d.truncate h length).2.limit = d.limit := by
  unfold truncate
  split
  · rfl
  · dsimp only
    split <;> rfl

theorem limit_append (h : Handle) (bytes : Bytes) : (d.append h bytes).2.limit = d.limit := by
  unfold append
  split <;> rfl

theorem limit_makeDirectory (path : String) : (d.makeDirectory path).2.limit = d.limit := by
  unfold makeDirectory
  split <;> rfl

theorem limit_makeFirst (root : String) (names : List String) (count : Nat) : (d.makeFirst root names count).2.limit = d.limit := by
  induction count generalizing d with
  | zero => rfl
  | succ count ih =>
    have hmade := limit_makeDirectory (d := d) (root ++ "/".intercalate (names.take (count + 1)))
    rw [makeFirst]
    dsimp only
    split
    next e d' hmake =>
      rw [hmake] at hmade
      have hrest := ih (d := d')
      split
      · split
        next d'' hfirst =>
          rw [hfirst] at hrest
          have hlast := limit_makeDirectory (d := d'') (root ++ "/".intercalate (names.take (count + 1)))
          have hlimit := hlast.trans (hrest.trans hmade)
          split
          next heq => rwa [heq] at hlimit
          next heq =>
            rw [heq] at hlimit
            split <;> exact hlimit
        next => exact hrest.trans hmade
      · split <;> exact hmade
    next => exact hmade

end Disk

namespace FileOp

variable {faults : Prop} {op : FileOp} {d d' : Disk}

theorem limit_perform (op : FileOp) (d : Disk) : (op.perform d).2.limit = d.limit := by
  cases op with
  | openExisting path => exact Disk.limit_openFile false path
  | openAppend path => exact Disk.limit_openFile true path
  | truncate h length => exact Disk.limit_truncate h length
  | append h bytes => exact Disk.limit_append h bytes
  | makeDirectories path => exact Disk.limit_makeFirst _ _ _
  | pathExists | read | sync => rfl

theorem Torn.limit_eq (h : op.Torn d d') : d'.limit = d.limit := by
  cases op with
  | append file bytes =>
    obtain ⟨k, rfl⟩ := h
    exact Disk.limit_append file _
  | makeDirectories path =>
    obtain ⟨count, -, rfl⟩ := h
    exact Disk.limit_makeFirst _ _ _
  | pathExists | openExisting | openAppend | read | truncate | sync => exact congrArg Disk.limit h

theorem Answers.limit_eq {reply : op.Reply} (h : Answers faults op d reply d') : d'.limit = d.limit := by
  cases h with
  | performed hperform _ =>
    have hlimit := limit_perform op d
    rwa [hperform] at hlimit
  | failed _ _ htorn => exact htorn.limit_eq

end FileOp

/-- No program makes more room, or less. -/
theorem FileProgram.bound_of_cut {α : Type} {faults : Prop} {p : FileProgram α} {d d' : Disk}
    (h : p.Cut (Answers faults) FileOp.Torn d d') : d'.bound = d.bound := by
  have hlimit : d'.limit = d.limit := Program.Cut.related (R := fun d d' : Disk => d'.limit = d.limit) (fun _ => rfl)
    (fun h h' => h'.trans h) Answers.limit_eq FileOp.Torn.limit_eq h
  rw [Disk.bound, Disk.bound, hlimit]

/-! ## Attempts -/

namespace FileAttempt

variable {ε α β : Type} {p : FileAttempt ε α} {d d' : Disk} {Q : α → Disk → Prop}

/-- On a disk that keeps its promises no operation of an attempt fails. -/
abbrev Undisturbed (p : FileAttempt ε α) (d : Disk) : Prop :=
  FileProgram.Undisturbed p.run d

/-- An attempt that meets no failure comes to a result. -/
theorem Undisturbed.succeeds (h : Undisturbed p d) (hp : Attains False p d Q) : ∃ a d', Succeeds p d a d' ∧ Q a d' := by
  have hr := FileProgram.Undisturbed.runs h
  obtain ⟨a, heq, ha⟩ := hp.exists_of_not id hr
  rw [heq] at hr
  exact ⟨a, _, hr, ha⟩

/-- Two attempts in sequence come to a result by way of the first. -/
theorem Succeeds.of_bind {f : α → FileAttempt ε β} {b : β} (h : Succeeds (p >>= f) d b d') (hp : Attains False p d Q) :
    ∃ a d₁, Succeeds p d a d₁ ∧ Q a d₁ ∧ Succeeds (f a) d₁ b d' := by
  rcases runs_bind_iff.1 h with ⟨a, d₁, hfirst, hrest⟩ | ⟨e, -, heq⟩
  · obtain ⟨_, heq, ha⟩ := hp.exists_of_not id hfirst
    cases heq
    exact ⟨a, d₁, hfirst, ha, hrest⟩
  · cases heq

theorem Succeeds.of_storage {p : FileAttempt Errno α} {action : FileAction} {path : String} {a : α}
    (h : Succeeds (p.storage action path) d a d') : Succeeds p d a d' := by
  obtain ⟨r, hr, heq⟩ := runs_storage_iff.1 h
  cases r with
  | ok b =>
    cases heq
    exact hr
  | error e => cases heq

theorem undisturbed_pure (a : α) (d : Disk) : Undisturbed (pure a : FileAttempt ε α) d :=
  trivial

/-- A second attempt begins where the first comes to, with the same room. -/
theorem Undisturbed.bind {f : α → FileAttempt ε β} (h : Undisturbed p d) (hp : Attains False p d Q)
    (hf : ∀ a d', Q a d' → d'.bound = d.bound → Undisturbed (f a) d') : Undisturbed (p >>= f) d := by
  change Program.AllAnswers _ _ (p >>= f).run d
  rw [ExceptT.run_bind]
  refine Program.AllAnswers.bind h ?_
  have hr := FileProgram.Undisturbed.runs h
  obtain ⟨a, heq, ha⟩ := hp.exists_of_not id hr
  have heq : (Program.run FileOp.perform p.run d).1 = .ok a := heq
  rw [heq]
  exact hf a _ ha (FileProgram.bound_of_cut hr.cut)

theorem Undisturbed.storage {p : FileAttempt Errno α} {action : FileAction} {path : String} (h : Undisturbed p d) :
    Undisturbed (p.storage action path) d :=
  Program.AllAnswers.bind h trivial

theorem Undisturbed.lift {p : FileAttempt Errno α} (h : Undisturbed p d) :
    Undisturbed (ExceptT.lift p.run : FileAttempt ε (Except Errno α)) d :=
  Program.AllAnswers.bind h trivial

end FileAttempt

/-! ## Files of a folder -/

namespace Folder.Shows

variable {F : Folder} {c : Contents} {d d' : Disk} {n : String} {h : Handle} (hs : F.Shows c d) (hn : F.names n)
include hs hn

theorem undisturbed_pathExists : FileAttempt.Undisturbed (FileAttempt.pathExists (Disk.join F.path n)) d := by
  refine ⟨?_, trivial⟩
  have heq : (FileOp.perform (.pathExists (Disk.join F.path n)) d).1 = .ok (c n).isSome := hs.pathExists_eq hn
  rw [heq]
  exact Bool.noConfusion

/-- Whether or not a file is there, trying to open it is no failure. -/
theorem undisturbed_openExisting : FileAttempt.Undisturbed (FileAttempt.openExisting (Disk.join F.path n)) d := by
  refine ⟨?_, trivial⟩
  have heq : (FileOp.perform (.openExisting (Disk.join F.path n)) d).1 =
      (d.fileAt F.place n).elim (.error .noEntry) fun id => .ok (.file id) := congrArg Prod.fst (hs.openFile_eq hn)
  rw [heq]
  rintro ⟨e, he, hne⟩
  cases hf : d.fileAt F.place n with
  | none =>
    rw [hf] at he
    exact hne (Except.error.inj he).symm
  | some id =>
    rw [hf] at he
    cases he

theorem undisturbed_openAppend : FileAttempt.Undisturbed (FileAttempt.openAppend (Disk.join F.path n)) d := by
  refine ⟨?_, trivial⟩
  obtain ⟨⟨file, heq, -⟩, -⟩ := hs.perform_openAppend hn
  have heq : (FileOp.perform (.openAppend (Disk.join F.path n)) d).1 = .ok file := heq
  rw [heq]
  exact Bool.noConfusion

omit hs hn in
theorem undisturbed_read : FileAttempt.Undisturbed (FileAttempt.read h) d :=
  ⟨Bool.noConfusion, trivial⟩

omit hn in
theorem undisturbed_truncate (hn : F.names n) (ho : F.Opens d n h) {bytes : Bytes} (hc : c n = some bytes) {length : Nat}
    (hlength : length ≤ bytes.length) : FileAttempt.Undisturbed (FileAttempt.truncate h length) d := by
  obtain ⟨id, rfl, hid⟩ := ho
  have hcontent : d.content id = bytes := Option.some.inj ((hs.eq_content hn hid).symm.trans hc)
  refine ⟨?_, trivial⟩
  have heq : (FileOp.perform (.truncate (.file id) length) d).1 = .ok () := by
    rw [FileOp.perform, Disk.truncate, hcontent, if_neg (by omega)]
  rw [heq]
  exact Bool.noConfusion

/-- Bytes for which there is room are written. -/
theorem undisturbed_append (ho : F.Opens d n h) {old : Bytes} (hc : c n = some old) {bytes : Bytes}
    (hroom : old.length + bytes.length ≤ d.bound) : FileAttempt.Undisturbed (FileAttempt.append h bytes) d := by
  obtain ⟨id, rfl, hid⟩ := ho
  have hcontent : d.content id = old := Option.some.inj ((hs.eq_content hn hid).symm.trans hc)
  refine ⟨?_, trivial⟩
  have heq : (FileOp.perform (.append (.file id) bytes) d).1 = .ok () := by
    rw [FileOp.perform, Disk.append, hcontent]
    exact if_pos (by omega)
  rw [heq]
  exact Bool.noConfusion

omit hs hn in
theorem undisturbed_sync (ho : F.Opens d n h) : FileAttempt.Undisturbed (FileAttempt.sync h) d := by
  obtain ⟨id, rfl, -⟩ := ho
  exact ⟨Bool.noConfusion, trivial⟩

theorem undisturbed_appendRecord (ho : F.Opens d n h) {old : Bytes} (hc : c n = some old) {bytes : Bytes}
    (hroom : old.length + bytes.length ≤ d.bound) (durable : Bool) :
    FileAttempt.Undisturbed (FileAttempt.appendRecord h bytes durable) d := by
  have happend : FileAttempt.Attains False (FileAttempt.append h bytes) d fun _ d' => d.Extends d' := by
    intro r d' hr
    rcases hs.runs_append hn ho hc hr with ⟨rfl, -, hext, -⟩ | ⟨hf, -⟩
    · exact Or.inl ⟨_, rfl, hext⟩
    · exact hf.elim
  refine (hs.undisturbed_append hn ho hc hroom).bind happend fun _ d₁ hext _ => ?_
  cases durable with
  | false => exact FileAttempt.undisturbed_pure _ _
  | true => exact undisturbed_sync (ho.mono hext)

/-- What was written without a failure had room. -/
theorem room_of_runs_append {faults : Prop} (ho : F.Opens d n h) {old : Bytes} (hc : c n = some old) {bytes : Bytes} {u : Unit}
    (hr : Program.Runs (Answers faults) (FileAttempt.append h bytes).run d (.ok u) d') (hne : bytes ≠ []) :
    old.length + bytes.length ≤ d.bound := by
  obtain ⟨id, rfl, hid⟩ := ho
  have hcontent : d.content id = old := Option.some.inj ((hs.eq_content hn hid).symm.trans hc)
  rcases answers_cases (Program.runs_request_iff.1 hr) with ⟨hp, -⟩ | ⟨-, hfailed, -⟩
  · have hp := congrArg Prod.fst hp
    rw [FileOp.perform, Disk.append, hcontent] at hp
    by_cases hfits : bytes.length ≤ d.bound - old.length
    · have := List.length_pos_iff.2 hne
      omega
    · have herror : Except.error Errno.tooLarge = (Except.ok u : Except Errno Unit) := (if_neg hfits).symm.trans hp
      cases herror
  · cases hfailed

theorem room_of_runs_appendRecord {faults : Prop} (ho : F.Opens d n h) {old : Bytes} (hc : c n = some old) {bytes : Bytes}
    {durable : Bool} {u : Unit} (hr : Program.Runs (Answers faults) (FileAttempt.appendRecord h bytes durable).run d (.ok u) d')
    (hne : bytes ≠ []) : old.length + bytes.length ≤ d'.bound := by
  rw [FileProgram.bound_of_cut hr.cut]
  rw [FileAttempt.appendRecord, FileAttempt.runs_bind_iff] at hr
  rcases hr with ⟨_, _, happend, -⟩ | ⟨_, -, heq⟩
  · exact hs.room_of_runs_append hn ho hc happend hne
  · cases heq

end Folder.Shows

end QueueBroker

import QueueBroker.Proofs.Storage.Trees

/-!
# Trees that grow

Operations on files take no entry away: whatever they are answered, and wherever they are torn, a tree of files is a tree of files
afterwards, with all entries that it had (`FileOp.Answers.grows`), and so it is after any program (`FileProgram.grows`).
-/

namespace QueueBroker

namespace Disk

variable {d d' d'' : Disk} {path : String}

/-- A tree that has become another one, with all entries that it had. -/
structure Grows (d d' : Disk) : Prop where
  tree : d'.IsTree
  entries : d.Extends d'

theorem Grows.refl (ht : d.IsTree) : d.Grows d :=
  ⟨ht, Extends.refl d⟩

theorem Grows.trans (h : d.Grows d') (h' : d'.Grows d'') : d.Grows d'' :=
  ⟨h'.tree, h.entries.trans h'.entries⟩

theorem grows_setContent (ht : d.IsTree) (id : Nat) (bytes : Bytes) : d.Grows (d.setContent id bytes) :=
  ⟨ht.setContent id bytes, extends_setContent d id bytes⟩

theorem grows_openFile (ht : d.IsTree) (make : Bool) (path : String) : d.Grows (d.openFile make path).2 := by
  rw [openFile]
  split
  · exact .refl ht
  · rename_i place hmissing
    split
    · obtain ⟨start, n, hlacks, rfl⟩ := exists_lacks hmissing
      exact ⟨ht.create hlacks, hlacks.extends_create⟩
    · exact .refl ht
  · exact .refl ht
  · exact .refl ht
  · exact .refl ht

theorem grows_truncate (ht : d.IsTree) (h : Handle) (length : Nat) : d.Grows (d.truncate h length).2 := by
  rw [truncate.eq_def]
  split
  · exact .refl ht
  · dsimp only
    split
    · exact .refl ht
    · exact grows_setContent ht _ _

theorem grows_append (ht : d.IsTree) (h : Handle) (bytes : Bytes) : d.Grows (d.append h bytes).2 := by
  rw [append.eq_def]
  split
  · exact .refl ht
  · exact .refl ht
  · exact grows_setContent ht _ _

theorem grows_makeDirectory (ht : d.IsTree) (path : String) : d.Grows (d.makeDirectory path).2 := by
  rw [makeDirectory]
  split
  · exact .refl ht
  · exact .refl ht
  · rename_i place hmissing
    obtain ⟨start, n, hlacks, rfl⟩ := exists_lacks hmissing
    refine ⟨ht.setNode hlacks fun id heq => ?_, hlacks.extends_setNode _⟩
    cases heq

/-- Making a directory after those on the way to it, or some of them, only adds directories. -/
theorem grows_makeFirst (ht : d.IsTree) (root : String) (names : List String) (count : Nat) :
    d.Grows (d.makeFirst root names count).2 := by
  induction count generalizing d with
  | zero => exact .refl ht
  | succ count ih =>
    rw [makeFirst]
    dsimp only
    have hmade := grows_makeDirectory ht (root ++ "/".intercalate (names.take (count + 1)))
    split
    · rename_i e d₁ heq
      rw [heq] at hmade
      split
      · have hfirst := ih hmade.tree
        split
        · rename_i d₂ heq₂
          rw [heq₂] at hfirst
          have hlast := (hmade.trans hfirst).trans
            (grows_makeDirectory hfirst.tree (root ++ "/".intercalate (names.take (count + 1))))
          -- That the directory is there already does not make it another disk.
          split
          · rename_i heq₃
            rw [heq₃] at hlast
            exact hlast
          · rename_i heq₃
            rw [heq₃] at hlast
            split <;> exact hlast
        · exact hmade.trans hfirst
      · split <;> exact hmade
    · exact hmade

end Disk

namespace FileOp

variable {d d' : Disk} {op : FileOp} {reply : op.Reply} {faults : Prop}

open Disk

theorem grows_perform (ht : d.IsTree) (op : FileOp) : d.Grows (op.perform d).2 := by
  cases op with
  | pathExists path | read h | sync h => exact .refl ht
  | openExisting path => exact grows_openFile ht false path
  | openAppend path => exact grows_openFile ht true path
  | truncate h length => exact grows_truncate ht h length
  | append h bytes => exact grows_append ht h bytes
  | makeDirectories path => exact grows_makeFirst ht _ _ _

theorem Torn.grows (ht : d.IsTree) (h : op.Torn d d') : d.Grows d' := by
  cases op with
  | append h bytes =>
    obtain ⟨k, rfl⟩ := h
    exact grows_append ht _ _
  | makeDirectories path =>
    obtain ⟨count, -, rfl⟩ := h
    exact grows_makeFirst ht _ _ _
  | pathExists path | read h | sync h | openExisting path | openAppend path | truncate h length =>
    obtain rfl : d' = d := h
    exact .refl ht

theorem Answers.grows (ht : d.IsTree) (h : Answers faults op d reply d') : d.Grows d' := by
  cases h with
  | performed hp _ =>
    have hgrows := grows_perform ht op
    rw [hp] at hgrows
    exact hgrows
  | failed _ _ htorn => exact htorn.grows ht

end FileOp

/-- Whatever operations come to, a program leaves a tree of files, with all entries that there were. -/
theorem FileProgram.grows {α : Type} {p : FileProgram α} {d d' : Disk} {faults : Prop} {a : α} (ht : d.IsTree)
    (hr : p.Runs (FileOp.Answers faults) d a d') : d.Grows d' := by
  induction hr with
  | done => exact .refl ht
  | ask hans _ ih =>
    have hgrows := hans.grows ht
    exact hgrows.trans (ih hgrows.tree)

end QueueBroker

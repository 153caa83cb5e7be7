import QueueBroker.Proofs.Storage.Folder
import QueueBroker.Queue.Destination

/-!
# The files of destinations

A valid destination names two files that a directory can have, and no two valid destinations share one.
-/

namespace QueueBroker

namespace Destination

variable {name other : String}

/-- What is asked of a valid name. -/
structure Valid (name : String) : Prop where
  ne_empty : name ≠ ""
  short : Utf8.length name ≤ maxLength
  ne_self : name ≠ "."
  ne_parent : name ≠ ".."
  no_separator : name.toList.any isSeparator = false
  not_checkpoint : ¬checkpointSuffix.toList <:+ name.toList

theorem valid_of_fault? (h : fault? name = none) : Valid name := by
  rw [fault?] at h
  split at h
  · nomatch h
  rename_i hempty
  split at h
  · nomatch h
  rename_i hshort
  split at h
  · nomatch h
  rename_i hrelative
  split at h
  · nomatch h
  rename_i hseparator
  split at h
  · nomatch h
  rename_i hcheckpoint
  obtain ⟨hself, hparent⟩ := not_or.1 hrelative
  refine ⟨?_, Nat.le_of_not_lt hshort, hself, hparent, by simpa using hseparator, ?_⟩
  · rintro rfl
    exact hempty rfl
  · intro hsuffix
    exact hcheckpoint (List.isSuffixOf_iff_suffix.2 hsuffix)

theorem Valid.no_slash (h : Valid name) : '/' ∉ name.toList := by
  intro hmem
  have hfalse := List.any_eq_false.1 h.no_separator '/' hmem
  exact hfalse rfl

/-- The log of a valid destination can be named so. -/
theorem Valid.isFileName_logName (h : Valid name) : Disk.IsFileName (logName name) where
  ne_empty := h.ne_empty
  ne_self := h.ne_self
  ne_parent := h.ne_parent
  no_slash := h.no_slash
  short := Nat.le_trans h.short (Nat.sub_le _ _)

theorem length_checkpointName (name : String) :
    (checkpointName name).toList.length = name.toList.length + checkpointSuffix.toList.length := by
  rw [checkpointName, String.toList_append, List.length_append]

/-- The checkpoint file of a valid destination can be named so. -/
theorem Valid.isFileName_checkpointName (h : Valid name) : Disk.IsFileName (checkpointName name) := by
  have hlen := length_checkpointName name
  have hsuffix : checkpointSuffix.toList.length = 11 := by decide
  refine ⟨?_, ?_, ?_, ?_, ?_⟩
  · intro heq
    rw [heq, hsuffix] at hlen
    simp at hlen
  · intro heq
    rw [heq, hsuffix] at hlen
    simp at hlen
  · intro heq
    rw [heq, hsuffix] at hlen
    simp at hlen
  · rw [checkpointName, String.toList_append, List.mem_append]
    rintro (hmem | hmem)
    · exact h.no_slash hmem
    · exact absurd hmem (by decide)
  · have hshort := h.short
    have hbytes : Utf8.length checkpointSuffix ≤ maxFileName := by decide
    rw [checkpointName, Utf8.length, String.utf8ByteSize_append]
    rw [maxLength] at hshort
    rw [Utf8.length] at *
    exact Nat.add_le_of_le_sub hbytes hshort

/-- The two files of a destination have different names, valid or not. -/
theorem checkpointName_ne_logName (name : String) : checkpointName name ≠ logName name := by
  intro heq
  have hlen := length_checkpointName name
  have hsuffix : checkpointSuffix.toList.length = 11 := by decide
  rw [heq, logName, hsuffix] at hlen
  omega

theorem checkpointName_injective (h : checkpointName name = checkpointName other) : name = other := by
  have hlist := congrArg String.toList h
  rw [checkpointName, checkpointName, String.toList_append, String.toList_append] at hlist
  exact String.toList_injective (List.append_cancel_right hlist)

/-- No log of a valid destination is called like a checkpoint file. -/
theorem Valid.logName_ne_checkpointName (h : Valid name) (other : String) : logName name ≠ checkpointName other := by
  intro heq
  refine h.not_checkpoint ⟨other.toList, ?_⟩
  rw [logName] at heq
  rw [heq, checkpointName, String.toList_append]

end Destination

namespace Folder

/-- Whether a folder has the two files of a queue. -/
structure HasQueue (F : Folder) (name : String) : Prop where
  log : F.names (Destination.logName name)
  checkpoint : F.names (Destination.checkpointName name)

/-- The files of some destinations, as far as those are valid, in the directory that a path leads to. -/
def ofDestinations (path : String) (place : Place) (names : String → Prop) : Folder where
  path
  place
  names n := ∃ name, names name ∧ Destination.fault? name = none ∧
    (n = Destination.logName name ∨ n = Destination.checkpointName name)
  plain := by
    rintro n ⟨name, -, hvalid, rfl | rfl⟩
    · exact (Destination.valid_of_fault? hvalid).isFileName_logName
    · exact (Destination.valid_of_fault? hvalid).isFileName_checkpointName

theorem hasQueue_ofDestinations {path : String} {place : Place} {names : String → Prop} {name : String} (hname : names name)
    (hvalid : Destination.fault? name = none) : (ofDestinations path place names).HasQueue name :=
  ⟨⟨name, hname, hvalid, Or.inl rfl⟩, ⟨name, hname, hvalid, Or.inr rfl⟩⟩

/-- A directory that has no entry under the names of a folder shows no file. -/
theorem shows_none {F : Folder} {d : Disk} (hleads : d.LeadsTo F.path F.place)
    (hnone : ∀ n, F.names n → d.node? (F.place ++ [n]) = none) : F.Shows (fun _ => none) d := by
  have hfile : ∀ n, F.names n → d.fileAt F.place n = none := by
    intro n hn
    rw [Disk.fileAt, hnone n hn]
  refine ⟨hleads, ?_, ?_, ?_⟩
  · intro n hn node hnode
    rw [hnone n hn] at hnode
    cases hnode
  · intro m n id hm _ hid _
    rw [hfile m hm] at hid
    cases hid
  · intro n hn
    rw [hfile n hn]
    rfl

end Folder

end QueueBroker

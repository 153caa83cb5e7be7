import QueueBroker.Proofs.Queue.Stopping

/-!
# Queues in one directory

What one queue does to its files leaves those of every other valid destination alone, whether that one is open or not.
-/

namespace QueueBroker.DurableQueue

variable {F : Folder} {c c' : Contents} {d d' : Disk} {name other : String} {R : Bytes → Message → Prop} {q : DurableQueue}
  {bodies : List Bytes} {taken : Nat}

/-- Two valid destinations share no file. -/
theorem SameElsewhere.of_ne (h : SameElsewhere name c c') (hname : Destination.fault? name = none)
    (hother : Destination.fault? other = none) (hne : other ≠ name) :
    c' (Destination.logName other) = c (Destination.logName other) ∧
      c' (Destination.checkpointName other) = c (Destination.checkpointName other) := by
  have hv := Destination.valid_of_fault? hname
  have ho := Destination.valid_of_fault? hother
  refine ⟨h _ hne (ho.logName_ne_checkpointName name), h _ ?_ ?_⟩
  · exact (hv.logName_ne_checkpointName other).symm
  · exact fun heq => hne (Destination.checkpointName_injective heq)

theorem Rests.elsewhere (h : Rests F other c d bodies taken) (hs : F.Shows c' d')
    (hsame : c' (Destination.logName other) = c (Destination.logName other) ∧
      c' (Destination.checkpointName other) = c (Destination.checkpointName other)) : Rests F other c' d' bodies taken := by
  obtain ⟨hlog, hcheckpoint⟩ := hsame
  refine ⟨h.folder, hs, ?_, ?_, h.fit, ?_, h.taken_le⟩
  · rw [hlog]
    exact h.log
  · rw [hlog]
    exact h.short
  · rw [hcheckpoint]
    exact h.checkpoint

theorem Mirrors.elsewhere (hm : q.Mirrors R F c d bodies) (hext : d.Extends d') (hs : F.Shows c' d')
    (hsame : c' (Destination.logName q.name) = c (Destination.logName q.name) ∧
      c' (Destination.checkpointName q.name) = c (Destination.checkpointName q.name)) : q.Mirrors R F c' d' bodies := by
  obtain ⟨hlog, hcheckpoint⟩ := hsame
  obtain ⟨checkpoint, ha, hwhole, hlast⟩ := hm.attached
  obtain ⟨files, hfiles, hlen, hlenc, hol, hoc⟩ := ha.opened
  refine ⟨⟨checkpoint, ⟨ha.storage, ha.folder, hs, ⟨files, hfiles, hlen, hlenc, hol.mono hext, hoc.mono hext⟩, ?_, ?_⟩, hwhole,
    hlast⟩, hm.fit, hm.short, hm.taken_le, hm.pending⟩
  · rw [hlog]
    exact ha.log
  · rw [hcheckpoint]
    exact ha.checkpoint

end QueueBroker.DurableQueue

import QueueBroker.Proofs.Broker.Foresight
import QueueBroker.Proofs.Queue.Entries

/-!
# What looking up makes

Who asks for the queue of a destination, or with a `CHECK` or a `RECEIVE` for its messages, does not mean to make anything. If the queue
is not open yet but its log is there, it is opened though, and opening makes the checkpoint file if that is missing. `LeavesEntries`
says that nothing else is ever made, and when this is.
-/

namespace QueueBroker

open DurableQueue FileAttempt

variable {α β : Type} {name : String} {d d' d'' : Disk} {failed answered : Bool}

namespace Shared

variable {s s' : Shared} {place dir : Place}

/-- Whether a destination that no queue is entered for has a log but no checkpoint file. That file would stand at `place`. -/
structure LacksCheckpoint (s : Shared) (d : Disk) (name : String) (place : Place) : Prop where
  absent : s.registry.lookup name = none
  valid : Destination.fault? name = none
  log : d.pathExists (logPathOf s.registry.storage name) = .ok true
  missing : d.resolve true (checkpointPathOf s.registry.storage name) = .ok (.missing place)

/-- The missing file would stand in the directory of the files, unless a link leads elsewhere. -/
theorem LacksCheckpoint.place_eq (h : s.LacksCheckpoint d name place) (hdir : d.LeadsTo s.registry.storage dir)
    (hlink : ∀ target, d.node? (dir ++ [Destination.checkpointName name]) ≠ some (.link target)) :
    place = dir ++ [Destination.checkpointName name] := by
  have hresolve := hdir.resolve_join (Destination.valid_of_fault? h.valid).isFileName_checkpointName hlink
  have hfound := Except.ok.inj (h.missing.symm.trans hresolve)
  rw [← Disk.place_foundAt d (dir ++ _), ← hfound]
  rfl

/-- What becomes of the entries when a destination is looked up, and maybe asked for its messages, given whether that is answered
without a failure. -/
structure LeavesEntries (s : Shared) (d : Disk) (name : String) (answered : Bool) (d' : Disk) : Prop where
  /-- They are what they were, -/
  unchanged : (∀ place, ¬s.LacksCheckpoint d name place) → d'.nodes = d.nodes
  /-- unless the checkpoint file is missing: then it is made, and nothing else, if there is no failure before. -/
  made : ∀ place, s.LacksCheckpoint d name place →
    d'.nodes = d.nodes ++ [(place, .file d.files.length)] ∨ answered = false ∧ d'.nodes = d.nodes
  /-- It is made in the directory of the files, unless a link leads elsewhere. -/
  inDirectory : ∀ place dir, s.LacksCheckpoint d name place → d.LeadsTo s.registry.storage dir →
    (∀ target, d.node? (dir ++ [Destination.checkpointName name]) ≠ some (.link target)) →
    place = dir ++ [Destination.checkpointName name]

/-- If there is nothing to be made, or a failure comes first, the entries stay. -/
theorem leavesEntries_of_sameEntries (h : d.SameEntries d') (hthere : answered = true → ∀ place, ¬s.LacksCheckpoint d name place) :
    s.LeavesEntries d name answered d' := by
  refine ⟨fun _ => h.nodes, fun place hlacks => ?_, fun _ _ hlacks => hlacks.place_eq⟩
  cases answered with
  | true => exact absurd hlacks (hthere rfl place)
  | false => exact Or.inr ⟨rfl, h.nodes⟩

/-- Opening a queue whose log is there makes what it lacks. -/
theorem leavesEntries_of_fills (habsent : s.registry.lookup name = none) (hvalid : Destination.fault? name = none)
    (hlog : d.pathExists (logPathOf s.registry.storage name) = .ok true)
    (h : d.Fills (checkpointPathOf s.registry.storage name) answered d') : s.LeavesEntries d name answered d' := by
  cases h with
  | kept hkept hthere => exact leavesEntries_of_sameEntries hkept fun hdone place hlacks => hthere hdone place hlacks.missing
  | @made place hmissing hmade =>
    have hlacks : s.LacksCheckpoint d name place := ⟨habsent, hvalid, hlog, hmissing⟩
    refine ⟨fun hnone => absurd hlacks (hnone place), fun other hother => ?_, fun _ _ hlacks => hlacks.place_eq⟩
    obtain rfl := Disk.Found.missing.inj (Except.ok.inj (hmissing.symm.trans hother.missing))
    exact Or.inl hmade.nodes

/-- What is done to the contents of files afterwards makes no difference, whether it succeeds or fails. -/
theorem LeavesEntries.before {done : Bool} (h : s.LeavesEntries d name answered d') (hsame : d'.SameEntries d'')
    (hdone : done = true → answered = true) : s.LeavesEntries d name done d'' := by
  refine ⟨fun hnone => hsame.nodes.trans (h.unchanged hnone), fun place hlacks => ?_, h.inDirectory⟩
  rw [hsame.nodes]
  rcases h.made place hlacks with hmade | ⟨hfailed, hkept⟩
  · exact Or.inl hmade
  · refine Or.inr ⟨?_, hkept⟩
    cases done with
    | false => rfl
    | true => exact absurd (hdone rfl) (by rw [hfailed]; exact Bool.false_ne_true)

/-! ## The programs one by one -/

theorem watches_openAndInsert_fills (hlog : d.pathExists (logPathOf s.registry.storage name) = .ok true) (failed : Bool) :
    Watches (Registry.openAndInsert name) s d failed fun r _ d' _ => d.Fills (checkpointPathOf s.registry.storage name) r.isOk d' := by
  refine .bind (.request (FileProgram.Watches.bind ?_))
  refine (FileProgram.watches_of_runs (fills_openIn hlog s.registry.durable)).mono fun r d' failed hfills => ?_
  cases r with
  | error e => exact FileProgram.Watches.pure (.pure hfills)
  | ok q => exact FileProgram.Watches.pure (.bind (.request (FileProgram.Watches.pure (.pure hfills))))

theorem watches_get_entries (s : Shared) (name : String) (d : Disk) (failed : Bool) :
    Watches (Registry.get name) s d failed fun found _ d' _ => s.LeavesEntries d name found.isOk d' := by
  refine .bind (.request (FileProgram.Watches.pure ?_))
  cases hlookup : s.registry.lookup name with
  | some id =>
    refine .pure (leavesEntries_of_sameEntries (.refl d) fun _ place hlacks => ?_)
    rw [hlacks.absent] at hlookup
    cases hlookup
  | none =>
    dsimp only
    cases hfault : Destination.fault? name with
    | some fault =>
      rw [Destination.validate, hfault]
      refine .pure (leavesEntries_of_sameEntries (.refl d) fun _ place hlacks => ?_)
      rw [hlacks.valid] at hfault
      cases hfault
    | none =>
      rw [validate_eq_ok hfault]
      refine .bind (.request (FileProgram.Watches.bind ?_))
      refine FileProgram.Watches.mono (FileProgram.watches_of_runs fun found d₁ hr => hr) fun found d₁ failed hr => ?_
      obtain ⟨r, hask, rfl⟩ := runs_storage_iff.1 hr
      obtain ⟨rfl, hfound⟩ := runs_pathExists hask
      refine FileProgram.Watches.pure ?_
      rcases r with e | _ | _
      · exact .pure (leavesEntries_of_sameEntries (.refl d₁) fun hok => absurd hok Bool.false_ne_true)
      · refine .pure (leavesEntries_of_sameEntries (.refl d₁) fun _ place hlacks => ?_)
        have habsent := hfound false rfl
        rw [hlacks.log] at habsent
        cases habsent
      · have hlog := hfound true rfl
        refine .whileOpening (.bind (.request (FileProgram.Watches.pure ?_)))
        dsimp only
        rw [hlookup]
        have hopens := watches_openAndInsert_fills (s := { s with opening := true }) hlog failed
        refine .bind (hopens.mono fun r s' d' failed hfills => ?_)
        have hleaves := leavesEntries_of_fills hlookup hfault hlog hfills
        cases r <;> exact .pure hleaves

theorem watches_check_entries (s : Shared) (name : String) (d : Disk) (failed : Bool) :
    Watches (Request.handleCheck name) s d failed fun result _ d' _ => s.LeavesEntries d name result.isOk d' := by
  refine .bind ((watches_get_entries s name d failed).mono fun found s' d' failed' hleaves => ?_)
  match found with
  | .error e => exact .pure hleaves
  | .ok none => exact .pure hleaves
  | .ok (some id) => exact .bind (.whileHolding (.request (FileProgram.Watches.pure (.pure hleaves))))

theorem watches_receive_entries (s : Shared) (name : String) (d : Disk) (failed : Bool) :
    Watches (Request.handleReceive name) s d failed fun result _ d' _ => s.LeavesEntries d name result.isOk d' := by
  refine .bind ((watches_get_entries s name d failed).mono fun found s' d' failed' hleaves => ?_)
  match found with
  | .error e => exact .pure hleaves
  | .ok none => exact .pure hleaves
  | .ok (some id) =>
    have hdequeue : Watches (Registry.whileHolding id (Program.request (.dequeue id))) s' d' failed' fun _ _ d'' _ =>
        d'.SameEntries d'' := by
      refine .whileHolding (.request ?_)
      change FileProgram.Watches (onQueue _ id _ _) _ _ _
      unfold onQueue
      split
      · exact FileProgram.Watches.pure (.refl d')
      · refine FileProgram.Watches.bind (FileProgram.Watches.mono (FileProgram.watches_of_runs fun _ _ hr => hr) ?_)
        intro _ d'' _ hr
        exact FileProgram.Watches.pure ((makesNothing_dequeue _).sameEntries hr)
    refine .bind (hdequeue.mono fun r _ d'' _ hsame => ?_)
    match r with
    | .error e => exact .pure (hleaves.before hsame nofun)
    | .ok none => exact .pure (hleaves.before hsame fun _ => rfl)
    | .ok (some m) => exact .pure (hleaves.before hsame fun _ => rfl)

/-- A request leaves of the entries what its attempt does. -/
theorem watches_handle_entries {r : Request}
    (h : Watches r.attempt s d false fun result _ d' _ => s.LeavesEntries d name result.isOk d') :
    Watches r.handle s d false fun response _ d' _ => s.LeavesEntries d name response.errorKind?.isNone d' := by
  refine .handle (h.mono fun result _ d' _ hleaves => ?_)
  cases result with
  | ok response => exact hleaves.before (.refl d') fun _ => rfl
  | error e => exact hleaves

/-- Whatever is registered, whatever there is on the disk and whichever operations on files fail, looking up the queue of a destination
makes nothing but the checkpoint file of a queue that it opens, and so do a `CHECK` and a `RECEIVE`. -/
theorem lookups_leave_entries (s : Shared) (name : String) (d : Disk) :
    (∀ found s' d', (execute (Registry.get name) s).Runs (FileOp.Answers True) d (found, s') d' →
      s.LeavesEntries d name found.isOk d') ∧
    (∀ response s' d', (execute (Request.check name).handle s).Runs (FileOp.Answers True) d (response, s') d' →
      s.LeavesEntries d name response.errorKind?.isNone d') ∧
    (∀ response s' d', (execute (Request.receive name).handle s).Runs (FileOp.Answers True) d (response, s') d' →
      s.LeavesEntries d name response.errorKind?.isNone d') := by
  refine ⟨fun found s' d' hr => ?_, fun response s' d' hr => ?_, fun response s' d' hr => ?_⟩
  all_goals obtain ⟨failed, hwatched⟩ := FileProgram.exists_watched hr false
  · exact (watches_get_entries s name d false).of_runs hwatched
  · exact (watches_handle_entries (r := .check name) (watches_check_entries s name d false)).of_runs hwatched
  · exact (watches_handle_entries (r := .receive name) (watches_receive_entries s name d false)).of_runs hwatched

/-- A directory with the empty log of a destination. -/
def bareDisk : Disk :=
  ((Disk.empty "home").create ["home", "q"]).2

/-- To say that nothing is waiting in it, its queue is opened, and there is a checkpoint file then. -/
theorem lookups_leave_entries_bare :
    ((Store.begin "" false bareDisk).run (Request.check "q").handle).1 = .available false ∧
      ((Store.begin "" false bareDisk).run (Request.check "q").handle).2.disk.nodes =
        bareDisk.nodes ++ [(["home", "q-checkpoint"], .file 1)] := by
  have hanswer : ((Store.begin "" false bareDisk).run (Request.check "q").handle).1 = .available false := by decide +kernel
  have hlacks : (Store.begin "" false bareDisk).shared.LacksCheckpoint bareDisk "q" ["home", "q-checkpoint"] :=
    ⟨rfl, by decide +kernel, rfl, rfl⟩
  have hruns := Store.runs_run (Request.check "q").handle (Store.begin "" false bareDisk)
  have hleaves := (lookups_leave_entries (Store.begin "" false bareDisk).shared "q" bareDisk).2.1 _ _ _ hruns
  refine ⟨hanswer, ?_⟩
  rcases hleaves.made _ hlacks with hmade | ⟨hfailed, -⟩
  · exact hmade
  · rw [hanswer] at hfailed
    cases hfailed

end Shared

end QueueBroker

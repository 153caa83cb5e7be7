import QueueBroker.Proofs.Queue.Outcome

/-!
# Openings that are begun again

An opening of a queue may fail or be stopped anywhere, and another may be begun. What is in the files then is mended to some extent
(`Mended`), and still has to come to the same outcome, although a checkpoint that was already appended makes the next opening skip
another number of records. So a queue that is opened in the end is the one that would have been opened at first.
-/

namespace QueueBroker

open FileOp

variable {F : Folder} {c c' : Contents} {d d' d₁ : Disk} {name : String}

namespace Log

variable {skip : Nat} {bodies : List Bytes} {pending : List Message}

/-- A log that holds whole records only is kept as it is. -/
theorem Scanned.of_fit (hfit : Fit bodies) (hread : List.Forall₂ Message.ReadFrom (bodies.drop skip) pending) :
    Scanned skip (joined bodies) bodies pending [] := by
  induction bodies generalizing skip pending with
  | nil =>
    rw [List.drop_nil] at hread
    cases hread
    exact .incomplete incomplete_nil
  | cons body bodies ih =>
    obtain ⟨hbody, hfit⟩ := List.forall_mem_cons.1 hfit
    have hsplit : splitRecord? (joined (body :: bodies)) = some (body, joined bodies) := splitRecord?_recordOf hbody _
    cases skip with
    | succ skip => exact .skipped hsplit (ih hfit hread)
    | zero =>
      cases hread with
      | cons hm hread => exact .kept hsplit hm (ih hfit hread)

end Log

namespace DurableQueue

variable {log checkpoint log' checkpoint' : Option Bytes} {bodies : List Bytes} {pending : List Message} {taken : Nat} {stale : Bool}
  {o : Outcome}

/-! ## Mended files -/

theorem getD_repaired (file : Option Bytes) : (repaired file).getD [] = (file.getD []).take (Checkpoint.completeLength (file.getD [])) := by
  cases file <;> rfl

/-- Of a checkpoint file that was repaired, with no more than a torn record written to it since, the same is left. -/
theorem repaired_of_append {file : Option Bytes} {tail : Bytes} (h : file.getD [] = (repaired checkpoint).getD [] ++ tail)
    (htail : tail.length < Checkpoint.recordLength) : (repaired file).getD [] = (repaired checkpoint).getD [] := by
  have hwhole : Checkpoint.Whole ((repaired checkpoint).getD []) := by
    rw [getD_repaired]
    exact Checkpoint.whole_take _
  rw [getD_repaired file, h, hwhole.completeLength_append htail, List.take_left]

/-- Files come to the same when the log is cut and the checkpoint file says the same once it is repaired. -/
theorem Found.outcome_of_repaired {bytes : Bytes} (h : Found (some bytes) checkpoint bodies pending taken stale)
    (hlog : log = some bytes ∨ log = some (Log.joined bodies)) {file : Option Bytes}
    (hfile : (repaired file).getD [] = (repaired checkpoint).getD []) :
    Outcome.Of log file ⟨pending, taken, Log.joined bodies, checkpointLeft (some bytes) checkpoint taken stale⟩ := by
  have htaken : takenIn file = takenIn checkpoint := by
    rw [← takenIn_repaired, takenIn, hfile, ← takenIn, takenIn_repaired]
  have hfound : Found log file bodies pending taken stale := by
    cases h with
    | nothing heq => cases heq
    | scanned heq hscan =>
      cases heq
      rcases hlog with rfl | rfl
      · rw [← htaken] at hscan ⊢
        exact .scanned rfl hscan
      · rw [← htaken] at hscan ⊢
        exact .scanned rfl (.of_fit hscan.fit hscan.forall₂_drop)
  have hleft : checkpointLeft log file taken stale = checkpointLeft (some bytes) checkpoint taken stale := by
    have hsome : log.isSome = true := by
      rcases hlog with rfl | rfl <;> rfl
    rw [checkpointLeft, checkpointLeft, checkpointAfter, checkpointAfter, if_pos hsome, hfile]
    rfl
  rw [← hleft]
  exact hfound.outcome

/-- A checkpoint file of whole records that is not stale is left as it is. -/
theorem checkpointLeft_of_whole {file : Option Bytes} {bytes : Bytes} (hlog : log.isSome = true) (hfile : file.getD [] = bytes)
    (hwhole : Checkpoint.Whole bytes) (taken : Nat) : checkpointLeft log file taken false = bytes := by
  rw [checkpointLeft, if_neg Bool.false_ne_true, checkpointAfter, if_pos hlog, getD_repaired, hfile, hwhole.completeLength_eq,
    List.take_length]

/-- Without a log, and with nothing in the checkpoint file, an empty log makes no difference. -/
theorem outcome_of_empty {file : Option Bytes} (hfile : file.getD [] = []) : Outcome.Of (some []) file ⟨[], 0, [], []⟩ := by
  have htaken : takenIn file = 0 := by
    rw [takenIn, hfile]
    rfl
  have hfound : Found (some []) file [] [] 0 false := by
    have h : Found (some []) file [] [] _ _ := .scanned rfl (.incomplete Log.incomplete_nil)
    rwa [htaken] at h
  have houtcome := hfound.outcome
  rwa [checkpointLeft_of_whole rfl hfile Checkpoint.whole_nil] at houtcome

/-- After the record that follows a stale checkpoint all records of the log are skipped, and none was pending. -/
theorem Found.outcome_of_record {bytes : Bytes} (h : Found (some bytes) checkpoint bodies pending taken true)
    (hshort : bytes.length ≤ Disk.maxFile) :
    Outcome.Of (some (Log.joined bodies)) (some (checkpointLeft (some bytes) checkpoint taken true))
      ⟨pending, taken, Log.joined bodies, checkpointLeft (some bytes) checkpoint taken true⟩ := by
  have hlast : takenIn (some (checkpointLeft (some bytes) checkpoint taken true)) = taken := h.last_checkpointLeft hshort
  have hwhole := whole_checkpointLeft (some bytes) checkpoint taken true
  obtain ⟨rfl, rfl⟩ : taken = bodies.length ∧ pending = [] := by
    generalize hstale : true = stale at h
    cases h with
    | nothing heq => cases heq
    | scanned heq hscan =>
      have hlt : bodies.length < takenIn checkpoint := of_decide_eq_true hstale.symm
      have hread := hscan.forall₂_drop
      rw [List.drop_eq_nil_of_le (Nat.le_of_lt hlt)] at hread
      cases hread
      exact ⟨Nat.min_eq_right (Nat.le_of_lt hlt), rfl⟩
  have hread : List.Forall₂ Message.ReadFrom (bodies.drop bodies.length) [] := by
    rw [List.drop_length]
    exact .nil
  have hfound : Found (some (Log.joined bodies)) (some (checkpointLeft (some bytes) checkpoint bodies.length true)) bodies []
      bodies.length false := by
    have h' : Found (some (Log.joined bodies)) (some (checkpointLeft (some bytes) checkpoint bodies.length true)) bodies [] _ _ :=
      .scanned rfl (.of_fit h.fit (by rw [hlast]; exact hread))
    rwa [hlast, Nat.min_self, decide_eq_false (Nat.lt_irrefl _)] at h'
  have houtcome := hfound.outcome
  rwa [checkpointLeft_of_whole rfl (Option.getD_some ..) hwhole] at houtcome

/-- However far files are mended, they have to come to what they had to come to. -/
theorem Mended.outcome (hm : Mended log checkpoint bodies taken stale log' checkpoint')
    (h : Found log checkpoint bodies pending taken stale) (hshort : (log.getD []).length ≤ Disk.maxFile) :
    Outcome.Of log' checkpoint' ⟨pending, taken, Log.joined bodies, checkpointLeft log checkpoint taken stale⟩ := by
  cases log with
  | none =>
    cases h with
    | scanned heq => cases heq
    | nothing =>
      cases hm with
      | before => exact .missing
      | checkpoint => exact .missing
      | log hfile => exact outcome_of_empty hfile
      | record _ hstale => cases hstale
  | some bytes =>
    have hafter : checkpointAfter (some bytes) checkpoint = (repaired checkpoint).getD [] := rfl
    cases hm with
    | before => exact h.outcome
    | checkpoint hfile =>
      rw [hafter, ← List.append_nil ((repaired checkpoint).getD [])] at hfile
      exact h.outcome_of_repaired (Or.inl rfl) (repaired_of_append hfile (by decide))
    | log hfile =>
      rw [hafter, ← List.append_nil ((repaired checkpoint).getD [])] at hfile
      exact h.outcome_of_repaired (Or.inr rfl) (repaired_of_append hfile (by decide))
    | record k hstale =>
      subst hstale
      -- A part of the record is cut off as torn; the whole of it is a checkpoint that the next opening goes by.
      rcases Nat.lt_or_ge k Checkpoint.recordLength with htorn | hwhole
      · refine h.outcome_of_repaired (Or.inr rfl) (repaired_of_append rfl ?_)
        rw [List.length_take]
        omega
      · have houtcome := h.outcome_of_record hshort
        rw [List.take_of_length_le (by rw [Checkpoint.length_record]; exact hwhole)]
        exact houtcome

/-- However far files are mended, there is room for what they have to come to if there was at first. -/
theorem Mended.fits (hm : Mended log checkpoint bodies taken stale log' checkpoint')
    (h : Found log checkpoint bodies pending taken stale)
    (hfits : Outcome.Fits ⟨pending, taken, Log.joined bodies, checkpointLeft log checkpoint taken stale⟩ checkpoint d)
    (hbound : d'.bound = d.bound) :
    Outcome.Fits ⟨pending, taken, Log.joined bodies, checkpointLeft log checkpoint taken stale⟩ checkpoint' d' := by
  cases stale with
  | true =>
    have hroom := h.fits_iff.1 hfits rfl
    rw [← hbound] at hroom
    exact Or.inl hroom
  | false =>
    have hleft {file : Option Bytes} (hfile : file.getD [] = checkpointAfter log checkpoint) :
        (checkpointLeft log checkpoint taken false).length ≤ (file.getD []).length := by
      rw [hfile]
      exact Nat.le_refl _
    cases hm with
    | before => exact Or.inr (length_checkpointAfter_le log checkpoint)
    | checkpoint hfile => exact Or.inr (hleft hfile)
    | log hfile => exact Or.inr (hleft hfile)
    | record _ hstale => cases hstale

/-! ## Openings that are begun again -/

/-- An opening of a queue that got to its end, failed or was stopped. -/
def Attempted (name storage : String) (d d' : Disk) : Prop :=
  ∃ durable, (openIn name storage durable).run.Cut (Answers True) FileOp.Torn d d'

/-- A disk on which the files of a queue have to come to an outcome, for which there is room. -/
def Destined (F : Folder) (name : String) (o : Outcome) (d : Disk) : Prop :=
  ∃ c, F.Shows c d ∧ Outcome.Of (c (Destination.logName name)) (c (Destination.checkpointName name)) o ∧
    ((c (Destination.logName name)).getD []).length ≤ Disk.maxFile ∧ o.Fits (c (Destination.checkpointName name)) d

theorem Mended.length_le (hm : Mended log checkpoint bodies taken stale log' checkpoint')
    (h : Found log checkpoint bodies pending taken stale) : (log'.getD []).length ≤ (log.getD []).length := by
  cases hm with
  | before | checkpoint => exact Nat.le_refl _
  | log | record => exact h.length_joined_le

/-- An opening that gets somewhere leaves files that have to come to the same. -/
theorem Destined.attempted (hq : F.HasQueue name) (h : Destined F name o d) (hattempt : Attempted name F.path d d') :
    Destined F name o d' := by
  obtain ⟨c, hs, hof, hshort, hfits⟩ := h
  obtain ⟨bodies, stale, hfound, hlog, hcheckpoint⟩ := hof.exists_found
  obtain ⟨durable, hcut⟩ := hattempt
  obtain ⟨c', hs', -, hm⟩ := keeps_openIn hs hq hfound durable d' hcut
  have ho : o = ⟨o.pending, o.taken, Log.joined bodies,
      checkpointLeft (c (Destination.logName name)) (c (Destination.checkpointName name)) o.taken stale⟩ := by
    rw [← hlog, ← hcheckpoint]
  refine ⟨c', hs', ?_, Nat.le_trans (hm.length_le hfound) hshort, ?_⟩
  · rw [ho]
    exact hm.outcome hfound hshort
  · rw [ho] at hfits ⊢
    exact hm.fits hfound hfits (FileProgram.bound_of_cut hcut)

theorem Destined.attempts (hq : F.HasQueue name) (h : Destined F name o d)
    (hattempts : Relation.ReflTransGen (Attempted name F.path) d d') : Destined F name o d' := by
  induction hattempts with
  | refl => exact h
  | tail _ hattempt ih => exact ih.attempted hq hattempt

/-- A disk on which a queue has to come to an outcome lets it be opened, and it comes to that. -/
theorem Destined.opens (hq : F.HasQueue name) (hvalid : Destination.fault? name = none) (h : Destined F name o d) (durable : Bool) :
    (∃ q d', FileAttempt.Succeeds (openIn name F.path durable) d q d') ∧
      ∀ r d', (openIn name F.path durable).run.Runs (Answers False) d r d' → ∃ q, r = .ok q ∧ o.Left F.path name q d' := by
  obtain ⟨c, hs, hof, -, hfits⟩ := h
  exact ⟨(exists_succeeds_iff hs hq hvalid hof durable).2 hfits,
    fun r d' hr => (attains_left hs hq hvalid hof durable).exists_of_not id hr⟩

/-- After any number of openings that failed or were stopped anywhere, or were not, a queue is opened as it would have been at first:
with the same messages pending, as many taken, and the same bytes in both files. -/
theorem opens_after_attempts (hs : F.Shows c d) (hq : F.HasQueue name) (hvalid : Destination.fault? name = none)
    (hshort : ((c (Destination.logName name)).getD []).length ≤ Disk.maxFile) {durable : Bool} {q : DurableQueue}
    (hopen : FileAttempt.Succeeds (openIn name F.path durable) d q d')
    (hattempts : Relation.ReflTransGen (Attempted name F.path) d d₁) (durable₁ : Bool) :
    (∃ q₁ d₂, FileAttempt.Succeeds (openIn name F.path durable₁) d₁ q₁ d₂) ∧
      ∀ r d₂, (openIn name F.path durable₁).run.Runs (Answers False) d₁ r d₂ → ∃ q₁, r = .ok q₁ ∧
        q₁.pending = q.pending ∧ q₁.taken = q.taken ∧
        d₂.contentsAt (logPathOf F.path name) = d'.contentsAt (logPathOf F.path name) ∧
        d₂.contentsAt (checkpointPathOf F.path name) = d'.contentsAt (checkpointPathOf F.path name) := by
  obtain ⟨bodies, pending, taken, stale, hfound⟩ :=
    exists_found (c (Destination.logName name)) (c (Destination.checkpointName name))
  have hof := hfound.outcome
  have hfits := (exists_succeeds_iff hs hq hvalid hof durable).1 ⟨q, d', hopen⟩
  obtain ⟨_, heq, hleft⟩ := (attains_left hs hq hvalid hof durable).exists_of_not id hopen
  cases heq
  obtain ⟨hexists, hruns⟩ := (Destined.attempts hq ⟨c, hs, hof, hshort, hfits⟩ hattempts).opens hq hvalid durable₁
  refine ⟨hexists, fun r d₂ hr => ?_⟩
  obtain ⟨q₁, rfl, hleft₁⟩ := hruns r d₂ hr
  exact ⟨q₁, rfl, hleft₁.pending.trans hleft.pending.symm, hleft₁.taken.trans hleft.taken.symm,
    hleft₁.log.trans hleft.log.symm, hleft₁.checkpoint.trans hleft.checkpoint.symm⟩

/-! A stale checkpoint of which the one that is to follow is torn, and then an opening that does not fail. -/

theorem attempted_torn : ∃ d, Attempted "q" "" (diskOf staleLog staleCheckpoint) d ∧
    d.contentsAt "q-checkpoint" = .ok (Checkpoint.record 5 ++ (Checkpoint.record 1).take 5) := by
  have hrun : (openIn "q" "" true).run.Runs (Answers True) (diskOf staleLog staleCheckpoint) _ _ :=
    Program.runs_run answers_performShort _ _
  exact ⟨_, ⟨true, hrun.cut⟩, by decide +kernel⟩

theorem opens_after_attempts_torn : ∃ q d' d₁ q₁ d₂,
    FileAttempt.Succeeds (openIn "q" "" true) (diskOf staleLog staleCheckpoint) q d' ∧
    Attempted "q" "" (diskOf staleLog staleCheckpoint) d₁ ∧
    d₁.contentsAt "q-checkpoint" = .ok (Checkpoint.record 5 ++ (Checkpoint.record 1).take 5) ∧
    FileAttempt.Succeeds (openIn "q" "" false) d₁ q₁ d₂ ∧ q₁.pending = q.pending ∧ q₁.taken = q.taken ∧
    d₂.contentsAt "q" = d'.contentsAt "q" ∧ d₂.contentsAt "q-checkpoint" = d'.contentsAt "q-checkpoint" := by
  have hs := shows_diskOf staleLog staleCheckpoint
  obtain ⟨q, d', hopen⟩ := (exists_succeeds_iff hs hasQueue_q rfl outcome_stale true).2 (Or.inl (by decide +kernel))
  obtain ⟨d₁, hattempt, htorn⟩ := attempted_torn
  obtain ⟨⟨q₁, d₂, hreopen⟩, hruns⟩ :=
    opens_after_attempts hs hasQueue_q rfl (by decide +kernel) hopen (.single hattempt) false
  obtain ⟨_, heq, hsame⟩ := hruns _ _ hreopen
  cases heq
  exact ⟨q, d', d₁, q₁, d₂, hopen, hattempt, htorn, hreopen, hsame⟩

end DurableQueue

end QueueBroker

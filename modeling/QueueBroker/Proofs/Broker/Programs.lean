import QueueBroker.Proofs.Queue.Sharing
import QueueBroker.Queue.Registry

/-!
# Runs of registry programs

`Shared.Comes` says what a program on the registry comes to, whether or not file operations may fail; its rules take a program
apart step by step.
-/

namespace QueueBroker

open FileOp

namespace Shared

variable {α β : Type} {s : Shared} {d d' : Disk}

theorem runs_execute_bind_iff {answers : (op : FileOp) → Disk → op.Reply → Disk → Prop} {p : RegistryProgram α}
    {f : α → RegistryProgram β} {r : β × Shared} :
    (execute (p >>= f) s).Runs answers d r d' ↔
      ∃ a s₁ d₁, (execute p s).Runs answers d (a, s₁) d₁ ∧ (execute (f a) s₁).Runs answers d₁ r d' := by
  change (execute (p.bind f) s).Runs answers d r d' ↔ _
  induction p generalizing s d with
  | done a =>
    constructor
    · intro h
      exact ⟨a, s, d, .done _ _, h⟩
    · rintro ⟨a', s₁, d₁, h1, h2⟩
      obtain ⟨heq, rfl⟩ := Program.runs_done_iff.1 h1
      obtain ⟨rfl, rfl⟩ := Prod.mk.inj heq
      exact h2
  | ask op next ih =>
    rw [Program.bind, execute, execute, Program.runs_bind_iff]
    constructor
    · rintro ⟨⟨reply, s₂⟩, d₂, h1, h2⟩
      obtain ⟨a, s₁, d₁, h3, h4⟩ := (ih reply).1 h2
      exact ⟨a, s₁, d₁, Program.runs_bind_iff.2 ⟨(reply, s₂), d₂, h1, h3⟩, h4⟩
    · rintro ⟨a, s₁, d₁, h1, h2⟩
      obtain ⟨⟨reply, s₂⟩, d₂, h3, h4⟩ := Program.runs_bind_iff.1 h1
      exact ⟨(reply, s₂), d₂, h3, (ih reply).2 ⟨a, s₁, d₁, h4, h2⟩⟩

/-- A run of one step is a run of what it is performed as. -/
theorem runs_execute_request_iff {answers : (op : FileOp) → Disk → op.Reply → Disk → Prop} {op : RegistryOp}
    {r : op.Reply × Shared} :
    (execute (Program.request op) s).Runs answers d r d' ↔ (s.perform op).Runs answers d r d' := by
  rw [Program.request, execute, Program.runs_bind_iff]
  constructor
  · rintro ⟨⟨reply, s₁⟩, d₁, h1, h2⟩
    obtain ⟨rfl, rfl⟩ := Program.runs_done_iff.1 h2
    exact h1
  · intro h
    exact ⟨r, d', h, .done _ _⟩

/-- Every run of a program, with failing file operations or without, ends with a result, with shared things and with a disk that
satisfy `Q`. -/
def Comes (faults : Prop) (p : RegistryProgram α) (s : Shared) (d : Disk) (Q : α → Shared → Disk → Prop) : Prop :=
  ∀ a s' d', (execute p s).Runs (Answers faults) d (a, s') d' → Q a s' d'

variable {faults : Prop} {Q : α → Shared → Disk → Prop} {op : RegistryOp}

theorem Comes.pure {a : α} (h : Q a s d) : Comes faults (pure a) s d Q := by
  intro a' s' d' hr
  obtain ⟨heq, rfl⟩ := Program.runs_done_iff.1 hr
  obtain ⟨rfl, rfl⟩ := Prod.mk.inj heq
  exact h

theorem Comes.bind {p : RegistryProgram β} {f : β → RegistryProgram α}
    (h : Comes faults p s d fun b s' d' => Comes faults (f b) s' d' Q) : Comes faults (p >>= f) s d Q := by
  intro a s' d' hr
  obtain ⟨b, s₁, d₁, h1, h2⟩ := runs_execute_bind_iff.1 hr
  exact h b s₁ d₁ h1 a s' d' h2

theorem Comes.mono {p : RegistryProgram α} {R : α → Shared → Disk → Prop} (h : Comes faults p s d R)
    (hsub : ∀ a s' d', R a s' d' → Q a s' d') : Comes faults p s d Q :=
  fun a s' d' hr => hsub a s' d' (h a s' d' hr)

/-- A step comes to what it is performed as. -/
theorem Comes.request {Q : op.Reply → Shared → Disk → Prop}
    (h : ∀ r s' d', (s.perform op).Runs (Answers faults) d (r, s') d' → Q r s' d') :
    Comes faults (Program.request op) s d Q :=
  fun r s' d' hr => h r s' d' (runs_execute_request_iff.1 hr)

/-- A step that does nothing to the files. -/
theorem Comes.request_pure {Q : op.Reply → Shared → Disk → Prop} {reply : op.Reply} {s' : Shared}
    (heq : s.perform op = Pure.pure (reply, s')) (h : Q reply s' d) : Comes faults (Program.request op) s d Q := by
  refine Comes.request fun r s₁ d₁ hr => ?_
  rw [heq] at hr
  obtain ⟨heq, rfl⟩ := Program.runs_pure_iff.1 hr
  obtain ⟨rfl, rfl⟩ := Prod.mk.inj heq
  exact h

/-- Taking and releasing a lock is nothing to a program alone. -/
theorem Comes.whileOpening {p : RegistryProgram α}
    (h : Comes faults p { s with opening := true } d fun a s' d' => Q a { s' with opening := false } d') :
    Comes faults (Registry.whileOpening p) s d Q := by
  refine Comes.bind (Comes.request_pure rfl (Comes.bind (h.mono fun a s' d' hq => ?_)))
  exact Comes.bind (Comes.request_pure rfl (Comes.pure hq))

theorem Comes.whileHolding {p : RegistryProgram α} {id : QueueId}
    (h : Comes faults p { s with busy := id :: s.busy } d fun a s' d' => Q a { s' with busy := s'.busy.erase id } d') :
    Comes faults (Registry.whileHolding id p) s d Q := by
  refine Comes.bind (Comes.request_pure rfl (Comes.bind (h.mono fun a s' d' hq => ?_)))
  exact Comes.bind (Comes.request_pure rfl (Comes.pure hq))

end Shared

namespace Store

variable {α β : Type} {p : RegistryProgram α} {s s' : Store}

/-- Whether no file operation fails in a run of a program. -/
abbrev Undisturbed (p : RegistryProgram α) (s : Store) : Prop :=
  (Shared.execute p s.shared).Undisturbed s.disk

/-- What a run on a store is on the disk. -/
theorem run_eq_iff {a : α} :
    s.run p = (a, s') ↔ (Shared.execute p s.shared).Runs Performs s.disk (a, s'.shared) s'.disk := by
  rw [FileProgram.runs_performs_iff]
  unfold run
  constructor
  · intro h
    obtain ⟨rfl, rfl⟩ := Prod.mk.inj h
    rfl
  · intro h
    rw [h]

/-- What a store may answer a step with, given what the disk may answer file operations with. -/
def Answers (files : (op : FileOp) → Disk → op.Reply → Disk → Prop) (op : RegistryOp) (s : Store) (reply : op.Reply)
    (s' : Store) : Prop :=
  (s.shared.perform op).Runs files s.disk (reply, s'.shared) s'.disk

/-- A run of a program step by step is a run of all that its steps do to the files. -/
theorem runs_answers_iff {files : (op : FileOp) → Disk → op.Reply → Disk → Prop} {a : α} :
    p.Runs (Answers files) s a s' ↔ (Shared.execute p s.shared).Runs files s.disk (a, s'.shared) s'.disk := by
  induction p generalizing s with
  | done b =>
    rw [Program.runs_done_iff, Shared.execute, Program.runs_pure_iff]
    constructor
    · rintro ⟨rfl, rfl⟩
      exact ⟨rfl, rfl⟩
    · rintro ⟨heq, hdisk⟩
      obtain ⟨rfl, hshared⟩ := Prod.mk.inj heq
      obtain ⟨shared, disk⟩ := s'
      obtain rfl : shared = s.shared := hshared
      obtain rfl : disk = s.disk := hdisk
      exact ⟨rfl, rfl⟩
  | ask op next ih =>
    rw [Program.runs_ask_iff, Shared.execute, Program.runs_bind_iff]
    constructor
    · rintro ⟨reply, s₁, hstep, hnext⟩
      exact ⟨(reply, s₁.shared), s₁.disk, hstep, (ih reply).1 hnext⟩
    · rintro ⟨⟨reply, shared⟩, disk, hstep, hnext⟩
      exact ⟨reply, ⟨shared, disk⟩, hstep, (ih reply).2 hnext⟩

/-- Running two programs in sequence runs the second from where the first ended. -/
theorem run_bind (p : RegistryProgram α) (f : α → RegistryProgram β) (s : Store) :
    s.run (p >>= f) = (s.run p).2.run (f (s.run p).1) :=
  run_eq_iff.2 (Shared.runs_execute_bind_iff.2 ⟨_, _, _, run_eq_iff.1 rfl, run_eq_iff.1 rfl⟩)

/-- What a sequence comes to is what its second program comes to after its first. -/
theorem of_run_bind {f : α → RegistryProgram β} {b : β} (h : s.run (p >>= f) = (b, s')) :
    ∃ a mid, s.run p = (a, mid) ∧ mid.run (f a) = (b, s') := by
  rw [run_bind] at h
  exact ⟨_, _, rfl, h⟩

/-- What a step comes to is what it is performed as. -/
theorem of_run_request {op : RegistryOp} {r : op.Reply} (h : s.run (Program.request op) = (r, s')) :
    (s.shared.perform op).run s.disk = ((r, s'.shared), s'.disk) :=
  FileProgram.runs_performs_iff.1 (Shared.runs_execute_request_iff.1 (run_eq_iff.1 h))

end Store

/-- A run on a store without a failing file operation ends with what the program comes to. -/
theorem Shared.Comes.run_undisturbed {α : Type} {p : RegistryProgram α} {s : Store} {Q : α → Shared → Disk → Prop}
    (h : Comes False p s.shared s.disk Q) (hgood : s.Undisturbed p) : Q (s.run p).1 (s.run p).2.shared (s.run p).2.disk :=
  h _ _ _ hgood.runs

end QueueBroker

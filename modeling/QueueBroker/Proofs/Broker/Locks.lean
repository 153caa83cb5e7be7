import QueueBroker.Proofs.Broker.Life

/-!
# Locks of queues

Whoever works on a queue locks it first and unlocks it after, and nobody locks a queue while holding another (`Registry.Locking`). So once
no session has a request any more all queues are unlocked (`Traffic.Alone.busy_eq_nil`).
-/

namespace QueueBroker

/-! ## Programs that lock queues -/

namespace RegistryOp

/-- The queue that a program holds after a step, given the one that it held before. -/
def leaves (held : Option QueueId) : RegistryOp → Option QueueId
  | lockQueue id => some id
  | unlockQueue _ => none
  | _ => held

/-- Whether a step fits a program that holds a queue or none, and that may have to wait for others that open queues or must not. -/
def Fits (opens : Prop) (held : Option QueueId) : RegistryOp → Prop
  | lockQueue _ => held = none
  | unlockQueue id => held = some id
  | lockOpening => opens
  | _ => True

/-- The queues that are locked after a step. -/
def busy (busy : List QueueId) : RegistryOp → List QueueId
  | lockQueue id => id :: busy
  | unlockQueue id => busy.erase id
  | _ => busy

end RegistryOp

namespace Registry

variable {α β : Type} {opens : Prop} {held between left : Option QueueId} {op : RegistryOp}

/-- A program that holds a queue or none locks at most one at a time, unlocks only that one, and ends with what is left to it. -/
abbrev Locking (opens : Prop) (held : Option QueueId) (p : RegistryProgram α) (left : Option QueueId) : Prop :=
  p.Guarded (fun held op => op.Fits opens held) (fun held op _ held' => held' = op.leaves held) held fun _ held' => held' = left

theorem locking_pure (a : α) : Locking opens held (pure a) held :=
  Program.Guarded.pure rfl

theorem locking_request (hop : op.Fits opens held) : Locking opens held (Program.request op) (op.leaves held) :=
  Program.Guarded.request hop fun _ _ => id

theorem locking_bind {p : RegistryProgram β} {f : β → RegistryProgram α} (hp : Locking opens held p between)
    (hf : ∀ b, Locking opens between (f b) left) : Locking opens held (p >>= f) left :=
  Program.Guarded.bind (Program.Guarded.mono hp fun b _ heq => heq ▸ hf b)

theorem locking_whileHolding {id : QueueId} {p : RegistryProgram α} (hp : Locking opens (some id) p (some id)) :
    Locking opens none (whileHolding id p) none :=
  locking_bind (locking_request rfl) fun _ => locking_bind hp fun a => locking_bind (locking_request rfl) fun _ => locking_pure a

theorem locking_whileOpening {p : RegistryProgram α} (hp : Locking True held p held) : Locking True held (whileOpening p) held :=
  locking_bind (locking_request trivial) fun _ => locking_bind hp fun a => locking_bind (locking_request trivial) fun _ => locking_pure a

theorem locking_openAndInsert (name : String) : Locking opens held (openAndInsert name) held := by
  refine locking_bind (locking_request trivial) fun opened => ?_
  cases opened with
  | error e => exact locking_pure _
  | ok id => exact locking_bind (locking_request trivial) fun _ => locking_pure _

theorem locking_getOrCreate (name : String) : Locking True held (getOrCreate name) held := by
  refine locking_bind (locking_request trivial) fun found => ?_
  cases found with
  | some id => exact locking_pure _
  | none =>
    dsimp only
    split
    · exact locking_pure _
    · refine locking_whileOpening (locking_bind (locking_request trivial) fun found => ?_)
      cases found with
      | some id => exact locking_pure _
      | none =>
        refine locking_bind (locking_request trivial) fun made => ?_
        cases made with
        | error e => exact locking_pure _
        | ok _ => exact locking_openAndInsert name

theorem locking_get (name : String) : Locking True held (get name) held := by
  refine locking_bind (locking_request trivial) fun found => ?_
  cases found with
  | some id => exact locking_pure _
  | none =>
    dsimp only
    split
    · exact locking_pure _
    · refine locking_bind (locking_request trivial) fun hasLog => ?_
      match hasLog with
      | .error e => exact locking_pure _
      | .ok false => exact locking_pure _
      | .ok true =>
        refine locking_whileOpening (locking_bind (locking_request trivial) fun found => ?_)
        cases found with
        | some id => exact locking_pure _
        | none =>
          refine locking_bind (locking_openAndInsert name) fun opened => ?_
          cases opened <;> exact locking_pure _

theorem locking_closeEach (entries : List (String × QueueId)) : Locking opens none (closeEach entries) none := by
  induction entries with
  | nil => exact locking_pure _
  | cons entry entries ih =>
    refine locking_bind (locking_whileHolding (locking_bind (locking_request trivial) fun closed => ?_)) fun closed => ?_
    · cases closed with
      | true => exact locking_pure _
      | false => exact locking_request trivial
    · refine locking_bind ih fun rest => ?_
      cases closed <;> exact locking_pure _

/-- Closing the queues waits for nobody that opens queues. -/
theorem locking_closeAll : Locking False none closeAll none :=
  locking_bind (locking_request trivial) fun entries => locking_bind (locking_request trivial) fun _ => locking_closeEach entries

end Registry

namespace Request

open Registry

theorem locking_attempt (r : Request) : Locking True none r.attempt none := by
  cases r with
  | send m =>
    refine locking_bind (locking_getOrCreate m.destination) fun found => ?_
    cases found with
    | error e => exact locking_pure _
    | ok id =>
      refine locking_bind (locking_whileHolding (locking_request trivial)) fun sent => ?_
      cases sent <;> exact locking_pure _
  | check destination =>
    refine locking_bind (locking_get destination) fun found => ?_
    match found with
    | .error e => exact locking_pure _
    | .ok none => exact locking_pure _
    | .ok (some id) => exact locking_bind (locking_whileHolding (locking_request trivial)) fun _ => locking_pure _
  | receive destination =>
    refine locking_bind (locking_get destination) fun found => ?_
    match found with
    | .error e => exact locking_pure _
    | .ok none => exact locking_pure _
    | .ok (some id) =>
      refine locking_bind (locking_whileHolding (locking_request trivial)) fun taken => ?_
      match taken with
      | .error e => exact locking_pure _
      | .ok none => exact locking_pure _
      | .ok (some m) => exact locking_pure _

/-- Whatever a request asks for, it gives back the queue that it works on. -/
theorem locking_handle (r : Request) : Locking True none r.handle none := by
  refine locking_bind r.locking_attempt fun result => ?_
  cases result <;> exact locking_pure _

end Request

/-! ## Queues that are locked -/

section Busy

variable {files : (op : FileOp) → Disk → op.Reply → Disk → Prop} {s s' : Store} {op : RegistryOp} {reply : op.Reply}

/-- Whatever a step does to queues, registry and files, it locks and unlocks only what it says. -/
theorem Store.busy_of_answers (h : Store.Answers files op s reply s') : s'.shared.busy = op.busy s.shared.busy := by
  have hpure {α : Type} {a : α} {shared : Shared} {d d' : Disk} {r : α × Shared} (hr : Program.Runs files (pure (a, shared)) d r d') :
      r.2 = shared := by
    rw [(Program.runs_pure_iff.1 hr).1]
  have hwork {α : Type} {id : QueueId} {missing : α} {work : DurableQueue → FileProgram (α × DurableQueue)} {r : α × Shared}
      (hr : (s.shared.onQueue id missing work).Runs files s.disk r s'.disk) : r.2.busy = s.shared.busy := by
    unfold Shared.onQueue at hr
    split at hr
    · rw [hpure hr]
    · obtain ⟨_, _, -, hr⟩ := Program.runs_bind_iff.1 hr
      rw [hpure hr]
  cases op with
  | hasLog name | makeStorage =>
    obtain ⟨_, _, -, hr⟩ := Program.runs_bind_iff.1 h
    rw [show s'.shared = s.shared from hpure hr]
    rfl
  | openQueue name =>
    obtain ⟨opened, _, -, hr⟩ := Program.runs_bind_iff.1 h
    cases opened with
    | error e =>
      rw [show s'.shared = s.shared from hpure hr]
      rfl
    | ok q =>
      rw [show s'.shared = _ from hpure hr]
      rfl
  | enqueue id m | dequeue id | close id => exact hwork h
  | _ =>
    rw [show s'.shared = _ from hpure h]
    rfl

/-- A queue that is locked after a step is the one that is held then, or was locked before, and is held still if it was. -/
theorem RegistryOp.of_mem_busy {opens : Prop} {held : Option QueueId} {busy : List QueueId} {id : QueueId} (hop : op.Fits opens held)
    (hnodup : busy.Nodup) (hid : id ∈ op.busy busy) : op.leaves held = some id ∨ id ∈ busy ∧ (held = some id → op.leaves held = some id) := by
  cases op with
  | lockQueue locked =>
    rcases List.mem_cons.1 hid with rfl | hid
    · exact Or.inl rfl
    · obtain rfl : held = none := hop
      exact Or.inr ⟨hid, nofun⟩
  | unlockQueue unlocked =>
    obtain rfl : held = some unlocked := hop
    obtain ⟨hne, hid⟩ := hnodup.mem_erase_iff.1 hid
    exact Or.inr ⟨hid, fun heq => absurd (Option.some.inj heq).symm hne⟩
  | _ => exact Or.inr ⟨hid, fun heq => heq⟩

theorem RegistryOp.nodup_busy {shared : Shared} (hready : shared.ready op = true) (hnodup : shared.busy.Nodup) :
    (op.busy shared.busy).Nodup := by
  cases op with
  | lockQueue id =>
    have hfree : ¬shared.busy.contains id = true := by
      rw [Shared.ready, Bool.not_eq_true'] at hready
      rw [hready]
      exact Bool.false_ne_true
    exact List.nodup_cons.2 ⟨fun hmem => hfree (List.contains_iff_mem.2 hmem), hnodup⟩
  | unlockQueue id => exact hnodup.erase id
  | _ => exact hnodup

theorem Store.exists_answers (htotal : ∀ op disk, ∃ reply disk', files op disk reply disk') (op : RegistryOp) (s : Store) :
    ∃ reply s', Store.Answers files op s reply s' := by
  obtain ⟨⟨reply, shared⟩, disk, hruns⟩ := Program.exists_runs htotal (s.shared.perform op) s.disk
  exact ⟨reply, ⟨shared, disk⟩, hruns⟩

/-- Who holds all queues that are locked need not wait, unless for those that open queues. -/
theorem Shared.ready_of_fits {shared : Shared} {held : Option QueueId} (hbusy : shared.busy = held.toList) (hop : op.Fits False held) :
    shared.ready op = true ∧ op.busy shared.busy = (op.leaves held).toList := by
  cases op with
  | lockQueue id =>
    obtain rfl : held = none := hop
    rw [Shared.ready, RegistryOp.busy, hbusy]
    exact ⟨rfl, rfl⟩
  | unlockQueue id =>
    obtain rfl : held = some id := hop
    refine ⟨rfl, ?_⟩
    change shared.busy.erase id = []
    rw [hbusy]
    exact List.erase_cons_head id []
  | lockOpening => exact hop.elim
  | _ => exact ⟨rfl, hbusy⟩

end Busy

/-! ## Sessions that lock queues -/

namespace Traffic

variable {files : (op : FileOp) → Disk → op.Reply → Disk → Prop} {s : Store} {t : Traffic} {holds : Nat → Option QueueId} {session : Nat}

/-- Whether every queue that is locked is held by a session with a request. -/
structure Holding (t : Traffic) (holds : Nat → Option QueueId) : Prop where
  locking : ∀ session call, t.calls session = some call → Registry.Locking True (holds session) call.left none
  idle : ∀ session, t.calls session = none → holds session = none
  busy : ∀ id ∈ t.store.shared.busy, ∃ session, holds session = some id
  nodup : t.store.shared.busy.Nodup

theorem Holding.called (h : t.Holding holds) (hidle : t.calls session = none) (request : Request) :
    (t.called session request).Holding holds where
  locking other call hother := by
    rw [calls_called] at hother
    split at hother
    · rename_i heq
      rw [heq, h.idle session hidle, ← Option.some.inj hother]
      exact request.locking_handle
    · exact h.locking other call hother
  idle other hother := by
    rw [calls_called] at hother
    split at hother
    · cases hother
    · exact h.idle other hother
  busy := h.busy
  nodup := h.nodup

/-- A session goes on with its request, and may lock a queue or unlock the one that it holds. -/
theorem Holding.worked (h : t.Holding holds) {place : Nat} {request : Request} {op : RegistryOp}
    {next : op.Reply → RegistryProgram Response} {reply : op.Reply} {store : Store}
    (hcall : t.calls session = some ⟨place, request, .ask op next⟩) (hready : t.store.shared.ready op = true)
    (hans : Store.Answers files op t.store reply store) :
    (t.worked session ⟨place, request, .ask op next⟩ (next reply) store).Holding
      (Function.update holds session (op.leaves (holds session))) := by
  obtain ⟨hop, hnext⟩ := h.locking session _ hcall
  have hbusy : store.shared.busy = op.busy t.store.shared.busy := Store.busy_of_answers hans
  refine ⟨fun other call hother => ?_, fun other hother => ?_, fun id hid => ?_, ?_⟩
  · rw [calls_worked] at hother
    split at hother
    · rename_i heq
      rw [heq, Function.update_self, ← Option.some.inj hother]
      exact hnext reply _ rfl
    · rename_i hne
      rw [Function.update_of_ne hne]
      exact h.locking other call hother
  · rw [calls_worked] at hother
    split at hother
    · cases hother
    · rename_i hne
      rw [Function.update_of_ne hne]
      exact h.idle other hother
  · have hid : id ∈ op.busy t.store.shared.busy := hbusy ▸ hid
    rcases RegistryOp.of_mem_busy hop h.nodup hid with hleaves | ⟨hid, hkeeps⟩
    · exact ⟨session, (Function.update_self _ _ _).trans hleaves⟩
    · obtain ⟨other, hother⟩ := h.busy id hid
      by_cases heq : other = session
      · exact ⟨session, (Function.update_self _ _ _).trans (hkeeps (heq ▸ hother))⟩
      · exact ⟨other, (Function.update_of_ne heq _ _).trans hother⟩
  · change store.shared.busy.Nodup
    rw [hbusy]
    exact RegistryOp.nodup_busy hready h.nodup

theorem Holding.answered (h : t.Holding holds) {place : Nat} {request : Request} {response : Response}
    (hcall : t.calls session = some ⟨place, request, .done response⟩) : (t.answered session place response).Holding holds where
  locking other call hother := by
    rw [calls_answered] at hother
    split at hother
    · cases hother
    · exact h.locking other call hother
  idle other hother := by
    rw [calls_answered] at hother
    split at hother
    · rename_i heq
      rw [heq]
      exact h.locking session _ hcall
    · exact h.idle other hother
  busy := h.busy
  nodup := h.nodup

theorem Alone.exists_holding (h : Alone files s t) (hfree : s.shared.busy = []) : ∃ holds, t.Holding holds := by
  induction h with
  | start =>
    have hbusy : (Traffic.start s).store.shared.busy = [] := hfree
    exact ⟨fun _ => none, {
      locking := fun _ _ hcall => by cases hcall
      idle := fun _ _ => rfl
      busy := fun id hid => absurd (hbusy ▸ hid) List.not_mem_nil
      nodup := hbusy ▸ List.nodup_nil }⟩
  | called request _ hidle ih =>
    obtain ⟨holds, hholding⟩ := ih
    exact ⟨holds, hholding.called hidle request⟩
  | worked _ hcall hready hans ih =>
    obtain ⟨holds, hholding⟩ := ih
    exact ⟨_, hholding.worked hcall hready hans⟩
  | answered _ hcall ih =>
    obtain ⟨holds, hholding⟩ := ih
    exact ⟨holds, hholding.answered hcall⟩

/-- When sessions have no more requests, all queues are unlocked. -/
theorem Alone.busy_eq_nil (h : Alone files s t) (hfree : s.shared.busy = []) (hidle : ∀ session, t.calls session = none) :
    t.store.shared.busy = [] := by
  obtain ⟨holds, hholding⟩ := h.exists_holding hfree
  refine List.eq_nil_iff_forall_not_mem.2 fun id hid => ?_
  obtain ⟨session, hholds⟩ := hholding.busy id hid
  rw [hholding.idle session (hidle session)] at hholds
  cases hholds

end Traffic

end QueueBroker

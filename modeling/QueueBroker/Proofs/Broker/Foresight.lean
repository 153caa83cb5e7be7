import QueueBroker.Proofs.Broker.Reports

/-!
# What a `CHECK` foretells

A `CHECK` goes by the messages that are pending, a `RECEIVE` also by the files that the queue has open. Both come to the same queue
(`Shared.Sought.again`), so the one foretells what the other is answered, unless the queue was closed by an earlier failure.
-/

namespace QueueBroker

open DurableQueue

variable {storage name : String} {d d₁ d₂ : Disk} {failed waiting : Bool}

namespace Shared

variable {s s₁ s₂ : Shared} {result : Except BrokerError Response}

/-- Who asks for a queue again comes to the same one, if nothing fails, or again to none. -/
theorem Sought.again {found : Option QueueId} {r : Except BrokerError (Option QueueId)} (h : Sought s d name (.ok found) s₁ d₁ failed)
    (h' : Sought s₁ d₁ name r s₂ d₂ false) : r = .ok found ∧ s₂ = s₁ := by
  cases found with
  | none =>
    obtain ⟨hlookup, rfl, rfl, -, hnone⟩ := h.nothing
    cases h' with
    | found _ hentered =>
      have hsome := hentered.1
      rw [hlookup] at hsome
      cases hsome
    | unnamed | absent => exact ⟨rfl, rfl⟩
    | opened _ hvalid hfound _ =>
      rcases hnone with hname | habsent
      · exact absurd hvalid hname
      · rw [hfound] at habsent
        cases habsent
  | some id =>
    obtain ⟨q, hentered, -⟩ := h.exists_entered
    have hlookup := hentered.1
    cases h' with
    | found _ hentered' =>
      have hsame := hentered'.1
      rw [hlookup] at hsame
      exact ⟨congrArg _ hsame.symm, rfl⟩
    | unnamed hnone _ | absent hnone _ | opened hnone _ _ _ =>
      rw [hlookup] at hnone
      cases hnone

/-- What is answered to a `RECEIVE` that comes next, if nothing fails then. -/
structure Foretells (s : Shared) (name : String) (waiting : Bool) (response : Response) : Prop where
  /-- The message that is waiting, -/
  message : ¬s.ClosedFor name → waiting = true → ∃ m, response = .message m
  /-- or nothing if none is, -/
  empty : ¬s.ClosedFor name → waiting = false → response = .empty
  /-- and a closed queue refuses in either case. -/
  refused : s.ClosedFor name → response.errorKind? = some .illegalState

/-- A `CHECK` that is answered tells whether there is a queue with messages. -/
theorem Checked.available (h : Checked s d name result s₁ d₁ failed) (hresult : Response.telling result = .available waiting) :
    (waiting = false ∧ Sought s d name (.ok none) s₁ d₁ failed) ∨
      ∃ id q, waiting = !q.isEmpty ∧ Sought s d name (.ok (some id)) s₁ d₁ failed ∧ s₁.Entered name id q := by
  cases h with
  | nothing hfound => exact Or.inl ⟨(Response.available.inj hresult).symm, hfound⟩
  | asked hfound hentered => exact Or.inr ⟨_, _, (Response.available.inj hresult).symm, hfound, hentered⟩
  | failed hfound => nomatch hresult

/-- Where nothing was to be had, nothing is had. -/
theorem Sought.foretells_none (h : Sought s d name (.ok none) s₁ d₁ failed) (h' : Received s₁ d₁ name result false) :
    s.Foretells name false (.telling result) := by
  have hopen := not_closedFor_of_lookup h.nothing.1
  have hempty : Response.telling result = .empty := by
    cases h' with
    | nothing _ => rfl
    | taken hfound _ _ => nomatch (h.again hfound).1
    | failed hfound => nomatch (h.again hfound).1
  exact ⟨fun _ => nofun, fun _ _ => hempty, fun hclosed => absurd hclosed hopen⟩

/-- The queue that was asked about is the one that is asked. -/
theorem Sought.foretells_some {id : QueueId} {q : DurableQueue} (h : Sought s d name (.ok (some id)) s₁ d₁ failed)
    (hentered : s₁.Entered name id q) (h' : Received s₁ d₁ name result false) :
    s.Foretells name (!q.isEmpty) (.telling result) := by
  have hclosed : s.ClosedFor name ↔ q.isClosed = true := by
    obtain ⟨q', hentered', -, -, hclosed⟩ := h.exists_entered
    obtain rfl := Option.some.inj (hentered'.2.symm.trans hentered.2)
    exact hclosed
  have hserves (hopen : q.isClosed = false) : ¬s.ClosedFor name := by
    rw [hclosed, hopen]
    exact Bool.false_ne_true
  cases h' with
  | nothing hfound => nomatch (h.again hfound).1
  | failed hfound => nomatch (h.again hfound).1
  | taken hfound hentered' htakes =>
    obtain ⟨heq, rfl⟩ := h.again hfound
    obtain rfl := Option.some.inj (Except.ok.inj heq)
    obtain rfl := Option.some.inj (hentered.2.symm.trans hentered'.2)
    cases htakes with
    | refused hq => exact ⟨fun hopen => absurd (hclosed.2 hq) hopen, fun hopen => absurd (hclosed.2 hq) hopen, fun _ => rfl⟩
    | nothing hopen hempty =>
      rw [hempty]
      exact ⟨fun _ => nofun, fun _ _ => rfl, fun hq => absurd hq (hserves hopen)⟩
    | message hopen hwaiting _ =>
      rw [hwaiting]
      exact ⟨fun _ _ => ⟨_, rfl⟩, fun _ => nofun, fun hq => absurd hq (hserves hopen)⟩

/-- What is answered to a `CHECK` and then to a `RECEIVE` during which nothing fails. -/
theorem Orderly.foretells (h : s.Orderly storage) {response : Response}
    (hcheck : (execute (Request.check name).handle s).Runs (FileOp.Answers True) d (.available waiting, s₁) d₁)
    (hreceive : (execute (Request.receive name).handle s₁).Runs (FileOp.Answers False) d₁ (response, s₂) d₂) :
    s.Foretells name waiting response := by
  -- What a `CHECK` leaves behind is orderly too.
  obtain ⟨files, hnoted⟩ := FileProgram.exists_noted hcheck (s.held name)
  have hworks := (h.confined_execute (RegistryProgram.keepsTo_handle (.check name)) nofun (List.Subset.refl _)).of_runs hnoted
  obtain ⟨failed, hwatched⟩ := FileProgram.exists_watched hcheck false
  have hchecked : Watches (Request.check name).handle s d false fun response s' d' failed =>
      ∃ result, Response.telling result = response ∧ Checked s d name result s' d' failed :=
    .handle ((h.watches_handleCheck name d).mono fun result _ _ _ hend => ⟨result, rfl, hend⟩)
  have hreceived : Watches (Request.receive name).handle s₁ d₁ false fun response _ _ failed =>
      ∃ result, Response.telling result = response ∧ Received s₁ d₁ name result failed :=
    .handle ((hworks.orderly.watches_handleReceive name d₁).mono fun result _ _ _ hend => ⟨result, rfl, hend⟩)
  obtain ⟨checked, hanswer, hchecked⟩ := hchecked.of_runs hwatched
  obtain ⟨received, rfl, hreceived⟩ := hreceived.of_runs (FileProgram.watched_of_false hreceive)
  obtain ⟨rfl, hfound⟩ | ⟨id, q, rfl, hfound, hentered⟩ := hchecked.available hanswer
  · exact hfound.foretells_none hreceived
  · exact hfound.foretells_some hentered hreceived

end Shared

namespace Response

instance decidableAvailable (waiting : Bool) : (response : Response) → Decidable (response = available waiting)
  | available other => decidable_of_iff (other = waiting) (by rw [available.injEq])
  | ack | message _ | empty | error _ => isFalse nofun

instance decidableMessage : (response : Response) → Decidable (∃ m, response = message m)
  | message m => isTrue ⟨m, rfl⟩
  | ack | available _ | empty | error _ => isFalse nofun

end Response

namespace Store

/-- What a store becomes by some actions in turn. -/
def after : List Action → Store → Store
  | [], s => s
  | a :: actions, s => after actions (s.perform a).2

/-- The second of two requests has a run in which nothing fails. -/
theorem AllQuiet.runs {s : Store} {first second : Request} (h : s.AllQuiet [.request first, .request second]) :
    (Shared.execute second.handle (s.run first.handle).2.shared).Runs (FileOp.Answers False) (s.run first.handle).2.disk
      (((s.run first.handle).2.run second.handle).1, ((s.run first.handle).2.run second.handle).2.shared)
      ((s.run first.handle).2.run second.handle).2.disk :=
  FileProgram.Undisturbed.runs h.2.1

end Store

namespace Traffic

variable {durable : Bool} {files : Openings} {t : Traffic} {s₁ s₂ : Shared} {response : Response}

/-- Whatever requests there were before, whatever became of the files and whichever operations failed, the answer to a `CHECK` foretells
that to a `RECEIVE` which comes next, unless the queue was closed by a failure. -/
theorem check_foretells (h : Reached storage durable files t)
    (hcheck : (Shared.execute (Request.check name).handle t.store.shared).Runs (FileOp.Answers True) t.store.disk
      (.available waiting, s₁) d₁)
    (hreceive : (Shared.execute (Request.receive name).handle s₁).Runs (FileOp.Answers False) d₁ (response, s₂) d₂) :
    t.store.shared.Foretells name waiting response :=
  h.separate.orderly.foretells hcheck hreceive

/-- A directory with the log of a destination, in which there is a message. -/
def waitingDisk : Disk :=
  let (log, d) := (Disk.empty "home").create ["home", "q"]
  (d.append log (Log.recordOf emptyMessage.bytes)).2

/-- The message that is found in the log is foretold and taken. -/
theorem check_foretells_waiting :
    ((Store.begin "" false waitingDisk).run (Request.check "q").handle).1 = .available true ∧
      ∃ m, (((Store.begin "" false waitingDisk).run (Request.check "q").handle).2.run (Request.receive "q").handle).1 = .message m := by
  have hanswer : ((Store.begin "" false waitingDisk).run (Request.check "q").handle).1 = .available true := by decide +kernel
  have hquiet : (Store.begin "" false waitingDisk).AllQuiet [.request (.check "q"), .request (.receive "q")] := by decide +kernel
  have hcheck := Store.runs_run (Request.check "q").handle (Store.begin "" false waitingDisk)
  rw [hanswer] at hcheck
  have hforetells := check_foretells (.start waitingDisk) hcheck hquiet.runs
  exact ⟨hanswer, hforetells.message (Shared.not_closedFor_of_lookup rfl) rfl⟩

/-- A queue that a failure has closed keeps its messages, and a `CHECK` tells of them, but a `RECEIVE` takes none. -/
theorem not_forall_foretold :
    ¬∀ (storage : String) (d : Disk) (before : List Request) (name : String),
      (((Store.begin storage false d).after (before.map .request)).run (Request.check name).handle).1 = .available true →
      ((Store.begin storage false d).after (before.map .request)).AllQuiet [.request (.check name), .request (.receive name)] →
      ∃ m, ((((Store.begin storage false d).after (before.map .request)).run (Request.check name).handle).2.run
        (Request.receive name).handle).1 = .message m := by
  intro h
  have htaken := h "" fullDisk [.receive "q"] "q" (by decide +kernel) (by decide +kernel)
  revert htaken
  decide +kernel

end Traffic

end QueueBroker

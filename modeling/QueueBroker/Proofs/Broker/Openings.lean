import QueueBroker.Proofs.Runs
import QueueBroker.Queue.Registry

/-!
# How far a call on the registry has come

A registry is asked for queues, and is asked to close them all, by any number of calls at the same time. What a call has done that
concerns the others is its `Stand`: whether it keeps them from opening queues, which queue it has opened and not entered yet, which
queues it has noted and means to close. `Stand.Moves` says what its steps make of that, whatever they are answered;
`RegistryCall.leads_program` takes the programs of the calls apart by it.
-/

namespace QueueBroker

/-- A call on a registry. -/
inductive RegistryCall where
  | get (name : String)
  | getOrCreate (name : String)
  | closeAll
deriving DecidableEq

/-- How far a call has come. -/
inductive Stand where
  | looking
  /-- It may open queues, and all others may not. -/
  | holding
  /-- It may open queues, and there is no entry of a name. -/
  | missing (name : String)
  /-- It may open queues, and has opened one for a name, which it has to enter. -/
  | opened (name : String) (id : QueueId)
  | beginning
  /-- It has noted queues, which it will close once it has forgotten all entries. -/
  | noted (ids : List QueueId)
  /-- It has forgotten all entries, and these queues are left for it to close. -/
  | closing (ids : List QueueId)

namespace Stand

/-- Whether a call may open queues and all others may not. -/
def Locked : Stand → Prop
  | holding | missing _ | opened _ _ => True
  | looking | beginning | noted _ | closing _ => False

/-- Whether a call relies on it that there is no entry of a name. -/
def Lacks (name : String) : Stand → Prop
  | missing other | opened other _ => other = name
  | looking | holding | beginning | noted _ | closing _ => False

/-- Whether a call has noted a queue and has not closed it yet. -/
def Closes (id : QueueId) : Stand → Prop
  | noted ids | closing ids => id ∈ ids
  | looking | holding | missing _ | opened _ _ | beginning => False

variable {stand : Stand} {name : String}

theorem Lacks.locked (h : stand.Lacks name) : stand.Locked := by
  cases stand <;> first | exact trivial | exact h.elim

/-- The steps of a call, and where it comes by them. -/
inductive Moves : Stand → (op : RegistryOp) → op.Reply → Stand → Prop where
  | look {name : String} {found : Option QueueId} : Moves .looking (.lookup name) found .looking
  | stat {name : String} {found : Except BrokerError Bool} : Moves .looking (.hasLog name) found .looking
  | lock : Moves .looking .lockOpening () .holding
  | present {name : String} {id : QueueId} : Moves .holding (.lookup name) (some id) .holding
  | absent {name : String} : Moves .holding (.lookup name) none (.missing name)
  | made {name : String} : Moves (.missing name) .makeStorage (.ok ()) (.missing name)
  | unmade {name : String} {e : BrokerError} : Moves (.missing name) .makeStorage (.error e) .holding
  | opened {name : String} {id : QueueId} : Moves (.missing name) (.openQueue name) (.ok id) (.opened name id)
  | unopened {name : String} {e : BrokerError} : Moves (.missing name) (.openQueue name) (.error e) .holding
  | insert {name : String} {id : QueueId} : Moves (.opened name id) (.insert name id) () .holding
  | unlock : Moves .holding .unlockOpening () .looking
  | note {entries : List (String × QueueId)} : Moves .beginning .entries entries (.noted (entries.map Prod.snd))
  | clear {ids : List QueueId} : Moves (.noted ids) .clear () (.closing ids)
  | lockQueue {ids : List QueueId} {id : QueueId} : Moves (.closing ids) (.lockQueue id) () (.closing ids)
  | unlockQueue {ids : List QueueId} {id : QueueId} : Moves (.closing ids) (.unlockQueue id) () (.closing ids)
  | closed {id : QueueId} {ids : List QueueId} : Moves (.closing (id :: ids)) (.isClosed id) true (.closing ids)
  | unclosed {id : QueueId} {ids : List QueueId} : Moves (.closing (id :: ids)) (.isClosed id) false (.closing (id :: ids))
  | close {id : QueueId} {ids : List QueueId} {result : Except BrokerError Unit} :
      Moves (.closing (id :: ids)) (.close id) result (.closing ids)

/-- Whether a call may make a step. -/
def Allows (stand : Stand) (op : RegistryOp) : Prop :=
  ∃ reply stand', stand.Moves op reply stand'

/-- A step that a call may make takes it somewhere, whatever it is answered. -/
theorem Allows.moves {op : RegistryOp} (h : stand.Allows op) (reply : op.Reply) :
    ∃ stand', stand.Moves op reply stand' := by
  obtain ⟨_, _, hmoves⟩ := h
  cases hmoves with
  | look => exact ⟨_, .look⟩
  | stat => exact ⟨_, .stat⟩
  | lock => exact ⟨_, .lock⟩
  | present | absent =>
    cases reply with
    | some id => exact ⟨_, .present⟩
    | none => exact ⟨_, .absent⟩
  | made | unmade =>
    cases reply with
    | ok _ => exact ⟨_, .made⟩
    | error e => exact ⟨_, .unmade⟩
  | opened | unopened =>
    cases reply with
    | ok id => exact ⟨_, .opened⟩
    | error e => exact ⟨_, .unopened⟩
  | insert => exact ⟨_, .insert⟩
  | unlock => exact ⟨_, .unlock⟩
  | note => exact ⟨_, .note⟩
  | clear => exact ⟨_, .clear⟩
  | lockQueue => exact ⟨_, .lockQueue⟩
  | unlockQueue => exact ⟨_, .unlockQueue⟩
  | closed | unclosed =>
    cases reply with
    | true => exact ⟨_, .closed⟩
    | false => exact ⟨_, .unclosed⟩
  | close => exact ⟨_, .close⟩

/-- A program makes only steps that a call may make, and ends with a result and a stand that satisfy `Q`. -/
abbrev Leads {α : Type} (p : RegistryProgram α) (stand : Stand) (Q : α → Stand → Prop) : Prop :=
  p.Guarded Allows Moves stand Q

variable {α : Type} {Q : α → Stand → Prop}

/-- What is done while others may not open queues ends with nothing opened that is not entered. -/
theorem leads_whileOpening {p : RegistryProgram α} (hp : Leads p .holding fun _ stand => stand = .holding) :
    Leads (Registry.whileOpening p) .looking fun _ stand => stand = .looking := by
  refine .bind (.request ⟨_, _, .lock⟩ fun _ _ hmoves => ?_)
  cases hmoves
  refine .bind (hp.mono fun a stand heq => ?_)
  subst heq
  refine .bind (.request ⟨_, _, .unlock⟩ fun _ _ hmoves => ?_)
  cases hmoves
  exact .pure rfl

theorem leads_openAndInsert (name : String) :
    Leads (Registry.openAndInsert name) (.missing name) fun _ stand => stand = .holding := by
  refine .bind (.request ⟨.error (Shared.noQueue 0), _, .unopened⟩ fun _ _ hmoves => ?_)
  cases hmoves with
  | unopened => exact .pure rfl
  | opened =>
    refine .bind (.request ⟨_, _, .insert⟩ fun _ _ hmoves => ?_)
    cases hmoves
    exact .pure rfl

theorem leads_getOrCreate (name : String) : Leads (Registry.getOrCreate name) .looking fun _ stand => stand = .looking := by
  refine .bind (.request ⟨none, _, .look⟩ fun found _ hmoves => ?_)
  cases hmoves
  cases found with
  | some id => exact .pure rfl
  | none =>
    dsimp only
    split
    · exact .pure rfl
    · refine leads_whileOpening (.bind (.request ⟨_, _, .absent⟩ fun _ _ hmoves => ?_))
      cases hmoves with
      | present => exact .pure rfl
      | absent =>
        refine .bind (.request ⟨_, _, .made⟩ fun _ _ hmoves => ?_)
        cases hmoves with
        | unmade => exact .pure rfl
        | made => exact leads_openAndInsert name

theorem leads_get (name : String) : Leads (Registry.get name) .looking fun _ stand => stand = .looking := by
  refine .bind (.request ⟨none, _, .look⟩ fun found _ hmoves => ?_)
  cases hmoves
  cases found with
  | some id => exact .pure rfl
  | none =>
    dsimp only
    split
    · exact .pure rfl
    · refine .bind (.request ⟨.ok true, _, .stat⟩ fun hasLog _ hmoves => ?_)
      cases hmoves
      match hasLog with
      | .error e => exact .pure rfl
      | .ok false => exact .pure rfl
      | .ok true =>
        refine leads_whileOpening (.bind (.request ⟨_, _, .absent⟩ fun _ _ hmoves => ?_))
        cases hmoves with
        | present => exact .pure rfl
        | absent =>
          refine .bind ((leads_openAndInsert name).mono fun opened stand heq => ?_)
          cases opened <;> exact .pure heq

/-- Each queue of a list is closed in turn, unless it is found closed. -/
theorem leads_closeEach (entries : List (String × QueueId)) :
    Leads (Registry.closeEach entries) (.closing (entries.map Prod.snd)) fun _ stand => stand = .closing [] := by
  induction entries with
  | nil => exact .pure rfl
  | cons entry entries ih =>
    obtain ⟨name, id⟩ := entry
    rw [List.map_cons]
    generalize entries.map Prod.snd = ids at ih ⊢
    refine .bind (.mono (R := fun _ stand => stand = .closing ids) ?_ fun closed stand heq => ?_)
    · refine .bind (.request ⟨_, _, .lockQueue⟩ fun _ _ hmoves => ?_)
      cases hmoves
      refine .bind (.mono (R := fun _ stand => stand = .closing ids) ?_ fun closed stand heq => ?_)
      · refine .bind (.request ⟨_, _, .unclosed⟩ fun _ _ hmoves => ?_)
        cases hmoves with
        | closed => exact .pure rfl
        | unclosed =>
          refine .request ⟨.ok (), _, .close⟩ fun _ _ hmoves => ?_
          cases hmoves
          rfl
      · subst heq
        refine .bind (.request ⟨_, _, .unlockQueue⟩ fun _ _ hmoves => ?_)
        cases hmoves
        exact .pure rfl
    · subst heq
      refine .bind (ih.mono fun rest stand heq => ?_)
      cases closed <;> exact .pure heq

theorem leads_closeAll : Leads Registry.closeAll .beginning fun _ stand => stand = .closing [] := by
  refine .bind (.request ⟨[], _, .note⟩ fun entries _ hmoves => ?_)
  cases hmoves
  refine .bind (.request ⟨_, _, .clear⟩ fun _ _ hmoves => ?_)
  cases hmoves
  exact leads_closeEach entries

end Stand

namespace RegistryCall

/-- What a call does; its result is the queue that was found, if there is one. -/
def program : RegistryCall → RegistryProgram (Except BrokerError (Option QueueId))
  | get name => Registry.get name
  | getOrCreate name => do
    let found ← Registry.getOrCreate name
    pure (found.map some)
  | closeAll => do
    let closed ← Registry.closeAll
    pure (closed.map fun _ => none)

/-- Where a call begins. -/
def begin : RegistryCall → Stand
  | get _ | getOrCreate _ => .looking
  | closeAll => .beginning

/-- Where a call is when it has a result: it keeps nobody from anything, and has no queue left to enter or to close. -/
def finish : RegistryCall → Stand
  | get _ | getOrCreate _ => .looking
  | closeAll => .closing []

theorem leads_program (call : RegistryCall) : Stand.Leads call.program call.begin fun _ stand => stand = call.finish := by
  cases call with
  | get name => exact Stand.leads_get name
  | getOrCreate name => exact .bind ((Stand.leads_getOrCreate name).mono fun _ _ heq => .pure heq)
  | closeAll => exact .bind (Stand.leads_closeAll.mono fun _ _ heq => .pure heq)

end RegistryCall

/-- A call that has a queue left to close has no result yet. -/
theorem Stand.Closes.ne_finish {stand : Stand} {id : QueueId} (h : stand.Closes id) (call : RegistryCall) : stand ≠ call.finish := by
  rintro rfl
  cases call with
  | get | getOrCreate => exact h.elim
  | closeAll => cases h

end QueueBroker

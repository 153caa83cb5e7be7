import QueueBroker.Proofs.Broker.Effects
import QueueBroker.Proofs.Broker.Openings

/-!
# What becomes of the queues of a registry

Calls ask one registry for queues or close them all, each in its own time. `fateOf` reads off the steps that they have made what has
become of a queue. A call that closes all queues first notes which are entered and then forgets all entries, so a queue that is entered
between these two is forgotten by a call that will not close it. `Recorded` says that the fates of the open queues are what they seem,
and `Paired` that a name has a second open queue only if it was opened when the first had lost its entry; a step of a call keeps both, in
whatever order calls make theirs.
-/

namespace QueueBroker

/-- A step that a call has made on the registry. -/
structure RegistryStep where
  /-- The number of the call. -/
  task : Nat
  op : RegistryOp
  reply : op.Reply

/-- What has become of a queue since it was opened. -/
inductive Fate where
  | unentered
  /-- It is entered, and no call that closes all queues has noted it. -/
  | entered
  /-- It is entered, and a call that closes all queues has noted it. -/
  | noted
  /-- Its entry is gone, and a call that closes all queues had noted it. -/
  | dismissed
  /-- Its entry is gone, and no call had noted it. -/
  | forgotten
deriving DecidableEq

namespace Fate

/-- What becomes of a queue by a step. -/
def after (id : QueueId) : Fate → RegistryOp → Fate
  | unentered, .insert _ id' => if id' = id then entered else unentered
  | entered, .entries => noted
  | entered, .clear => forgotten
  | noted, .clear => dismissed
  | fate, _ => fate

/-- Whether a queue is entered. -/
def Listed : Fate → Prop
  | entered | noted => True
  | unentered | dismissed | forgotten => False

/-- Whether a call that closes all queues has noted a queue. -/
def Noted : Fate → Prop
  | noted | dismissed => True
  | unentered | entered | forgotten => False

/-- Whether a queue has lost its entry. -/
def Lost : Fate → Prop
  | dismissed | forgotten => True
  | unentered | entered | noted => False

end Fate

/-- What has become of a queue by some steps. -/
def fateOf (id : QueueId) (steps : List RegistryStep) : Fate :=
  steps.foldl (fun fate step => fate.after id step.op) .unentered

/-- Whether a call has noted a queue. -/
def NotedBy (steps : List RegistryStep) (i : Nat) (id : QueueId) : Prop :=
  ∃ entries, ⟨i, .entries, entries⟩ ∈ steps ∧ id ∈ entries.map Prod.snd

/-- Whether a queue was opened for a name when another one, which is given first, had lost its entry. -/
def Reopened (steps : List RegistryStep) (name : String) (id id' : QueueId) : Prop :=
  ∃ before i, before ++ [⟨i, .openQueue name, .ok id'⟩] <+: steps ∧ (fateOf id before).Lost

variable {name : String} {id id' : QueueId} {q : DurableQueue} {s s' : Shared} {stand stand' : Stand} {stands : Nat → Stand}
  {op : RegistryOp} {reply : op.Reply} {steps steps' : List RegistryStep} {fate : Fate} {i count count' : Nat}

/-- Whether a step opens a queue, or has to do with all entries or with one that is made. -/
def RegistryOp.Marks : (op : RegistryOp) → op.Reply → Prop
  | insert _ _, _ | entries, _ | clear, _ | openQueue _, .ok _ => True
  | _, _ => False

theorem Fate.after_insert_of_ne (h : id' ≠ id) (name : String) : fate.after id (.insert name id') = fate := by
  cases fate with
  | unentered => exact if_neg h
  | _ => rfl

theorem Fate.Noted.after (h : fate.Noted) (id : QueueId) (op : RegistryOp) : (fate.after id op).Noted := by
  cases fate with
  | noted => cases op <;> trivial
  | dismissed => trivial
  | _ => exact h.elim

theorem Fate.noted_after_entries (h : fate.Listed) (id : QueueId) : fate.after id .entries = .noted := by
  cases fate <;> first | rfl | exact h.elim

/-- Only an entry takes a queue out of its first state. -/
theorem Fate.unentered_of_after (hop : ∀ name, op ≠ .insert name id) (h : fate.after id op ≠ .unentered) : fate ≠ .unentered := by
  rintro rfl
  refine h ?_
  cases op with
  | insert name id' => exact if_neg fun heq => hop name (congrArg _ heq)
  | _ => rfl

theorem fateOf_concat (id : QueueId) (steps : List RegistryStep) (step : RegistryStep) :
    fateOf id (steps ++ [step]) = (fateOf id steps).after id step.op :=
  List.foldl_concat ..

/-- A step that marks nothing leaves all queues what has become of them. -/
theorem fateOf_concat_of_not_marks (h : ¬op.Marks reply) (id : QueueId) (steps : List RegistryStep) (i : Nat) :
    fateOf id (steps ++ [⟨i, op, reply⟩]) = fateOf id steps := by
  rw [fateOf_concat]
  cases op <;> first | exact absurd trivial h | cases fateOf id steps <;> rfl

theorem notedBy_append : NotedBy (steps ++ steps') i id ↔ NotedBy steps i id ∨ NotedBy steps' i id := by
  simp only [NotedBy, List.mem_append, or_and_right, exists_or]

theorem NotedBy.concat (h : NotedBy steps i id) (step : RegistryStep) : NotedBy (steps ++ [step]) i id :=
  notedBy_append.2 (Or.inl h)

theorem NotedBy.of_concat {j : Nat} (h : NotedBy (steps ++ [⟨j, op, reply⟩]) i id) (hop : op ≠ .entries) : NotedBy steps i id := by
  refine (notedBy_append.1 h).resolve_right ?_
  rintro ⟨entries, hmem, -⟩
  cases List.mem_singleton.1 hmem
  exact hop rfl

theorem NotedBy.of_concat_entries {j : Nat} {entries : List (String × QueueId)}
    (h : NotedBy (steps ++ [⟨j, .entries, entries⟩]) i id) : NotedBy steps i id ∨ id ∈ entries.map Prod.snd := by
  refine (notedBy_append.1 h).imp_right ?_
  rintro ⟨entries', hmem, hid⟩
  cases List.mem_singleton.1 hmem
  exact hid

theorem Reopened.concat (h : Reopened steps name id id') (step : RegistryStep) : Reopened (steps ++ [step]) name id id' := by
  obtain ⟨before, i, hbefore, hlost⟩ := h
  exact ⟨before, i, hbefore.trans (List.prefix_append ..), hlost⟩

/-- A queue was opened for a name before the last step, or by it. -/
theorem Reopened.of_concat {step : RegistryStep} (h : Reopened (steps ++ [step]) name id id') :
    Reopened steps name id id' ∨ (fateOf id steps).Lost ∧ ∃ i, step = ⟨i, .openQueue name, .ok id'⟩ := by
  obtain ⟨before, i, hbefore, hlost⟩ := h
  rcases List.prefix_concat_iff.1 hbefore with heq | hbefore
  · obtain ⟨rfl, hstep⟩ := List.append_inj' heq rfl
    exact Or.inr ⟨hlost, i, (List.cons.inj hstep).1.symm⟩
  · exact Or.inl ⟨before, i, hbefore, hlost⟩

/-- A step that opens no queue makes none a second one. -/
theorem reopened_concat_iff {step : RegistryStep} (h : ∀ j, step ≠ ⟨j, .openQueue name, .ok id'⟩) :
    Reopened (steps ++ [step]) name id id' ↔ Reopened steps name id id' := by
  refine ⟨fun hopened => hopened.of_concat.resolve_right ?_, fun hopened => hopened.concat step⟩
  rintro ⟨-, j, heq⟩
  exact h j heq

/-! ## What a step of a call does -/

/-- What a call relies on: that it may open queues, and that a name it found without entry has none. -/
structure Stand.Fits (s : Shared) (stand : Stand) : Prop where
  locked : stand.Locked → s.opening = true
  lacks : ∀ name, stand.Lacks name → s.registry.lookup name = none

/-- A call that has not found a name without entry relies on the lock alone. -/
theorem Stand.Fits.of_bare (hlocked : stand.Locked → s.opening = true) (hlacks : ∀ name, ¬stand.Lacks name) : stand.Fits s :=
  ⟨hlocked, fun name h => absurd h (hlacks name)⟩

theorem RegistryCall.fits_begin (call : RegistryCall) (s : Shared) : call.begin.Fits s := by
  cases call <;> exact .of_bare (fun h => h.elim) fun _ h => h

theorem Stand.Fits.leaves (h : stand.Fits s) (hleaves : s.Leaves s') : stand.Fits s' := by
  refine ⟨fun hlocked => hleaves.opening.trans (h.locked hlocked), fun name hlacks => ?_⟩
  rw [hleaves.registry]
  exact h.lacks name hlacks

/-- A step of a call that opens no queue and leaves the entries, and what the call has in hand unless that is closed. -/
structure Unmarked (s s' : Shared) (stand stand' : Stand) : Prop where
  registry : s'.registry = s.registry
  length : s'.queues.length = s.queues.length
  active : ∀ id name, s'.Active id name → s.Active id name
  fits : stand'.Fits s'
  locks : stand'.Locked → stand.Locked ∨ s.opening = false
  keeps : ¬stand.Locked → s.opening = true → s'.opening = true
  opened : ∀ name id, stand' = .opened name id ↔ stand = .opened name id
  closes : ∀ id, stand'.Closes id → stand.Closes id
  left : ∀ id name, s'.Active id name → stand.Closes id → stand'.Closes id

/-- What a step of a call does to what is shared, and where the call comes by it. -/
inductive Shift (s : Shared) : Stand → (op : RegistryOp) → op.Reply → Shared → Stand → Prop where
  | unmarked {s' : Shared} {stand stand' : Stand} {op : RegistryOp} {reply : op.Reply} : ¬op.Marks reply → Unmarked s s' stand stand' →
      Shift s stand op reply s' stand'
  | opens (q : DurableQueue) :
      Shift s (.missing q.name) (.openQueue q.name) (.ok s.queues.length) { s with queues := s.queues ++ [q] }
        (.opened q.name s.queues.length)
  | enters (name : String) (id : QueueId) :
      Shift s (.opened name id) (.insert name id) () { s with registry := s.registry.insert name id } .holding
  | notes : Shift s .beginning .entries s.registry.entries s (.noted (s.registry.entries.map Prod.snd))
  | clears (ids : List QueueId) : Shift s (.noted ids) .clear () { s with registry := s.registry.clear } (.closing ids)

/-- A step that leaves entries and locks. -/
theorem Unmarked.of_leaves (hleaves : s.Leaves s') (hfits : stand'.Fits s') (hlocked : stand'.Locked → stand.Locked)
    (hopened : ∀ name id, stand' = .opened name id ↔ stand = .opened name id) (hcloses : ∀ id, stand'.Closes id → stand.Closes id)
    (hleft : ∀ id name, s'.Active id name → stand.Closes id → stand'.Closes id) : Unmarked s s' stand stand' where
  registry := hleaves.registry
  length := hleaves.length
  active := hleaves.active
  fits := hfits
  locks h := Or.inl (hlocked h)
  keeps _ h := hleaves.opening.trans h
  opened := hopened
  closes := hcloses
  left := hleft

/-- A step that leaves a call where it is. -/
theorem Unmarked.of_same (hleaves : s.Leaves s') (hfits : stand.Fits s) : Unmarked s s' stand stand :=
  .of_leaves hleaves (hfits.leaves hleaves) (fun h => h) (fun _ _ => Iff.rfl) (fun _ h => h) fun _ _ _ h => h

/-- A call that has found a name without entry begins to open a queue for it, or gives up. -/
theorem Unmarked.of_bare (hfits : stand'.Fits s) (hlocked : stand'.Locked → stand.Locked)
    (hopened : ∀ name id, stand' ≠ .opened name id ∧ stand ≠ .opened name id) (hcloses : ∀ id, ¬stand'.Closes id ∧ ¬stand.Closes id) :
    Unmarked s s stand stand' :=
  .of_leaves (.refl s) hfits hlocked (fun name id => iff_of_false (hopened name id).1 (hopened name id).2)
    (fun id h => absurd h (hcloses id).1) fun id _ _ h => absurd h (hcloses id).2

/-- Of the queues that a call has to close one is left out, which is not open any more. -/
theorem unmarked_closing {ids : List QueueId} (hleaves : s.Leaves s') (hclosed : ∀ name, ¬s'.Active id name) :
    Unmarked s s' (.closing (id :: ids)) (.closing ids) := by
  refine .of_leaves hleaves (.of_bare (fun h => h.elim) fun _ h => h) (fun h => h) (fun _ _ => iff_of_false nofun nofun)
    (fun _ h => List.mem_cons_of_mem id h) fun other name ha hcloses => ?_
  refine (List.mem_cons.1 hcloses).resolve_left ?_
  rintro rfl
  exact hclosed name ha

/-- A call begins to open queues when nobody else does. -/
theorem unmarked_lock (hready : s.ready .lockOpening = true) : Unmarked s { s with opening := true } .looking .holding where
  registry := rfl
  length := rfl
  active _ _ h := h
  fits := .of_bare (fun _ => rfl) fun _ h => h
  locks _ := Or.inr (by simpa [Shared.ready] using hready)
  keeps _ _ := rfl
  opened _ _ := iff_of_false nofun nofun
  closes _ h := h
  left _ _ _ h := h

theorem unmarked_unlock (s : Shared) : Unmarked s { s with opening := false } .holding .looking where
  registry := rfl
  length := rfl
  active _ _ h := h
  fits := .of_bare (fun h => h.elim) fun _ h => h
  locks h := h.elim
  keeps hfree _ := absurd trivial hfree
  opened _ _ := iff_of_false nofun nofun
  closes _ h := h
  left _ _ _ h := h

/-- What a step of a call does, given what the call relies on. -/
theorem Stand.Moves.shift (hmoves : stand.Moves op reply stand') (heffect : s.Effect op reply s') (hready : s.ready op = true)
    (hfits : stand.Fits s) : Shift s stand op reply s' stand' := by
  cases hmoves with
  | look | present =>
    obtain ⟨rfl, -⟩ := heffect
    exact .unmarked (fun h => h) (.of_same (.refl s') hfits)
  | stat | made =>
    obtain rfl := heffect
    exact .unmarked (fun h => h) (.of_same (.refl s') hfits)
  | lockQueue | unlockQueue | unclosed => exact .unmarked (fun h => h) (.of_same (heffect.leaves trivial) hfits)
  | lock =>
    obtain rfl := heffect
    exact .unmarked (fun h => h) (unmarked_lock hready)
  | unlock =>
    obtain rfl := heffect
    exact .unmarked (fun h => h) (unmarked_unlock s)
  | absent =>
    obtain ⟨rfl, hnone⟩ := heffect
    refine .unmarked (fun h => h)
      (.of_bare ⟨hfits.locked, fun name hname => ?_⟩ (fun h => h) (fun _ _ => ⟨nofun, nofun⟩) fun _ => ⟨fun h => h, fun h => h⟩)
    obtain rfl : _ = name := hname
    exact hnone.symm
  | unmade | unopened =>
    obtain rfl := heffect
    exact .unmarked (fun h => h)
      (.of_bare (.of_bare hfits.locked fun _ h => h) (fun h => h) (fun _ _ => ⟨nofun, nofun⟩) fun _ => ⟨fun h => h, fun h => h⟩)
  | opened =>
    obtain ⟨rfl, q, rfl, rfl⟩ := heffect
    exact .opens q
  | insert =>
    obtain rfl := heffect
    exact .enters _ _
  | note =>
    obtain ⟨rfl, rfl⟩ := heffect
    exact .notes
  | clear =>
    obtain rfl := heffect
    exact .clears _
  | closed =>
    obtain ⟨rfl, hclosed⟩ := heffect
    refine .unmarked (fun h => h) (unmarked_closing (.refl s') ?_)
    rintro name ⟨q, hq, -, hopen⟩
    rw [hq, Option.all_some, hopen] at hclosed
    cases hclosed
  | close => exact .unmarked (fun h => h) (unmarked_closing (heffect.leaves trivial) heffect.2)

theorem Shift.locks (h : Shift s stand op reply s' stand') (hlocked : stand'.Locked) : stand.Locked ∨ s.opening = false := by
  cases h with
  | unmarked _ hunmarked => exact hunmarked.locks hlocked
  | opens | enters => exact Or.inl trivial
  | notes | clears => exact hlocked.elim

theorem Shift.keeps (h : Shift s stand op reply s' stand') (hfree : ¬stand.Locked) (hopening : s.opening = true) :
    s'.opening = true := by
  cases h with
  | unmarked _ hunmarked => exact hunmarked.keeps hfree hopening
  | opens | enters => exact absurd trivial hfree
  | notes | clears => exact hopening

/-- A new entry is that of a queue that the call has opened. -/
theorem Shift.entered (h : Shift s stand op reply s' stand') (hfound : s'.registry.lookup name = some id) :
    s.registry.lookup name = some id ∨ stand = .opened name id := by
  cases h with
  | unmarked _ hunmarked => exact Or.inl (hunmarked.registry ▸ hfound)
  | opens | notes => exact Or.inl hfound
  | clears => cases hfound
  | enters other id' =>
    by_cases hne : name = other
    · subst hne
      rw [Registry.lookup_insert_self] at hfound
      exact Or.inr (Option.some.inj hfound ▸ rfl)
    · rw [Registry.lookup_insert_of_ne hne] at hfound
      exact Or.inl hfound

theorem Shift.fits (h : Shift s stand op reply s' stand') (hfits : stand.Fits s) : stand'.Fits s' := by
  cases h with
  | unmarked _ hunmarked => exact hunmarked.fits
  | opens => exact ⟨hfits.locked, hfits.lacks⟩
  | enters => exact .of_bare hfits.locked fun _ h => h
  | notes | clears => exact .of_bare (fun h => h.elim) fun _ h => h

theorem Registry.mem_entries_of_lookup {r : Registry} (h : r.lookup name = some id) : (name, id) ∈ r.entries := by
  obtain ⟨before, after, hentries, -⟩ := List.lookup_eq_some_iff.1 h
  exact hentries ▸ List.mem_append_right _ List.mem_cons_self

/-! ## What calls rely on -/

/-- What calls rely on while they are in their stands; one at most may open queues. -/
structure Standing (s : Shared) (stands : Nat → Stand) : Prop where
  alone : ∀ i j, (stands i).Locked → (stands j).Locked → i = j
  fits : ∀ i, (stands i).Fits s

/-- A call that comes to another stand leaves the others what they rely on, if it opened what it enters, and may open queues only if it
could before or nobody could. -/
theorem Standing.update (h : Standing s stands) (hfits : stand'.Fits s') (hlocks : stand'.Locked → (stands i).Locked ∨ s.opening = false)
    (hkeeps : ¬(stands i).Locked → s.opening = true → s'.opening = true)
    (hentered : ∀ name id, s'.registry.lookup name = some id → s.registry.lookup name = some id ∨ stands i = .opened name id) :
    Standing s' (Function.update stands i stand') := by
  have honly (hlocked : stand'.Locked) (j : Nat) (hne : j ≠ i) : ¬(stands j).Locked := by
    intro hj
    rcases hlocks hlocked with hi | hfree
    · exact hne (h.alone j i hj hi)
    · cases hfree.symm.trans ((h.fits j).locked hj)
  refine ⟨(Function.forall_update_iff stands fun j stand => ∀ k, stand.Locked → (Function.update stands i stand' k).Locked → j = k).2
    ⟨fun k hi hk => ?_, fun j hne k hj hk => ?_⟩, (Function.forall_update_iff stands fun _ stand => stand.Fits s').2
    ⟨hfits, fun j hne => ⟨fun hj => ?_, fun name hlacks => ?_⟩⟩⟩
  · by_contra hne
    rw [Function.update_of_ne (Ne.symm hne)] at hk
    exact honly hi k (Ne.symm hne) hk
  · by_cases hki : k = i
    · subst hki
      rw [Function.update_self] at hk
      exact absurd hj (honly hk j hne)
    · rw [Function.update_of_ne hki] at hk
      exact h.alone j k hj hk
  · exact hkeeps (fun hi => hne (h.alone j i hj hi)) ((h.fits j).locked hj)
  · refine Option.eq_none_iff_forall_ne_some.2 fun id hfound => ?_
    rcases hentered name id hfound with hbefore | hi
    · cases ((h.fits j).lacks name hlacks).symm.trans hbefore
    · exact hne (h.alone j i hlacks.locked (hi ▸ trivial))

theorem Standing.moved (h : Standing s stands) (hshift : Shift s (stands i) op reply s' stand') :
    Standing s' (Function.update stands i stand') :=
  h.update (hshift.fits (h.fits i)) hshift.locks hshift.keeps fun _ _ => hshift.entered

theorem Standing.unmarked (h : Standing s stands) (hunmarked : Unmarked s s' (stands i) stand') :
    Standing s' (Function.update stands i stand') :=
  h.update hunmarked.fits hunmarked.locks hunmarked.keeps fun _ _ hfound => Or.inl (hunmarked.registry ▸ hfound)

/-! ## What has become of open queues -/

/-- What an open queue of a name has to do with the entries and with calls in their stands. -/
def Fate.Shown (s : Shared) (stands : Nat → Stand) (id : QueueId) (name : String) : Fate → Prop
  | unentered => ∃ i, stands i = .opened name id
  | entered => s.registry.lookup name = some id
  | noted => s.registry.lookup name = some id ∧ ∃ i, (stands i).Closes id
  | dismissed => ∃ i, (stands i).Closes id
  | forgotten => True

/-- The steps of calls tell what a call has in hand, out of so many queues that were ever opened. -/
structure Stand.Traced (count : Nat) (steps : List RegistryStep) (i : Nat) (stand : Stand) : Prop where
  opened : ∀ name id, stand = .opened name id → fateOf id steps = .unentered ∧ id < count
  closes : ∀ id, stand.Closes id → NotedBy steps i id

/-- The steps of calls tell what has become of the queues. -/
structure Recorded (s : Shared) (steps : List RegistryStep) (stands : Nat → Stand) : Prop where
  shown : ∀ id name, s.Active id name → (fateOf id steps).Shown s stands id name
  traced : ∀ i, (stands i).Traced s.queues.length steps i
  listed : ∀ name id, (name, id) ∈ s.registry.entries → (fateOf id steps).Listed
  known : ∀ id, fateOf id steps ≠ .unentered → id < s.queues.length
  noted : ∀ i id, NotedBy steps i id → (fateOf id steps).Noted

/-- An open queue that is entered is found under its name. -/
theorem Fate.Shown.lookup_eq (h : fate.Shown s stands id name) (hlisted : fate.Listed) : s.registry.lookup name = some id := by
  cases fate with
  | entered => exact h
  | noted => exact h.1
  | _ => exact hlisted.elim

/-- An open queue that was noted is one that some call has still to close. -/
theorem Fate.Shown.exists_closes (h : fate.Shown s stands id name) (hnoted : fate.Noted) : ∃ i, (stands i).Closes id := by
  cases fate with
  | noted => exact h.2
  | dismissed => exact h
  | _ => exact hnoted.elim

/-- What some call has in hand, some call has in hand after a step of one that keeps it. -/
theorem Stand.exists_update {P : Stand → Prop} (h : ∃ j, P (stands j)) (hi : P (stands i) → P stand') :
    ∃ j, P (Function.update stands i stand' j) := by
  obtain ⟨j, hj⟩ := h
  by_cases hji : j = i
  · subst hji
    exact ⟨j, (Function.update_self j stand' stands).symm ▸ hi hj⟩
  · exact ⟨j, (Function.update_of_ne hji stand' stands).symm ▸ hj⟩

/-- What an open queue has to do with calls is the same after a step of one that keeps what it has in hand. -/
theorem Fate.Shown.update (h : fate.Shown s stands id name)
    (hlookup : s.registry.lookup name = some id → s'.registry.lookup name = some id)
    (hopened : stands i = .opened name id → stand' = .opened name id) (hcloses : (stands i).Closes id → stand'.Closes id) :
    fate.Shown s' (Function.update stands i stand') id name := by
  have hleft (h : ∃ j, (stands j).Closes id) : ∃ j, (Function.update stands i stand' j).Closes id := Stand.exists_update h hcloses
  cases fate with
  | unentered => exact Stand.exists_update (P := fun stand => stand = .opened name id) h hopened
  | entered => exact hlookup h
  | noted => exact ⟨hlookup h.1, hleft h.2⟩
  | dismissed => exact hleft h
  | forgotten => trivial

/-- The call that opened a queue enters it, in the place of no other. -/
theorem Fate.Shown.enters (h : fate.Shown s stands id name) (hstanding : Standing s stands) {other : String}
    (hi : stands i = .opened other id') (hfate : id' = id → fate = .unentered) :
    (fate.after id (.insert other id')).Shown { s with registry := s.registry.insert other id' } (Function.update stands i .holding) id
      name := by
  by_cases heq : id' = id
  · subst heq
    obtain rfl := hfate rfl
    obtain ⟨j, hj⟩ := h
    cases hi.symm.trans (hstanding.alone j i (hj ▸ trivial) (hi ▸ trivial) ▸ hj)
    rw [Fate.after, if_pos rfl]
    exact Registry.lookup_insert_self
  · rw [Fate.after_insert_of_ne heq]
    refine h.update (fun hfound => (Registry.lookup_insert_of_ne ?_).trans hfound) (fun hopened => ?_) fun hcloses => (hi ▸ hcloses).elim
    · rintro rfl
      cases ((hstanding.fits i).lacks name (hi ▸ rfl)).symm.trans hfound
    · cases hi.symm.trans hopened
      exact absurd rfl heq

/-- A call that notes the queues which are entered will close them. -/
theorem Fate.Shown.notes (h : fate.Shown s stands id name) (hi : stands i = .beginning) :
    (fate.after id .entries).Shown s (Function.update stands i (.noted (s.registry.entries.map Prod.snd))) id name := by
  have hshown : fate.Shown s (Function.update stands i (.noted (s.registry.entries.map Prod.snd))) id name :=
    h.update (fun h => h) (fun hopened => by cases hi.symm.trans hopened) fun hcloses => (hi ▸ hcloses).elim
  cases fate with
  | entered =>
    refine ⟨h, i, ?_⟩
    rw [Function.update_self]
    exact List.mem_map_of_mem (Registry.mem_entries_of_lookup h)
  | unentered | noted | dismissed | forgotten => exact hshown

/-- A call that forgets all entries will close what it noted. -/
theorem Fate.Shown.clears (h : fate.Shown s stands id name) {ids : List QueueId} (hi : stands i = .noted ids) :
    (fate.after id .clear).Shown { s with registry := s.registry.clear } (Function.update stands i (.closing ids)) id name := by
  have hleft (hcloses : ∃ j, (stands j).Closes id) : ∃ j, (Function.update stands i (.closing ids) j).Closes id :=
    Stand.exists_update hcloses fun hid => (hi ▸ hid : (Stand.noted ids).Closes id)
  cases fate with
  | unentered =>
    exact Stand.exists_update (P := fun stand => stand = .opened name id) h fun hopened => by cases hi.symm.trans hopened
  | entered | forgotten => trivial
  | noted => exact hleft h.2
  | dismissed => exact hleft h

/-- A call that has neither opened a queue nor noted any. -/
theorem Stand.Traced.of_bare (hopened : ∀ name id, stand ≠ .opened name id) (hcloses : ∀ id, ¬stand.Closes id) :
    stand.Traced count steps i :=
  ⟨fun name id h => absurd h (hopened name id), fun id h => absurd h (hcloses id)⟩

/-- What a call has in hand is told after a step of another that does not concern it. -/
theorem Stand.Traced.concat (h : stand.Traced count steps i) (hcount : count ≤ count') (step : RegistryStep)
    (hfates : ∀ name id, stand = .opened name id → (fateOf id steps).after id step.op = fateOf id steps) :
    stand.Traced count' (steps ++ [step]) i where
  opened name id hstand := by
    obtain ⟨hfate, hid⟩ := h.opened name id hstand
    rw [fateOf_concat, hfates name id hstand]
    exact ⟨hfate, Nat.lt_of_lt_of_le hid hcount⟩
  closes id hcloses := (h.closes id hcloses).concat step

/-- A step that marks nothing leaves the queues what has become of them. -/
theorem Recorded.unmarked (h : Recorded s steps stands) (hunmarked : Unmarked s s' (stands i) stand')
    (hfates : ∀ id, fateOf id steps' = fateOf id steps) (hnoted : ∀ j id, NotedBy steps' j id ↔ NotedBy steps j id) :
    Recorded s' steps' (Function.update stands i stand') := by
  have htraced {stand : Stand} {j : Nat} (h : stand.Traced s.queues.length steps j) : stand.Traced s'.queues.length steps' j := by
    refine ⟨fun name id hstand => ?_, fun id hcloses => (hnoted j id).2 (h.closes id hcloses)⟩
    rw [hfates, hunmarked.length]
    exact h.opened name id hstand
  have hself : stand'.Traced s.queues.length steps i :=
    ⟨fun name id hstand => (h.traced i).opened name id ((hunmarked.opened name id).1 hstand),
      fun id hcloses => (h.traced i).closes id (hunmarked.closes id hcloses)⟩
  refine ⟨fun id name ha => ?_, (Function.forall_update_iff stands fun j stand => stand.Traced _ steps' j).2
    ⟨htraced hself, fun j _ => htraced (h.traced j)⟩, fun name id hmem => ?_, fun id hid => ?_, fun j id hj => ?_⟩
  · rw [hfates]
    exact (h.shown id name (hunmarked.active id name ha)).update (fun hfound => hunmarked.registry.symm ▸ hfound)
      (hunmarked.opened name id).2 (hunmarked.left id name ha)
  · rw [hfates]
    exact h.listed name id (hunmarked.registry ▸ hmem)
  · rw [hunmarked.length]
    exact h.known id (hfates id ▸ hid)
  · rw [hfates]
    exact h.noted j id ((hnoted j id).1 hj)

/-- A queue that was opened is in the hands of the call that opened it. -/
theorem Recorded.opens (h : Recorded s steps stands) (hi : stands i = .missing q.name) :
    Recorded { s with queues := s.queues ++ [q] } (steps ++ [⟨i, .openQueue q.name, .ok s.queues.length⟩])
      (Function.update stands i (.opened q.name s.queues.length)) := by
  have hafter (id : QueueId) (fate : Fate) : fate.after id (.openQueue q.name) = fate := by cases fate <;> rfl
  have hnew : fateOf s.queues.length steps = .unentered := by
    by_contra hne
    exact Nat.lt_irrefl _ (h.known _ hne)
  have hlength : s.queues.length < (s.queues ++ [q]).length := by
    rw [List.length_append]
    exact Nat.lt_succ_self _
  refine ⟨fun id name ha => ?_, (Function.forall_update_iff stands fun j stand => stand.Traced _ _ j).2
    ⟨⟨?_, fun _ h => h.elim⟩, fun j _ => (h.traced j).concat (Nat.le_of_lt hlength) _ fun _ id _ => hafter id _⟩,
    fun name id hmem => ?_, fun id hid => ?_, fun j id hj => ?_⟩
  · rw [fateOf_concat, hafter]
    rcases Shared.active_append_iff.1 ha with ha | ⟨rfl, rfl, -⟩
    · exact (h.shown id name ha).update (fun h => h) (fun hopened => by cases hi.symm.trans hopened) fun hcloses => (hi ▸ hcloses).elim
    · rw [hnew]
      exact ⟨i, Function.update_self ..⟩
  · rintro name id ⟨⟩
    rw [fateOf_concat, hafter]
    exact ⟨hnew, hlength⟩
  · rw [fateOf_concat, hafter]
    exact h.listed name id hmem
  · rw [fateOf_concat, hafter] at hid
    exact Nat.lt_trans (h.known id hid) hlength
  · rw [fateOf_concat, hafter]
    exact h.noted j id (hj.of_concat nofun)

/-- A queue that the call enters which opened it takes the place of no other. -/
theorem Recorded.enters (h : Recorded s steps stands) (hstanding : Standing s stands) (hi : stands i = .opened name id) :
    Recorded { s with registry := s.registry.insert name id } (steps ++ [⟨i, .insert name id, ()⟩])
      (Function.update stands i .holding) := by
  obtain ⟨hfate, hid⟩ := (h.traced i).opened name id hi
  have hself : (fateOf id steps).after id (.insert name id) = .entered := by
    rw [hfate]
    exact if_pos rfl
  have hne {other : QueueId} (hother : fateOf other steps ≠ .unentered) : id ≠ other := by
    rintro rfl
    exact hother hfate
  refine ⟨fun other name' ha => ?_, (Function.forall_update_iff stands fun j stand => stand.Traced _ _ j).2
    ⟨.of_bare nofun fun _ h => h, fun j hji => (h.traced j).concat (Nat.le_refl _) _ fun name' other hj => ?_⟩,
    fun name' other hmem => ?_, fun other hother => ?_, fun j other hj => ?_⟩
  · rw [fateOf_concat]
    exact (h.shown other name' ha).enters hstanding hi fun heq => heq ▸ hfate
  · exact absurd (hstanding.alone j i (hj ▸ trivial) (hi ▸ trivial)) hji
  · rw [fateOf_concat]
    rcases List.mem_append.1 hmem with hmem | hmem
    · have hlisted := h.listed name' other (List.mem_of_mem_filter hmem)
      rw [Fate.after_insert_of_ne (hne fun hfate => by rw [hfate] at hlisted; exact hlisted)]
      exact hlisted
    · cases List.mem_singleton.1 hmem
      rw [hself]
      trivial
  · rw [fateOf_concat] at hother
    by_cases heq : id = other
    · exact heq ▸ hid
    · rw [Fate.after_insert_of_ne heq] at hother
      exact h.known other hother
  · rw [fateOf_concat]
    exact (h.noted j other (hj.of_concat nofun)).after other _

/-- A call that notes the queues which are entered notes them all. -/
theorem Recorded.notes (h : Recorded s steps stands) (hi : stands i = .beginning) :
    Recorded s (steps ++ [⟨i, .entries, s.registry.entries⟩])
      (Function.update stands i (.noted (s.registry.entries.map Prod.snd))) := by
  refine ⟨fun id name ha => ?_, (Function.forall_update_iff stands fun j stand => stand.Traced _ _ j).2
    ⟨⟨nofun, fun id hid => ⟨_, List.mem_concat_self, hid⟩⟩,
      fun j _ => (h.traced j).concat (Nat.le_refl _) _ fun name id hj => ?_⟩,
    fun name id hmem => ?_, fun id hid => ?_, fun j id hj => ?_⟩
  · rw [fateOf_concat]
    exact (h.shown id name ha).notes hi
  · rw [((h.traced j).opened name id hj).1]
    rfl
  · rw [fateOf_concat, Fate.noted_after_entries (h.listed name id hmem)]
    trivial
  · rw [fateOf_concat] at hid
    exact h.known id (Fate.unentered_of_after (fun _ heq => by cases heq) hid)
  · rw [fateOf_concat]
    rcases hj.of_concat_entries with hj | hid
    · exact (h.noted j id hj).after id _
    · obtain ⟨⟨name, id⟩, hmem, rfl⟩ := List.mem_map.1 hid
      rw [Fate.noted_after_entries (h.listed name id hmem)]
      trivial

/-- A call that forgets all entries has those queues to close that it noted. -/
theorem Recorded.clears (h : Recorded s steps stands) {ids : List QueueId} (hi : stands i = .noted ids) :
    Recorded { s with registry := s.registry.clear } (steps ++ [⟨i, .clear, ()⟩]) (Function.update stands i (.closing ids)) := by
  refine ⟨fun id name ha => ?_, (Function.forall_update_iff stands fun j stand => stand.Traced _ _ j).2
    ⟨⟨nofun, fun id hid => ((h.traced i).closes id (hi ▸ hid)).concat _⟩,
      fun j _ => (h.traced j).concat (Nat.le_refl _) _ fun name id hj => ?_⟩,
    fun name id hmem => absurd hmem List.not_mem_nil, fun id hid => ?_, fun j id hj => ?_⟩
  · rw [fateOf_concat]
    exact (h.shown id name ha).clears hi
  · rw [((h.traced j).opened name id hj).1]
    rfl
  · rw [fateOf_concat] at hid
    exact h.known id (Fate.unentered_of_after (fun _ heq => by cases heq) hid)
  · rw [fateOf_concat]
    exact (h.noted j id (hj.of_concat nofun)).after id _

/-- A step of a call leaves it to the steps to tell what has become of the queues. -/
theorem Recorded.moved (h : Recorded s steps stands) (hstanding : Standing s stands) (hshift : Shift s (stands i) op reply s' stand') :
    Recorded s' (steps ++ [⟨i, op, reply⟩]) (Function.update stands i stand') := by
  generalize hi : stands i = stand at hshift
  cases hshift with
  | unmarked hmarks hunmarked =>
    refine h.unmarked (hi ▸ hunmarked) (fun id => fateOf_concat_of_not_marks hmarks id steps i) fun j id =>
      ⟨fun hj => hj.of_concat ?_, fun hj => hj.concat _⟩
    rintro rfl
    exact hmarks trivial
  | opens => exact h.opens hi
  | enters => exact h.enters hstanding hi
  | notes => exact h.notes hi
  | clears => exact h.clears hi

/-! ## Two open queues of a name -/

/-- Of two open queues of a name, the later one was opened when the earlier one had lost its entry. -/
structure Paired (s : Shared) (steps : List RegistryStep) : Prop where
  lt : ∀ name id id', Reopened steps name id id' → id < id'
  reopened : ∀ id id' name, s.Active id name → s.Active id' name → id < id' → Reopened steps name id id'

/-- A step that opens no queue. -/
theorem Paired.unmarked (h : Paired s steps) (hactive : ∀ id name, s'.Active id name → s.Active id name)
    (hreopened : ∀ name id id', Reopened steps' name id id' ↔ Reopened steps name id id') : Paired s' steps' where
  lt name id id' hopened := h.lt name id id' ((hreopened name id id').1 hopened)
  reopened id id' name ha ha' hlt :=
    (hreopened name id id').2 (h.reopened id id' name (hactive id name ha) (hactive id' name ha') hlt)

/-- A queue that is open for a name which a call found without entry has lost its entry. -/
theorem Recorded.lost (h : Recorded s steps stands) (hstanding : Standing s stands) (hi : stands i = .missing name)
    (ha : s.Active id name) : (fateOf id steps).Lost := by
  have hshown := h.shown id name ha
  have hunlisted : ¬(fateOf id steps).Listed := by
    intro hlisted
    cases ((hstanding.fits i).lacks name (hi ▸ rfl)).symm.trans (hshown.lookup_eq hlisted)
  cases hfate : fateOf id steps with
  | unentered =>
    -- Nobody else may open queues, and the call itself has not opened one yet.
    rw [hfate] at hshown
    obtain ⟨j, hj⟩ := hshown
    cases hi.symm.trans (hstanding.alone j i (hj ▸ trivial) (hi ▸ trivial) ▸ hj)
  | entered | noted => exact absurd (hfate ▸ trivial) hunlisted
  | dismissed | forgotten => trivial

/-- A queue is a second one of its name only if the others have lost their entries. -/
theorem Paired.opens (h : Paired s steps) (hrecorded : Recorded s steps stands) (hstanding : Standing s stands)
    (hi : stands i = .missing q.name) :
    Paired { s with queues := s.queues ++ [q] } (steps ++ [⟨i, .openQueue q.name, .ok s.queues.length⟩]) := by
  refine ⟨fun name id id' hopened => ?_, fun id id' name ha ha' hlt => ?_⟩
  · rcases hopened.of_concat with hopened | ⟨hlost, j, heq⟩
    · exact h.lt name id id' hopened
    · cases heq
      refine hrecorded.known id fun hfate => ?_
      rw [hfate] at hlost
      exact hlost
  · rcases Shared.active_append_iff.1 ha with ha | ⟨rfl, -, -⟩
    · rcases Shared.active_append_iff.1 ha' with ha' | ⟨rfl, rfl, -⟩
      · exact (h.reopened id id' name ha ha' hlt).concat _
      · exact ⟨steps, i, List.prefix_refl _, hrecorded.lost hstanding hi ha⟩
    · rcases Shared.active_append_iff.1 ha' with ⟨q', hq', -, -⟩ | ⟨rfl, -, -⟩
      · exact absurd (List.getElem?_eq_some_iff.1 hq').1 (Nat.lt_asymm hlt)
      · exact absurd hlt (Nat.lt_irrefl _)

theorem Paired.moved (h : Paired s steps) (hrecorded : Recorded s steps stands) (hstanding : Standing s stands)
    (hshift : Shift s (stands i) op reply s' stand') : Paired s' (steps ++ [⟨i, op, reply⟩]) := by
  generalize hi : stands i = stand at hshift
  cases hshift with
  | unmarked hmarks hunmarked =>
    refine h.unmarked hunmarked.active fun name id id' => reopened_concat_iff ?_
    rintro j ⟨⟩
    exact hmarks trivial
  | opens => exact h.opens hrecorded hstanding hi
  | enters | notes | clears => exact h.unmarked (fun _ _ ha => ha) fun _ _ _ => reopened_concat_iff (fun _ heq => by cases heq)

/-! ## All of it -/

/-- What holds of what is shared, of the steps that calls have made, and of the stands that they have come to. -/
structure Coherent (s : Shared) (steps : List RegistryStep) (stands : Nat → Stand) : Prop where
  standing : Standing s stands
  recorded : Recorded s steps stands
  paired : Paired s steps

theorem coherent_start (hqueues : s.queues = []) (hentries : s.registry.entries = []) : Coherent s [] fun _ => .looking := by
  have hnone (id : QueueId) (name : String) : ¬s.Active id name := by
    rintro ⟨q, hq, -, -⟩
    rw [hqueues] at hq
    cases hq
  refine ⟨⟨fun _ _ h => h.elim, fun _ => .of_bare (fun h => h.elim) fun _ h => h⟩, ⟨fun id name ha => absurd ha (hnone id name),
    fun _ => .of_bare nofun fun _ h => h, fun name id hmem => ?_, fun _ hid => absurd rfl hid, ?_⟩, ?_,
    fun id _ name ha => absurd ha (hnone id name)⟩
  · rw [hentries] at hmem
    cases hmem
  · rintro i id ⟨_, hmem, -⟩
    cases hmem
  · rintro name id id' ⟨before, i, hbefore, -⟩
    exact absurd (List.prefix_nil.1 hbefore) (List.append_ne_nil_of_right_ne_nil before nofun)

/-- A call that makes a step keeps all of it. -/
theorem Coherent.moved (h : Coherent s steps stands) (hshift : Shift s (stands i) op reply s' stand') :
    Coherent s' (steps ++ [⟨i, op, reply⟩]) (Function.update stands i stand') :=
  ⟨h.standing.moved hshift, h.recorded.moved h.standing hshift, h.paired.moved h.recorded h.standing hshift⟩

/-- So does what is done without a step of a call. -/
theorem Coherent.unmarked (h : Coherent s steps stands) (hunmarked : Unmarked s s' (stands i) stand') :
    Coherent s' steps (Function.update stands i stand') :=
  ⟨h.standing.unmarked hunmarked, h.recorded.unmarked hunmarked (fun _ => rfl) fun _ _ => Iff.rfl,
    h.paired.unmarked hunmarked.active fun _ _ _ => Iff.rfl⟩

end QueueBroker

import QueueBroker.Proofs.Broker.Fifo

/-!
# Orders of requests

What many sessions are told by a store is a history: requests are called, and some time later they are answered. A `Linearization`
puts the operations of a history into one order in which lists of messages give the same answers, and in which no operation comes
before another that was answered before it was called.
-/

namespace QueueBroker

variable {lists : Fifo} {name : String} {session place : Nat} {request : Request} {response : Response}

/-! ## Lists after many requests -/

namespace Fifo

/-- What becomes of lists when requests are answered in turn. -/
def after (requests : List Request) (lists : Fifo) : Fifo :=
  requests.foldl (fun lists r => (answer r lists).2) lists

@[simp] theorem after_nil (lists : Fifo) : after [] lists = lists := rfl

@[simp] theorem after_cons (r : Request) (requests : List Request) (lists : Fifo) :
    after (r :: requests) lists = after requests (answer r lists).2 := rfl

theorem after_append (requests more : List Request) (lists : Fifo) :
    after (requests ++ more) lists = after more (after requests lists) :=
  List.foldl_append

theorem answers_append (requests more : List Request) (lists : Fifo) :
    answers (requests ++ more) lists = answers requests lists ++ answers more (after requests lists) := by
  induction requests generalizing lists with
  | nil => rfl
  | cons r requests ih => simp [answers, ih]

end Fifo

/-! ## Operations -/

/-- A request that took effect: its place in the history, and what it is answered with. -/
structure Operation where
  place : Nat
  request : Request
  response : Response

namespace Operation

/-- The message that an operation put in for a destination. -/
def sent? (name : String) (o : Operation) : Option Message :=
  match o.request, o.response with
  | .send m, .ack => if m.destination = name then some m else none
  | _, _ => none

/-- The message of a destination that an operation took out. -/
def delivered? (name : String) (o : Operation) : Option Message :=
  match o.request, o.response with
  | .receive destination, .message m => if destination = name then some m else none
  | _, _ => none

/-- The messages that operations put in for a destination, in order. -/
def sent (name : String) (order : List Operation) : List Message :=
  order.flatMap fun o => (o.sent? name).toList

/-- The messages of a destination that operations took out, in order. -/
def delivered (name : String) (order : List Operation) : List Message :=
  order.flatMap fun o => (o.delivered? name).toList

/-- One operation puts its message at the end of the list of its destination, or takes the first away. -/
theorem append_sent? (name : String) (lists : Fifo) (place : Nat) (request : Request) :
    lists name ++ (sent? name ⟨place, request, (Fifo.answer request lists).1⟩).toList =
      (delivered? name ⟨place, request, (Fifo.answer request lists).1⟩).toList ++ (Fifo.answer request lists).2 name := by
  cases request with
  | send m =>
    rw [Fifo.answer]
    cases hfault : Destination.fault? m.destination with
    | some fault => simp [sent?, delivered?]
    | none =>
      by_cases hname : m.destination = name
      · subst hname
        simp [sent?, delivered?]
      · have hne : name ≠ m.destination := Ne.symm hname
        simp [sent?, delivered?, hname, Function.update_of_ne hne]
  | check destination => simp [Fifo.answer, sent?, delivered?]
  | receive destination =>
    rw [Fifo.answer]
    cases hlist : lists destination with
    | nil => simp [sent?, delivered?]
    | cons m rest =>
      by_cases hname : destination = name
      · subst hname
        simp [sent?, delivered?, hlist]
      · have hne : name ≠ destination := Ne.symm hname
        simp [sent?, delivered?, hname, Function.update_of_ne hne]

/-- What a destination had and what was put in is what was taken out and what is left, in order. -/
theorem append_sent {order : List Operation}
    (h : order.map Operation.response = Fifo.answers (order.map Operation.request) lists) (name : String) :
    lists name ++ sent name order = delivered name order ++ Fifo.after (order.map Operation.request) lists name := by
  induction order generalizing lists with
  | nil => simp [sent, delivered]
  | cons o order ih =>
    obtain ⟨place, r, answered⟩ := o
    obtain ⟨hanswered, hrest⟩ := List.cons.inj h
    obtain rfl : answered = (Fifo.answer r lists).1 := hanswered
    have hone := append_sent? name lists place r
    have hmany := ih hrest
    unfold sent delivered
    rw [List.flatMap_cons, List.flatMap_cons, ← List.append_assoc, hone, List.append_assoc, List.append_assoc]
    exact congrArg _ hmany

end Operation

/-! ## Histories -/

/-- What can be told of the requests of all sessions. An answer names the place at which its request was called. -/
inductive Event where
  | called (session : Nat) (request : Request)
  | answered (place : Nat) (response : Response)

/-- An order of operations that accounts for a history. Operations that are not answered yet may be among them. -/
structure Linearization (lists : Fifo) (history : List Event) (order : List Operation) : Prop where
  /-- Every operation was called, -/
  called : ∀ o ∈ order, ∃ session, history[o.place]? = some (.called session o.request)
  /-- no call made two of them, -/
  once : (order.map Operation.place).Nodup
  /-- every answer is that of one, -/
  complete : ∀ place response, .answered place response ∈ history → ∃ o ∈ order, o.place = place ∧ o.response = response
  /-- one that was called after another was answered comes after that, -/
  realTime : order.Pairwise fun a b => ∀ i response, history[i]? = some (.answered b.place response) → a.place < i
  /-- those of one session come in the order in which they were called, -/
  sessions : order.Pairwise fun a b => ∀ session, (∃ r, history[a.place]? = some (.called session r)) →
    (∃ r, history[b.place]? = some (.called session r)) → a.place < b.place
  /-- and they were answered as lists answer them one after the other. -/
  answers : order.map Operation.response = Fifo.answers (order.map Operation.request) lists

variable {history : List Event} {order : List Operation}

theorem linearization_nil (lists : Fifo) : Linearization lists [] [] :=
  ⟨nofun, .nil, nofun, .nil, .nil, rfl⟩

/-- What stands in a list with one more element stood there before or is that element. -/
theorem of_getElem?_append_singleton {α : Type} {l : List α} {e x : α} {i : Nat} (h : (l ++ [e])[i]? = some x) :
    l[i]? = some x ∨ i = l.length ∧ x = e := by
  rcases Nat.lt_or_ge i l.length with hlt | hle
  · rw [List.getElem?_append_left hlt] at h
    exact Or.inl h
  · have hlt := (List.getElem?_eq_some_iff.1 h).1
    rw [List.length_append, List.length_singleton] at hlt
    obtain rfl : i = l.length := Nat.le_antisymm (Nat.le_of_lt_succ hlt) hle
    rw [List.getElem?_concat_length] at h
    exact Or.inr ⟨rfl, (Option.some.inj h).symm⟩

namespace Linearization

/-- Operations were called in the history. -/
theorem place_lt (h : Linearization lists history order) {o : Operation} (ho : o ∈ order) : o.place < history.length := by
  obtain ⟨session, hcalled⟩ := h.called o ho
  exact (List.getElem?_eq_some_iff.1 hcalled).1

theorem lt_of_answered (h : Linearization lists history order) (hmem : .answered place response ∈ history) :
    place < history.length := by
  obtain ⟨o, ho, rfl, -⟩ := h.complete place response hmem
  exact h.place_lt ho

/-- One more event that is no answer, or that of an operation, leaves an order what it is. -/
theorem event (h : Linearization lists history order) (e : Event)
    (hcomplete : ∀ place response, e = .answered place response → ∃ o ∈ order, o.place = place ∧ o.response = response) :
    Linearization lists (history ++ [e]) order := by
  have hsame : ∀ o ∈ order, (history ++ [e])[o.place]? = history[o.place]? :=
    fun o ho => List.getElem?_append_left (h.place_lt ho)
  refine ⟨fun o ho => ?_, h.once, fun place response hmem => ?_, ?_, ?_, h.answers⟩
  · rw [hsame o ho]
    exact h.called o ho
  · rcases List.mem_append.1 hmem with hmem | hmem
    · exact h.complete place response hmem
    · exact hcomplete place response (List.mem_singleton.1 hmem).symm
  · refine h.realTime.imp_of_mem fun {a b} ha _ hlt i response hi => ?_
    rcases of_getElem?_append_singleton hi with hold | ⟨rfl, -⟩
    · exact hlt i response hold
    · exact h.place_lt ha
  · refine h.sessions.imp_of_mem fun {a b} ha hb hlt => ?_
    rw [hsame a ha, hsame b hb]
    exact hlt

/-- An operation that takes effect now comes after all others, if it was not answered yet and its session called no other since. -/
theorem snoc (h : Linearization lists history order) (hcalled : history[place]? = some (.called session request))
    (hnew : place ∉ order.map Operation.place) (hunanswered : ∀ response, .answered place response ∉ history)
    (hlatest : ∀ i r, history[i]? = some (.called session r) → i ≤ place) :
    Linearization lists history
      (order ++ [⟨place, request, (Fifo.answer request (Fifo.after (order.map Operation.request) lists)).1⟩]) := by
  refine ⟨fun o ho => ?_, ?_, fun place' response hmem => ?_, ?_, ?_, ?_⟩
  · rcases List.mem_append.1 ho with ho | ho
    · exact h.called o ho
    · obtain rfl := List.mem_singleton.1 ho
      exact ⟨session, hcalled⟩
  · rw [List.map_append, List.map_singleton]
    refine List.nodup_append.2 ⟨h.once, by simp, fun a ha b hb heq => ?_⟩
    obtain rfl : b = place := List.mem_singleton.1 hb
    exact hnew (heq ▸ ha)
  · obtain ⟨o, ho, heq⟩ := h.complete place' response hmem
    exact ⟨o, List.mem_append_left _ ho, heq⟩
  · refine List.pairwise_append.2 ⟨h.realTime, List.pairwise_singleton _ _, fun a _ b hb i response hi => ?_⟩
    obtain rfl := List.mem_singleton.1 hb
    -- Nothing was called after it was answered, for it was not.
    exact absurd (List.mem_of_getElem? hi) (hunanswered response)
  · refine List.pairwise_append.2 ⟨h.sessions, List.pairwise_singleton _ _, fun a ha b hb session' hcall hcall' => ?_⟩
    obtain rfl := List.mem_singleton.1 hb
    obtain ⟨r, hr⟩ := hcall
    obtain ⟨r', hr'⟩ := hcall'
    obtain ⟨rfl, -⟩ := Event.called.inj (Option.some.inj (hr'.symm.trans hcalled))
    refine Nat.lt_of_le_of_ne (hlatest _ _ hr) fun heq => hnew ?_
    exact List.mem_map.2 ⟨a, ha, heq⟩
  · rw [List.map_append, List.map_append, Fifo.answers_append, h.answers]
    rfl

end Linearization

end QueueBroker

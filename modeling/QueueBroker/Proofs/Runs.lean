import QueueBroker.Program

/-!
# Runs of programs

`Program.run` gives a program one reply to every question. Here the surroundings are a relation, which may allow many replies:
`Runs` relates a program and a state to the results and states that it can end with, and `Cut` to the states that it can be
left in when it is stopped on the way, possibly in the middle of answering a question.
-/

namespace QueueBroker.Program

variable {Op : Type} {Reply : Op → Type} {α β σ : Type}

/-- A run of a program from its start to its end, in surroundings that may answer `op` in a state with a reply and a new state
whenever `answers` says so. -/
inductive Runs (answers : (op : Op) → σ → Reply op → σ → Prop) : Program Reply α → σ → α → σ → Prop where
  | done (a : α) (s : σ) : Runs answers (done a) s a s
  | ask {op : Op} {next : Reply op → Program Reply α} {s s' s'' : σ} {reply : Reply op} {a : α} :
      answers op s reply s' → Runs answers (next reply) s' a s'' → Runs answers (ask op next) s a s''

/-- A run of a program that is stopped on the way: before a question, or while it is being answered, when `torn` says what may
have come of it. -/
inductive Cut (answers : (op : Op) → σ → Reply op → σ → Prop) (torn : Op → σ → σ → Prop) :
    Program Reply α → σ → σ → Prop where
  | before (p : Program Reply α) (s : σ) : Cut answers torn p s s
  | within {op : Op} {next : Reply op → Program Reply α} {s s' : σ} :
      torn op s s' → Cut answers torn (ask op next) s s'
  | after {op : Op} {next : Reply op → Program Reply α} {s s' s'' : σ} {reply : Reply op} :
      answers op s reply s' → Cut answers torn (next reply) s' s'' → Cut answers torn (ask op next) s s''

variable {answers : (op : Op) → σ → Reply op → σ → Prop} {torn : Op → σ → σ → Prop}

theorem runs_done_iff {a b : α} {s s' : σ} : Runs answers (done a) s b s' ↔ b = a ∧ s' = s := by
  constructor
  · intro h
    cases h
    exact ⟨rfl, rfl⟩
  · rintro ⟨rfl, rfl⟩
    exact .done _ _

theorem runs_ask_iff {op : Op} {next : Reply op → Program Reply α} {a : α} {s s'' : σ} :
    Runs answers (ask op next) s a s'' ↔ ∃ reply s', answers op s reply s' ∧ Runs answers (next reply) s' a s'' := by
  constructor
  · intro h
    cases h with
    | ask h1 h2 => exact ⟨_, _, h1, h2⟩
  · rintro ⟨reply, s', h1, h2⟩
    exact .ask h1 h2

@[simp] theorem runs_pure_iff {a b : α} {s s' : σ} :
    Runs answers (pure a : Program Reply α) s b s' ↔ b = a ∧ s' = s :=
  runs_done_iff

@[simp] theorem runs_request_iff {op : Op} {reply : Reply op} {s s' : σ} :
    Runs answers (request op) s reply s' ↔ answers op s reply s' := by
  rw [request, runs_ask_iff]
  constructor
  · rintro ⟨r, t, h1, h2⟩
    obtain ⟨rfl, rfl⟩ := runs_done_iff.1 h2
    exact h1
  · intro h
    exact ⟨reply, s', h, .done _ _⟩

/-- A run of two programs in sequence is a run of the first and then one of the second. -/
theorem runs_bind_iff {p : Program Reply α} {f : α → Program Reply β} {b : β} {s s'' : σ} :
    Runs answers (p >>= f) s b s'' ↔ ∃ a s', Runs answers p s a s' ∧ Runs answers (f a) s' b s'' := by
  change Runs answers (p.bind f) s b s'' ↔ _
  induction p generalizing s with
  | done a =>
    constructor
    · intro h
      exact ⟨a, s, .done a s, h⟩
    · rintro ⟨a', s', h1, h2⟩
      obtain ⟨rfl, rfl⟩ := runs_done_iff.1 h1
      exact h2
  | ask op next ih =>
    rw [Program.bind, runs_ask_iff]
    constructor
    · rintro ⟨reply, t, h1, h2⟩
      obtain ⟨a, s', h3, h4⟩ := (ih reply).1 h2
      exact ⟨a, s', .ask h1 h3, h4⟩
    · rintro ⟨a, s', h1, h2⟩
      obtain ⟨reply, t, h3, h4⟩ := runs_ask_iff.1 h1
      exact ⟨reply, t, h3, (ih reply).2 ⟨a, s', h4, h2⟩⟩

/-- A program that is cut short inside a sequence was in its first part, or in its second after a run of the first. -/
theorem Cut.of_bind {p : Program Reply α} {f : α → Program Reply β} {s s'' : σ}
    (h : Cut answers torn (p >>= f) s s'') :
    Cut answers torn p s s'' ∨ ∃ a s', Runs answers p s a s' ∧ Cut answers torn (f a) s' s'' := by
  change Cut answers torn (p.bind f) s s'' at h
  induction p generalizing s with
  | done a => exact Or.inr ⟨a, s, .done a s, h⟩
  | ask op next ih =>
    rw [Program.bind] at h
    cases h with
    | before => exact Or.inl (.before _ _)
    | within ht => exact Or.inl (.within ht)
    | after ha hc =>
      rcases ih _ hc with hp | ⟨a, s', h1, h2⟩
      · exact Or.inl (.after ha hp)
      · exact Or.inr ⟨a, s', .ask ha h1, h2⟩

theorem Cut.of_pure {a : α} {s s' : σ} (h : Cut answers torn (pure a : Program Reply α) s s') : s' = s := by
  change Cut answers torn (done a) s s' at h
  cases h
  rfl

theorem Cut.of_request {op : Op} {s s' : σ} (h : Cut answers torn (request op : Program Reply (Reply op)) s s') :
    s' = s ∨ torn op s s' ∨ ∃ reply, answers op s reply s' := by
  rw [request] at h
  cases h with
  | before => exact Or.inl rfl
  | within ht => exact Or.inr (Or.inl ht)
  | after ha hc =>
    cases hc
    exact Or.inr (Or.inr ⟨_, ha⟩)

/-- A run to the end may be stopped there. -/
theorem Runs.cut {p : Program Reply α} {s s' : σ} {a : α} (h : Runs answers p s a s') : Cut answers torn p s s' := by
  induction h with
  | done a s => exact .before _ _
  | ask h1 _ ih => exact .after h1 ih

/-- Surroundings that allow more allow every run. -/
theorem Runs.mono {answers' : (op : Op) → σ → Reply op → σ → Prop}
    (hsub : ∀ op s reply s', answers op s reply s' → answers' op s reply s') {p : Program Reply α} {s s' : σ} {a : α}
    (h : Runs answers p s a s') : Runs answers' p s a s' := by
  induction h with
  | done => exact .done _ _
  | ask h1 _ ih => exact .ask (hsub _ _ _ _ h1) ih

/-- In surroundings that answer as `answer` does, a run is the run of the program. -/
theorem Runs.run_eq {answer : (op : Op) → σ → Reply op × σ}
    (hsub : ∀ op s reply s', answers op s reply s' → answer op s = (reply, s')) {p : Program Reply α} {s s' : σ} {a : α}
    (h : Runs answers p s a s') : p.run answer s = (a, s') := by
  induction h with
  | done => rfl
  | ask h1 _ ih =>
    rw [Program.run, hsub _ _ _ _ h1]
    exact ih

/-- In surroundings that allow what `answer` does, what a program comes to is one of its runs. -/
theorem runs_run {answer : (op : Op) → σ → Reply op × σ} (hsub : ∀ op s, answers op s (answer op s).1 (answer op s).2)
    (p : Program Reply α) (s : σ) : Runs answers p s (p.run answer s).1 (p.run answer s).2 := by
  induction p generalizing s with
  | done a => exact .done a s
  | ask op next ih => exact .ask (hsub op s) (ih _ _)

/-- In surroundings that answer every question a program can be run to its end. -/
theorem exists_runs (htotal : ∀ op s, ∃ reply s', answers op s reply s') (p : Program Reply α) (s : σ) :
    ∃ a s', Runs answers p s a s' := by
  induction p generalizing s with
  | done a => exact ⟨a, s, .done a s⟩
  | ask op next ih =>
    obtain ⟨reply, s₁, hanswers⟩ := htotal op s
    obtain ⟨a, s', hruns⟩ := ih reply s₁
    exact ⟨a, s', .ask hanswers hruns⟩

/-- Whether every answer that a program gets is one that `good` accepts. -/
def AllAnswers (answer : (op : Op) → σ → Reply op × σ) (good : (op : Op) → Reply op → Prop) :
    Program Reply α → σ → Prop
  | done _, _ => True
  | ask op next, s => good op (answer op s).1 ∧ (next (answer op s).1).AllAnswers answer good (answer op s).2

instance AllAnswers.decidable (answer : (op : Op) → σ → Reply op × σ) (good : (op : Op) → Reply op → Prop)
    [∀ op reply, Decidable (good op reply)] : ∀ (p : Program Reply α) (s : σ), Decidable (p.AllAnswers answer good s)
  | done _, _ => isTrue trivial
  | ask op next, s =>
    have := AllAnswers.decidable answer good (next (answer op s).1) (answer op s).2
    inferInstanceAs (Decidable (_ ∧ _))

/-- A program that gets good answers only has a run in surroundings that give all good answers. -/
theorem AllAnswers.runs {answer : (op : Op) → σ → Reply op × σ} {good : (op : Op) → Reply op → Prop}
    (hsub : ∀ op s, good op (answer op s).1 → answers op s (answer op s).1 (answer op s).2) {p : Program Reply α} {s : σ}
    (h : p.AllAnswers answer good s) : Runs answers p s (p.run answer s).1 (p.run answer s).2 := by
  induction p generalizing s with
  | done a => exact .done a s
  | ask op next ih => exact .ask (hsub op s h.1) (ih _ h.2)

/-- Beside a run something can be kept that changes with every answer. -/
theorem Runs.exists_beside {κ : Type} (note : (op : Op) → Reply op → κ → κ) {p : Program Reply α} {s s' : σ} {a : α}
    (h : Runs answers p s a s') (k : κ) :
    ∃ k', Runs (fun op (t : σ × κ) reply (t' : σ × κ) => answers op t.1 reply t'.1 ∧ t'.2 = note op reply t.2) p (s, k) a (s', k') := by
  induction h generalizing k with
  | done a s => exact ⟨k, .done a (s, k)⟩
  | @ask op next s s₁ s' reply a hans _ ih =>
    obtain ⟨k', hnext⟩ := ih (note op reply k)
    exact ⟨k', runs_ask_iff.2 ⟨reply, (s₁, note op reply k), ⟨hans, rfl⟩, hnext⟩⟩

/-! ## Programs that keep within bounds -/

section Guarded

variable {S : Type} {asks : S → Op → Prop} {moves : S → (op : Op) → Reply op → S → Prop} {s : S} {Q : α → S → Prop}

/-- A program asks only what `asks` allows where it has come to, which `moves` says, and ends with a result and in a place that
satisfy `Q`. -/
def Guarded (asks : S → Op → Prop) (moves : S → (op : Op) → Reply op → S → Prop) :
    Program Reply α → S → (α → S → Prop) → Prop
  | done a, s, Q => Q a s
  | ask op next, s, Q => asks s op ∧ ∀ reply s', moves s op reply s' → Guarded asks moves (next reply) s' Q

theorem Guarded.pure {a : α} (h : Q a s) : Guarded asks moves (pure a : Program Reply α) s Q :=
  h

theorem Guarded.mono {p : Program Reply α} {R : α → S → Prop} (h : p.Guarded asks moves s R) (hsub : ∀ a s', R a s' → Q a s') :
    p.Guarded asks moves s Q := by
  induction p generalizing s with
  | done a => exact hsub a s h
  | ask op next ih => exact ⟨h.1, fun reply s' hmoves => ih reply (h.2 reply s' hmoves)⟩

theorem guarded_bind_iff {p : Program Reply β} {f : β → Program Reply α} :
    (p >>= f).Guarded asks moves s Q ↔ p.Guarded asks moves s fun b s' => (f b).Guarded asks moves s' Q := by
  change Guarded asks moves (p.bind f) s Q ↔ _
  induction p generalizing s with
  | done b => exact Iff.rfl
  | ask op next ih => exact and_congr_right fun _ => forall_congr' fun reply => forall₂_congr fun _ _ => ih reply

theorem Guarded.bind {p : Program Reply β} {f : β → Program Reply α}
    (h : p.Guarded asks moves s fun b s' => (f b).Guarded asks moves s' Q) : (p >>= f).Guarded asks moves s Q :=
  guarded_bind_iff.2 h

theorem Guarded.request {op : Op} {Q : Reply op → S → Prop} (hop : asks s op)
    (h : ∀ reply s', moves s op reply s' → Q reply s') : (request op : Program Reply (Reply op)).Guarded asks moves s Q :=
  ⟨hop, h⟩

/-- A run of a program ends as the program does within its bounds, if its answers, as they are seen, move it so. -/
theorem Guarded.of_runs (seen : σ → S) (hseen : ∀ op t reply t', answers op t reply t' → moves (seen t) op reply (seen t'))
    {p : Program Reply α} {t t' : σ} {a : α} (h : p.Guarded asks moves (seen t) Q) (hr : p.Runs answers t a t') : Q a (seen t') := by
  induction hr with
  | done => exact h
  | ask hans _ ih => exact ih (h.2 _ _ (hseen _ _ _ _ hans))

end Guarded

end QueueBroker.Program

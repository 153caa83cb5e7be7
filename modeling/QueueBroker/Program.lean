/-!
# Programs

A program is a computation that asks its surroundings for things and goes on with what they answer. What it asks is data, so
one program has many runs: `Program.run` gives it surroundings that always answer, `Program.advance` runs a single question,
so that several programs can take turns, and a run that is cut short is the program after some of its questions.
-/

namespace QueueBroker

/-- A computation of an `α` that may ask questions `op` and is answered with a `Reply op`. -/
inductive Program {Op : Type} (Reply : Op → Type) (α : Type) where
  /-- The computation is over. -/
  | done (result : α)
  /-- Ask `op` and go on with the answer. -/
  | ask (op : Op) (next : Reply op → Program Reply α)

namespace Program

variable {Op : Type} {Reply : Op → Type} {α β σ : Type}

/-- Run `p`, then the program that its result selects. -/
def bind (p : Program Reply α) (f : α → Program Reply β) : Program Reply β :=
  match p with
  | done a => f a
  | ask op next => ask op fun reply => (next reply).bind f

instance : Monad (Program Reply) where
  pure := done
  bind := bind

/-- Ask one question and return its answer. -/
def request (op : Op) : Program Reply (Reply op) :=
  ask op done

/-- Run a program in surroundings with a state, which answer every question. -/
def run (answer : (op : Op) → σ → Reply op × σ) : Program Reply α → σ → α × σ
  | done a, s => (a, s)
  | ask op next, s => (next (answer op s).1).run answer (answer op s).2

/-- Run a program by effects of another monad. -/
def runM {m : Type → Type} [Monad m] (answer : (op : Op) → m (Reply op)) : Program Reply α → m α
  | done a => pure a
  | ask op next => do
    let reply ← answer op
    (next reply).runM answer

/-- Run one question of a program, if the surroundings do not make it wait. -/
def advance (answer : (op : Op) → σ → Option (Reply op × σ)) (p : Program Reply α) (s : σ) : Option (Program Reply α × σ) :=
  match p with
  | done _ => none
  | ask op next => (answer op s).map fun (reply, s) => (next reply, s)

/-- The result of a program that is over. -/
def result? : Program Reply α → Option α
  | done a => some a
  | ask _ _ => none

@[simp] theorem run_done (answer : (op : Op) → σ → Reply op × σ) (a : α) (s : σ) :
    (done a : Program Reply α).run answer s = (a, s) := rfl

@[simp] theorem run_request (answer : (op : Op) → σ → Reply op × σ) (op : Op) (s : σ) :
    (request op : Program Reply (Reply op)).run answer s = answer op s := rfl

/-- Running two programs in sequence runs the second from where the first ended. -/
theorem run_bind (answer : (op : Op) → σ → Reply op × σ) (p : Program Reply α) (f : α → Program Reply β) (s : σ) :
    (p.bind f).run answer s = (f (p.run answer s).1).run answer (p.run answer s).2 := by
  induction p generalizing s with
  | done a => rfl
  | ask op next ih => exact ih _ _

end Program

end QueueBroker

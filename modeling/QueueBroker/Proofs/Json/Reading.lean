import QueueBroker.Json.Shape

/-!
# What readers read

`Reads r i a rest` says that reading `i` with `r` gives `a` and leaves `rest`, and `Refuses r i` that it fails. Both leave the
places in the text open. `Yields r P` says that `P` holds of whatever `r` reads from any text.
-/

namespace QueueBroker.Json.Reader

variable {α β : Type} {r : Reader α} {f : α → Reader β} {a : α} {b : β} {i j rest : Bytes}

/-- Reading `i` gives `a` and leaves `rest`. -/
def Reads (r : Reader α) (i : Bytes) (a : α) (rest : Bytes) : Prop :=
  ∀ p, ∃ q, r ⟨i, p⟩ = .ok a ⟨rest, q⟩

/-- Reading `i` fails. -/
def Refuses (r : Reader α) (i : Bytes) : Prop :=
  ∀ p, ∃ e c, r ⟨i, p⟩ = .error e c

/-- Whatever is read satisfies `P`. -/
def Yields (r : Reader α) (P : α → Prop) : Prop :=
  ∀ c a c', r c = .ok a c' → P a

/-! ## Sequences of readers -/

theorem bind_of_ok {c c' : Cursor} (h : r c = .ok a c') : (r >>= f) c = f a c' := by
  change EStateM.bind r f c = f a c'
  rw [EStateM.bind, h]

theorem bind_of_error {c c' : Cursor} {e : Failure} (h : r c = .error e c') : (r >>= f) c = .error e c' := by
  change EStateM.bind r f c = .error e c'
  rw [EStateM.bind, h]

theorem Reads.pure (a : α) (i : Bytes) : Reads (pure a) i a i :=
  fun p => ⟨p, rfl⟩

theorem Reads.bind (h1 : Reads r i a j) (h2 : Reads (f a) j b rest) : Reads (r >>= f) i b rest := by
  intro p
  obtain ⟨p', h1⟩ := h1 p
  obtain ⟨q, h2⟩ := h2 p'
  exact ⟨q, (bind_of_ok h1).trans h2⟩

theorem Reads.map (g : α → β) (h : Reads r i a rest) : Reads (g <$> r) i (g a) rest := by
  intro p
  obtain ⟨q, h⟩ := h p
  refine ⟨q, ?_⟩
  change EStateM.map g r ⟨i, p⟩ = _
  rw [EStateM.map, h]

theorem Refuses.bind (h : Refuses r i) : Refuses (r >>= f) i := by
  intro p
  obtain ⟨e, c, h⟩ := h p
  exact ⟨e, c, bind_of_error h⟩

theorem Refuses.bind_of_reads (h1 : Reads r i a j) (h2 : Refuses (f a) j) : Refuses (r >>= f) i := by
  intro p
  obtain ⟨p', h1⟩ := h1 p
  obtain ⟨e, c, h2⟩ := h2 p'
  exact ⟨e, c, (bind_of_ok h1).trans h2⟩

/-- What is left to be read of `i` with `r` is `j`, and it is read with `r'`. -/
def Becomes (r : Reader α) (i : Bytes) (r' : Reader α) (j : Bytes) : Prop :=
  ∀ p, ∃ q, r ⟨i, p⟩ = r' ⟨j, q⟩

theorem Becomes.refl (r : Reader α) (i : Bytes) : Becomes r i r i :=
  fun p => ⟨p, rfl⟩

theorem Becomes.bind {r' : Reader β} (h1 : Reads r i a j) (h2 : Becomes (f a) j r' rest) : Becomes (r >>= f) i r' rest := by
  intro p
  obtain ⟨p', h1⟩ := h1 p
  obtain ⟨q, h2⟩ := h2 p'
  exact ⟨q, (bind_of_ok h1).trans h2⟩

theorem Becomes.reads {r' : Reader α} (h1 : Becomes r i r' j) (h2 : Reads r' j a rest) : Reads r i a rest := by
  intro p
  obtain ⟨p', h1⟩ := h1 p
  obtain ⟨q, h2⟩ := h2 p'
  exact ⟨q, h1.trans h2⟩

theorem Becomes.refuses {r' : Reader α} (h1 : Becomes r i r' j) (h2 : Refuses r' j) : Refuses r i := by
  intro p
  obtain ⟨p', h1⟩ := h1 p
  obtain ⟨e, c, h2⟩ := h2 p'
  exact ⟨e, c, h1.trans h2⟩

theorem Refuses.map (g : α → β) (h : Refuses r i) : Refuses (g <$> r) i := by
  intro p
  obtain ⟨e, c, h⟩ := h p
  refine ⟨e, c, ?_⟩
  change EStateM.map g r ⟨i, p⟩ = _
  rw [EStateM.map, h]

theorem Yields.pure {P : α → Prop} (h : P a) : Yields (pure a) P := by
  intro c a' c' hc
  cases hc
  exact h

theorem Yields.bind {P : α → Prop} {Q : β → Prop} (h1 : Yields r P) (h2 : ∀ a, P a → Yields (f a) Q) :
    Yields (r >>= f) Q := by
  intro c b c' h
  cases hr : r c with
  | ok a d => exact h2 a (h1 c a d hr) d b c' ((bind_of_ok hr).symm.trans h)
  | error e d =>
    rw [bind_of_error hr] at h
    cases h

theorem Yields.map {P : α → Prop} {Q : β → Prop} {g : α → β} (h1 : Yields r P) (h2 : ∀ a, P a → Q (g a)) :
    Yields (g <$> r) Q := by
  intro c b c' h
  change EStateM.map g r c = _ at h
  rw [EStateM.map] at h
  cases hr : r c with
  | ok a d =>
    rw [hr] at h
    cases h
    exact h2 a (h1 c a _ hr)
  | error e d =>
    rw [hr] at h
    cases h

theorem Yields.mono {P Q : α → Prop} (h : Yields r P) (hPQ : ∀ a, P a → Q a) : Yields r Q :=
  fun c a c' hc => hPQ a (h c a c' hc)

theorem Yields.trivial (r : Reader α) : Yields r fun _ => True :=
  fun _ _ _ _ => True.intro

/-! ## Failing -/

theorem Refuses.fail (reason : Reason) (i : Bytes) : Refuses (fail reason : Reader α) i :=
  fun _ => ⟨_, _, rfl⟩

theorem Refuses.failAtNext (reason : Reason) (i : Bytes) : Refuses (failAtNext reason : Reader α) i := by
  intro p
  cases i with
  | nil => exact ⟨_, _, rfl⟩
  | cons b i => exact ⟨_, _, rfl⟩

theorem Yields.fail (reason : Reason) (P : α → Prop) : Yields (fail reason : Reader α) P := by
  intro c a c' h
  cases h

theorem Yields.refuse (reason : Reason) (P : α → Prop) : Yields (refuse reason : Reader α) P := by
  intro c a c' h
  cases h

theorem Yields.failAtNext (reason : Reason) (P : α → Prop) : Yields (failAtNext reason : Reader α) P := by
  intro c a c' h
  obtain ⟨rest, p⟩ := c
  cases rest with
  | nil => cases h
  | cons b rest => cases h

theorem Reads.located (h : Reads r i a rest) : Reads (located r) i a rest := by
  intro p
  obtain ⟨q, h⟩ := h p
  refine ⟨q, ?_⟩
  rw [Reader.located, h]

theorem Refuses.located (h : Refuses r i) : Refuses (located r) i := by
  intro p
  obtain ⟨e, c, h⟩ := h p
  refine ⟨{ e with position := some (e.position.getD c.position) }, c, ?_⟩
  rw [Reader.located, h]

theorem Yields.located {P : α → Prop} (h : Yields r P) : Yields (located r) P := by
  intro c a c' hc
  rw [Reader.located] at hc
  cases hr : r c with
  | ok a' d =>
    rw [hr] at hc
    cases hc
    exact h _ _ _ hr
  | error e d =>
    rw [hr] at hc
    cases hc

/-! ## Single bytes -/

theorem Reads.peek (i : Bytes) : Reads peek i i.head? i :=
  fun p => ⟨p, rfl⟩

theorem Reads.take (x : UInt8) (i : Bytes) : Reads take (x :: i) (some x) i :=
  fun p => ⟨p.advance x, rfl⟩

theorem Reads.skip (x : UInt8) (i : Bytes) : Reads skip (x :: i) () i :=
  fun p => ⟨p.advance x, rfl⟩

theorem Reads.remaining (i : Bytes) : Reads remaining i i.length i :=
  fun p => ⟨p, rfl⟩

theorem Reads.peekPastBlanks {x : UInt8} (hx : isBlank x = false) (i : Bytes) :
    Reads Reader.peekPastBlanks (x :: i) (some x) (x :: i) := by
  intro p
  refine ⟨p, ?_⟩
  rw [Reader.peekPastBlanks]
  simp only [pastBlanks, hx]
  rfl

theorem Reads.peekPastBlanks_nil : Reads Reader.peekPastBlanks [] none [] :=
  fun p => ⟨p, rfl⟩

theorem Reads.literal (cs : List Char) (i : Bytes) : Reads (literal cs) (cs.map code ++ i) () i := by
  induction cs with
  | nil => exact Reads.pure () i
  | cons c cs ih =>
    refine Reads.bind (Reads.take (code c) _) ?_
    dsimp only
    rw [if_pos rfl]
    exact ih

/-! ## Marks around other readers -/

theorem Reads.enclosed {close : Reader Unit} (h1 : Reads r i a j) (h2 : Reads close j () rest) :
    Reads (enclosed r close) i a rest := by
  intro p
  obtain ⟨p', h1⟩ := h1 p
  obtain ⟨q, h2⟩ := h2 p'
  refine ⟨q, ?_⟩
  rw [Reader.enclosed, h1]
  exact bind_of_ok h2

theorem Refuses.enclosed (close : Reader Unit) (h : Refuses r i) : Refuses (enclosed r close) i := by
  intro p
  obtain ⟨e, c, h⟩ := h p
  cases hc : close c with
  | ok u d => exact ⟨e, d, by simp only [Reader.enclosed, h, hc]⟩
  | error e' d => exact ⟨e, d, by simp only [Reader.enclosed, h, hc]⟩

theorem Yields.enclosed {P : α → Prop} (close : Reader Unit) (h : Yields r P) : Yields (enclosed r close) P := by
  intro c a c' hc
  rw [Reader.enclosed] at hc
  cases hr : r c with
  | ok a' d =>
    rw [hr] at hc
    have hy : Yields (close *> Pure.pure a') P := Yields.bind (Yields.trivial close) fun _ _ => Yields.pure (h _ _ _ hr)
    exact hy _ _ _ hc
  | error e d =>
    rw [hr] at hc
    cases hcl : close d with
    | ok u d' =>
      simp only [hcl] at hc
      cases hc
    | error e' d' =>
      simp only [hcl] at hc
      cases hc

/-! ## Whole texts -/

/-- What is read of a whole text: a document, with nothing but blanks after it. -/
def toEnd (r : Reader α) : Reader α := do
  let a ← r
  match ← peekPastBlanks with
  | none => pure a
  | some _ => failAtNext .trailingCharacters

theorem whole_of_ok {c : Cursor} (h : toEnd r (Cursor.start i) = .ok a c) : whole r i = .ok a := by
  rw [Reader.whole]
  split
  · rename_i b c' hb
    have heq : EStateM.Result.ok b c' = .ok a c := hb.symm.trans h
    cases heq
    rfl
  · rename_i e c' he
    have heq : EStateM.Result.error e c' = .ok a c := he.symm.trans h
    cases heq

theorem whole_of_error {e : Failure} {c : Cursor} (h : toEnd r (Cursor.start i) = .error e c) : whole r i = .error e := by
  rw [Reader.whole]
  split
  · rename_i a c' ha
    have heq : EStateM.Result.ok a c' = .error e c := ha.symm.trans h
    cases heq
  · rename_i e' c' he
    have heq : EStateM.Result.error e' c' = .error e c := he.symm.trans h
    cases heq
    rfl

/-- What is read up to the end is the whole text. -/
theorem Reads.whole (h : Reads r i a []) : whole r i = .ok a := by
  have htoEnd : Reads (toEnd r) i a [] := Reads.bind h (Reads.bind Reads.peekPastBlanks_nil (Reads.pure a []))
  obtain ⟨q, hq⟩ := htoEnd ⟨1, 0⟩
  exact whole_of_ok hq

theorem Refuses.whole (h : Refuses r i) : ∃ e, whole r i = .error e := by
  have htoEnd : Refuses (toEnd r) i := Refuses.bind h
  obtain ⟨e, c, he⟩ := htoEnd ⟨1, 0⟩
  exact ⟨e, whole_of_error he⟩

theorem Yields.whole {P : α → Prop} (h : Yields r P) {bytes : Bytes} (hw : whole r bytes = .ok a) : P a := by
  have htoEnd : Yields (toEnd r) P := by
    refine Yields.bind h fun a ha => Yields.bind (Yields.trivial _) fun x _ => ?_
    cases x with
    | none => exact Yields.pure ha
    | some _ => exact Yields.failAtNext _ _
  cases hend : toEnd r (Cursor.start bytes) with
  | ok b c =>
    rw [whole_of_ok hend] at hw
    cases hw
    exact htoEnd _ _ _ hend
  | error e c =>
    rw [whole_of_error hend] at hw
    cases hw

end QueueBroker.Json.Reader

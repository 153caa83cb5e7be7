import QueueBroker.Proofs.Json.Strings

/-!
# Reading numbers

An integer of the 64-bit ranges is read back from its decimal form, if nothing follows that would go on with the number, and
no other integer is ever read.
-/

namespace QueueBroker

/-- Whether a number is one that is read from text: integers are of the 64-bit ranges. -/
def Number.InRange : Number → Prop
  | .integer n => -(UInt64.size / 2 : Nat) ≤ n ∧ n < (UInt64.size : Nat)
  | .real _ => True

instance : (n : Number) → Decidable n.InRange
  | .integer _ => inferInstanceAs (Decidable (_ ∧ _))
  | .real _ => isTrue trivial

/-- Whether a number is an integer. -/
def Number.IsInteger : Number → Prop
  | .integer _ => True
  | .real _ => False

instance : (n : Number) → Decidable n.IsInteger
  | .integer _ => isTrue trivial
  | .real _ => isFalse id

namespace Json.Reader

variable {rest : Bytes}

/-- Nothing that would go on with a number: no digit, no point and no mark of an exponent. -/
def Apart (rest : Bytes) : Prop :=
  ∀ b ∈ rest.head?, digit? b = none ∧ b ≠ 0x2E ∧ b ≠ 0x65 ∧ b ≠ 0x45

theorem Apart.cons {b : UInt8} (h : digit? b = none ∧ b ≠ 0x2E ∧ b ≠ 0x65 ∧ b ≠ 0x45) (rest : Bytes) : Apart (b :: rest) := by
  intro b' hb'
  cases hb'
  exact h

/-! ## Decimal digits -/

/-- The value of decimal digits that follow a number. -/
def valueFrom (n : Nat) (ds : List Nat) : Nat :=
  ds.foldl (fun n d => n * 10 + d) n

theorem le_valueFrom (n : Nat) (ds : List Nat) : n ≤ valueFrom n ds := by
  induction ds generalizing n with
  | nil => exact Nat.le_refl n
  | cons d ds ih =>
    have h := ih (n * 10 + d)
    rw [valueFrom, List.foldl_cons, ← valueFrom]
    omega

theorem valueFrom_append (n : Nat) (ds : List Nat) (d : Nat) : valueFrom n (ds ++ [d]) = valueFrom n ds * 10 + d := by
  rw [valueFrom, List.foldl_append]
  rfl

/-- A natural number in decimal: its first digit is zero only when it is the only one. -/
theorem exists_digits (n : Nat) : ∃ d ds, Nat.toDigits 10 n = (d :: ds).map Nat.digitChar ∧ (∀ x ∈ d :: ds, x < 10) ∧
    (d = 0 → ds = []) ∧ valueFrom d ds = n := by
  induction n using Nat.strongRecOn with
  | _ n ih =>
    by_cases h : n < 10
    · exact ⟨n, [], Nat.toDigits_of_lt_base h, by simpa using h, fun _ => rfl, rfl⟩
    · obtain ⟨d, ds, hdigits, hsmall, hlead, hvalue⟩ := ih (n / 10) (by omega)
      refine ⟨d, ds ++ [n % 10], ?_, ?_, ?_, ?_⟩
      · rw [Nat.toDigits_of_base_le (by decide) (by omega), hdigits, ← List.cons_append, List.map_append]
        rfl
      · intro x hx
        rw [← List.cons_append, List.mem_append, List.mem_singleton] at hx
        rcases hx with hx | rfl
        · exact hsmall x hx
        · omega
      · intro hd
        have hzero : n / 10 = 0 := by
          rw [← hvalue, hlead hd, hd]
          rfl
        omega
      · rw [valueFrom_append, hvalue]
        omega

/-- The byte of a decimal digit. -/
abbrev digitByte (d : Nat) : UInt8 :=
  code (Nat.digitChar d)

theorem digit?_digitByte : ∀ d < 10, digit? (digitByte d) = some d := by
  decide

theorem digit?_le {b : UInt8} {d : Nat} (h : digit? b = some d) : d ≤ 9 := by
  rw [digit?] at h
  split at h
  next hb =>
    cases h
    have := UInt8.le_iff_toNat_le.1 hb.2
    simp only [UInt8.reduceToNat] at this
    omega
  next => cases h

theorem encoded_digits {ds : List Nat} (h : ∀ d ∈ ds, d < 10) : encoded (ds.map Nat.digitChar) = ds.map digitByte := by
  induction ds with
  | nil => rfl
  | cons d ds ih =>
    have hd : d < 10 := h d List.mem_cons_self
    rw [List.map_cons, encoded_cons_of_ascii (digitChar_ascii d (by omega)),
      ih fun x hx => h x (List.mem_cons_of_mem d hx), List.map_cons]

/-- All the digits are split off when no digit follows. -/
theorem splitDigits_digits {ds : List Nat} (hds : ∀ d ∈ ds, d < 10) (hrest : Apart rest) (p : Position) (read : List Nat) :
    ∃ q, splitDigits (ds.map digitByte ++ rest) p read = (read.reverse ++ ds, ⟨rest, q⟩) := by
  induction ds generalizing p read with
  | nil =>
    refine ⟨p, ?_⟩
    cases rest with
    | nil => simp [splitDigits]
    | cons b rest => simp [splitDigits, (hrest b rfl).1]
  | cons d ds ih =>
    obtain ⟨q, hq⟩ := ih (fun x hx => hds x (List.mem_cons_of_mem d hx)) (p.advance (digitByte d)) (d :: read)
    refine ⟨q, ?_⟩
    rw [List.map_cons, List.cons_append, splitDigits, digit?_digitByte d (hds d List.mem_cons_self)]
    simp only [hq, List.reverse_cons, List.append_assoc, List.cons_append, List.nil_append]

theorem digits_reads {ds : List Nat} (hds : ∀ d ∈ ds, d < 10) (hrest : Apart rest) :
    Reads digits (ds.map digitByte ++ rest) ds rest := by
  intro p
  obtain ⟨q, hq⟩ := splitDigits_digits hds hrest p []
  refine ⟨q, ?_⟩
  rw [digits, hq]
  rfl

theorem appendDigit?_eq_some_iff {significand d n : Nat} :
    appendDigit? significand d = some n ↔ significand * 10 + d ≤ maxSignificand ∧ significand * 10 + d = n := by
  unfold appendDigit?
  by_cases h : significand * 10 + d ≤ maxSignificand
  · simp [h]
  · simp [h]

/-- Digits whose value is not too large are all taken into the significand. -/
theorem wholeDigits_eq {n : Nat} {ds : List Nat} (h : valueFrom n ds ≤ maxSignificand) :
    wholeDigits n 0 ds = (valueFrom n ds, 0) := by
  induction ds generalizing n with
  | nil => rfl
  | cons d ds ih =>
    have hstep : appendDigit? n d = some (n * 10 + d) :=
      appendDigit?_eq_some_iff.2 ⟨Nat.le_trans (le_valueFrom (n * 10 + d) ds) h, rfl⟩
    rw [wholeDigits, hstep]
    exact ih h

/-! ## Integers -/

theorem wholeNumber_reads (negative : Bool) {n : Nat} (hn : negative = true → 0 < n ∧ n ≤ UInt64.size / 2) (rest : Bytes) :
    Reads (wholeNumber negative n) rest (.integer (if negative then -n else n)) rest := by
  cases negative with
  | false => exact Reads.pure _ rest
  | true =>
    obtain ⟨h1, h2⟩ := hn rfl
    have hnot : ¬(n = 0 ∨ UInt64.size / 2 < n) := by
      rintro (h | h)
      · exact Nat.ne_of_gt h1 h
      · exact Nat.not_le_of_gt h h2
    rw [wholeNumber, if_neg (by decide), if_neg hnot]
    exact Reads.pure _ rest

/-- With nothing that goes on with a number, the whole digits are all of it. -/
theorem afterWhole_reads (negative : Bool) {n : Nat} (hn : negative = true → 0 < n ∧ n ≤ UInt64.size / 2)
    (hrest : Apart rest) :
    Reads (afterWhole negative n 0) rest (.integer (if negative then -n else n)) rest := by
  have hwhole : Reads (if 0 = 0 then wholeNumber negative n else real negative n (0 : Nat)) rest
      (.integer (if negative then -n else n)) rest := by
    rw [if_pos rfl]
    exact wholeNumber_reads negative hn rest
  refine Reads.bind (Reads.peek rest) ?_
  cases hhead : rest.head? with
  | none => exact hwhole
  | some b =>
    obtain ⟨-, h1, h2, h3⟩ := hrest b hhead
    split
    next h => exact absurd (Option.some.inj h) h1
    next h => exact absurd (Option.some.inj h) h2
    next h => exact absurd (Option.some.inj h) h3
    next => exact hwhole

theorem digitAhead_reads (hrest : Apart rest) : Reads digitAhead rest false rest := by
  refine Reads.bind (Reads.peek rest) ?_
  cases hhead : rest.head? with
  | none => exact Reads.pure false rest
  | some b =>
    simp only [(hrest b hhead).1]
    exact Reads.pure false rest

/-- A natural number is read back from its decimal form, its sign taken. -/
theorem numeral_reads (negative : Bool) {n : Nat} (hmax : n ≤ maxSignificand)
    (hn : negative = true → 0 < n ∧ n ≤ UInt64.size / 2) (hrest : Apart rest) :
    Reads (numeral negative) (encoded (Nat.toDigits 10 n) ++ rest) (.integer (if negative then -n else n)) rest := by
  obtain ⟨d, ds, hdigits, hsmall, hlead, rfl⟩ := exists_digits n
  have hd : digit? (digitByte d) = some d := digit?_digitByte d (hsmall d List.mem_cons_self)
  rw [hdigits, encoded_digits hsmall, List.map_cons, List.cons_append]
  refine Reads.bind (Reads.take (digitByte d) _) ?_
  simp only [hd]
  cases d with
  | zero =>
    obtain rfl := hlead rfl
    exact Reads.bind (digitAhead_reads hrest) (afterWhole_reads negative hn hrest)
  | succ d =>
    refine Reads.bind (digits_reads (fun x hx => hsmall x (List.mem_cons_of_mem _ hx)) hrest) ?_
    rw [wholeDigits_eq hmax]
    exact afterWhole_reads negative hn hrest

/-! ## What numbers are read -/

theorem wholeDigits_le {n dropped : Nat} {ds : List Nat} (h : n ≤ maxSignificand) :
    (wholeDigits n dropped ds).1 ≤ maxSignificand := by
  induction ds generalizing n dropped with
  | nil => exact h
  | cons d ds ih =>
    cases dropped with
    | succ dropped => exact ih h
    | zero =>
      rw [wholeDigits]
      cases hstep : appendDigit? n d with
      | none => exact ih h
      | some m =>
        obtain ⟨hm, rfl⟩ := appendDigit?_eq_some_iff.1 hstep
        exact ih hm

theorem real_yields (negative : Bool) (significand : Nat) (exponent : Int) :
    Yields (real negative significand exponent) Number.InRange := by
  rw [real]
  generalize Decimal.scaled significand exponent = m?
  cases m? with
  | some m => exact Yields.pure True.intro
  | none => exact Yields.fail _ _

theorem exponentValue_yields (negative : Bool) (significand : Nat) (exponent : Int) (down : Bool) :
    Yields (exponentValue negative significand exponent down) Number.InRange := by
  refine Yields.bind (Yields.trivial _) fun b? _ => ?_
  cases b? with
  | none => exact Yields.fail _ _
  | some b =>
    dsimp only
    cases digit? b with
    | none => exact Yields.fail _ _
    | some d =>
      refine Yields.bind (Yields.trivial _) fun fuel _ => ?_
      refine Yields.bind (Yields.trivial _) fun power? _ => ?_
      cases power? with
      | some power => exact real_yields _ _ _
      | none =>
        dsimp only
        split
        next => exact Yields.fail _ _
        next => exact Yields.bind (Yields.trivial _) fun _ _ => Yields.pure True.intro

theorem exponentPart_yields (negative : Bool) (significand : Nat) (exponent : Int) :
    Yields (exponentPart negative significand exponent) Number.InRange := by
  refine Yields.bind (Yields.trivial _) fun _ _ => ?_
  refine Yields.bind (Yields.trivial _) fun sign _ => ?_
  dsimp only
  split
  next => exact Yields.bind (Yields.trivial _) fun _ _ => exponentValue_yields _ _ _ _
  next => exact exponentValue_yields _ _ _ _

theorem fractionPart_yields (negative : Bool) (significand dropped : Nat) :
    Yields (fractionPart negative significand dropped) Number.InRange := by
  refine Yields.bind (Yields.trivial _) fun _ _ => ?_
  refine Yields.bind (Yields.trivial _) fun ds _ => ?_
  split
  next =>
    refine Yields.bind (Yields.trivial _) fun b? _ => ?_
    cases b? with
    | none => exact Yields.failAtNext _ _
    | some b => exact Yields.failAtNext _ _
  next =>
    refine Yields.bind (Yields.trivial _) fun b? _ => ?_
    split
    next => exact exponentPart_yields _ _ _
    next => exact exponentPart_yields _ _ _
    next => exact real_yields _ _ _

theorem wholeNumber_yields (negative : Bool) {n : Nat} (hn : n ≤ maxSignificand) :
    Yields (wholeNumber negative n) Number.InRange := by
  have hsize : n < UInt64.size := Nat.lt_of_le_of_lt hn (Nat.lt_succ_self _)
  rw [wholeNumber]
  split
  next =>
    refine Yields.pure ⟨?_, ?_⟩
    · exact Int.le_trans (Int.neg_nonpos_of_nonneg (Int.natCast_nonneg _)) (Int.natCast_nonneg n)
    · exact Int.ofNat_lt.2 hsize
  next =>
    split
    next => exact real_yields _ _ _
    next h =>
      have hle : n ≤ UInt64.size / 2 := Nat.le_of_not_lt fun hlt => h (Or.inr hlt)
      refine Yields.pure ⟨?_, ?_⟩
      · exact Int.neg_le_neg (Int.ofNat_le.2 hle)
      · exact Int.lt_of_le_of_lt (Int.neg_nonpos_of_nonneg (Int.natCast_nonneg n)) (by decide)

theorem afterWhole_yields (negative : Bool) {n : Nat} (dropped : Nat) (hn : n ≤ maxSignificand) :
    Yields (afterWhole negative n dropped) Number.InRange := by
  refine Yields.bind (Yields.trivial _) fun b? _ => ?_
  split
  next => exact fractionPart_yields _ _ _
  next => exact exponentPart_yields _ _ _
  next => exact exponentPart_yields _ _ _
  next =>
    split
    next => exact wholeNumber_yields negative hn
    next => exact real_yields _ _ _

/-- An integer that is read is of the 64-bit ranges. -/
theorem numeral_yields (negative : Bool) : Yields (numeral negative) Number.InRange := by
  refine Yields.bind (Yields.trivial _) fun b? _ => ?_
  cases b? with
  | none => exact Yields.fail _ _
  | some b =>
    dsimp only
    split
    next => exact Yields.fail _ _
    next =>
      refine Yields.bind (Yields.trivial _) fun ahead _ => ?_
      split
      next => exact Yields.failAtNext _ _
      next => exact afterWhole_yields negative 0 (Nat.zero_le _)
    next d _ hd =>
      have hd9 : d ≤ maxSignificand := Nat.le_trans (digit?_le hd) (by decide)
      exact Yields.bind (Yields.trivial _) fun ds _ => afterWhole_yields negative _ (wholeDigits_le hd9)

end Json.Reader

end QueueBroker

import Mathlib.Data.Rat.Defs
import Mathlib.Algebra.Field.Rat
import QueueBroker.Number.Whole

/-!
# Decimal notation

Numbers as people write them, part by part: a sign if any, digits with a point somewhere if any, an exponent if any. The two readers of
texts read what has one of these forms, and nothing else: `signed?_eq_some_iff` for whole numbers, `parse?_eq_some_iff` for all.
-/

namespace QueueBroker

/-! ## The parts of a number -/

namespace Notation

/-- What may stand in front of digits, and whether it makes the number negative. -/
inductive Sign : List Char → Bool → Prop where
  | none : Sign [] false
  | plus : Sign ['+'] false
  | minus : Sign ['-'] true

/-- Decimal digits, maybe none. -/
def Digits (cs : List Char) : Prop :=
  ∀ c ∈ cs, c.isDigit = true

/-- The number of some digits. -/
def value (digits : List Char) : Nat :=
  Nat.ofDigitChars 10 digits 0

/-- A number with its sign. -/
def signed (negative : Bool) (n : Nat) : Int :=
  if negative then -n else n

/-- The end of a number after its whole digits, and the digits in it: a point with digits after it, or nothing. -/
inductive Fraction : List Char → List Char → Prop where
  | none : Fraction [] []
  | point {digits : List Char} : Digits digits → Fraction ('.' :: digits) digits

/-- An exponent, or nothing, which stands for zero. -/
inductive Exponent : List Char → Int → Prop where
  | none : Exponent [] 0
  | mark {mark : Char} {sign digits : List Char} {negative : Bool} : mark = 'e' ∨ mark = 'E' → Sign sign negative → Digits digits →
      digits ≠ [] → Exponent (mark :: (sign ++ digits)) (signed negative (value digits))

/-- A number without its sign, as digits and the power of ten that they are taken times. -/
inductive Decimal : List Char → Nat → Int → Prop where
  | mk {whole point fraction mark : List Char} {e : Int} : Digits whole → Fraction point fraction → whole ++ fraction ≠ [] →
      Exponent mark e → Decimal (whole ++ (point ++ mark)) (value (whole ++ fraction)) (e - fraction.length)

/-- The words for infinity, in small letters. -/
def infinities : List String := ["inf", "infinity"]

end Notation

open Notation

/-- The text is a whole number in digits, with a sign or without. -/
def Whole.Spells (s : String) (k : Int) : Prop :=
  ∃ sign digits negative, s.toList = sign ++ digits ∧ Sign sign negative ∧ Digits digits ∧ digits ≠ [] ∧
    k = signed negative (value digits)

/-- The integer has 64 bits with its sign. -/
def Whole.Fits (k : Int) : Prop :=
  -2 ^ 63 ≤ k ∧ k < 2 ^ 63

/-- The text is decimal notation for a rational number. -/
def Real.Denotes (s : String) (q : ℚ) : Prop :=
  ∃ sign cs negative digits e, s.toList = sign ++ cs ∧ Sign sign negative ∧ Decimal cs digits e ∧
    q = signed negative digits * (10 : ℚ) ^ e

/-- What a text without its sign is read as: decimal notation as the number nearest, or a word for what is no number. -/
inductive Real.ReadsUnsigned (negative : Bool) (cs : List Char) : Real → Prop where
  | decimal {digits : Nat} {e : Int} : Decimal cs digits e → ReadsUnsigned negative cs (ofDecimal negative digits e)
  | infinite : String.ofList (cs.map Char.toLower) ∈ infinities → ReadsUnsigned negative cs (infinite negative)
  | undefined : String.ofList (cs.map Char.toLower) = "nan" → ReadsUnsigned negative cs undefined

/-- What a text is read as. -/
def Real.Reads (s : String) (x : Real) : Prop :=
  ∃ sign cs negative, s.toList = sign ++ cs ∧ Sign sign negative ∧ ReadsUnsigned negative cs x

variable {s : String} {c : Char} {cs rest sign digits : List Char} {negative : Bool} {k e : Int} {n : Nat} {x : Real}

/-! ## Digits -/

namespace Notation

theorem digitsValue_eq (cs : List Char) : Real.digitsValue cs = value cs := by
  have hstep : (fun (n : Nat) (d : Char) => n * 10 + (d.toNat - '0'.toNat)) = fun n d => 10 * n + (d.toNat - '0'.toNat) := by
    funext n d
    rw [Nat.mul_comm]
  rw [Real.digitsValue, hstep]
  rfl

theorem Digits.nil : Digits [] := nofun

theorem digits_cons_iff : Digits (c :: cs) ↔ c.isDigit = true ∧ Digits cs := by
  rw [Digits, List.forall_mem_cons]
  rfl

theorem digits_iff_all : Digits cs ↔ cs.all Char.isDigit = true := by
  rw [List.all_eq_true]
  rfl

/-! ## Signs -/

/-- Whether a text has a minus in front, and what follows its sign. -/
def splitSign : List Char → Bool × List Char
  | '-' :: cs => (true, cs)
  | '+' :: cs => (false, cs)
  | cs => (false, cs)

theorem exists_splitSign (cs : List Char) : ∃ sign, cs = sign ++ (splitSign cs).2 ∧ Sign sign (splitSign cs).1 := by
  unfold splitSign
  split
  · exact ⟨['-'], rfl, .minus⟩
  · exact ⟨['+'], rfl, .plus⟩
  · exact ⟨[], rfl, .none⟩

/-- What begins with no sign has none. -/
theorem splitSign_of_ne (hplus : c ≠ '+') (hminus : c ≠ '-') (cs : List Char) : splitSign (c :: cs) = (false, c :: cs) := by
  unfold splitSign
  split
  · rename_i heq
    exact absurd (List.cons.inj heq).1 hminus
  · rename_i heq
    exact absurd (List.cons.inj heq).1 hplus
  · rfl

theorem splitSign_append (hsign : Sign sign negative) (hplus : c ≠ '+') (hminus : c ≠ '-') (cs : List Char) :
    splitSign (sign ++ c :: cs) = (negative, c :: cs) := by
  cases hsign with
  | none => exact splitSign_of_ne hplus hminus cs
  | plus | minus => rfl

/-- A sign is told from the digits after it. -/
theorem splitSign_digits (hsign : Sign sign negative) (hdigits : Digits digits) (hne : digits ≠ []) :
    splitSign (sign ++ digits) = (negative, digits) := by
  rcases digits with _ | ⟨c, digits⟩
  · exact absurd rfl hne
  · obtain ⟨hc, -⟩ := digits_cons_iff.1 hdigits
    refine splitSign_append hsign ?_ ?_ digits <;>
    · rintro rfl
      revert hc
      decide

end Notation

namespace Whole

/-- Of the digits of other bases only decimal ones are below ten. -/
theorem filter_hexDigit? (c : Char) : (hexDigit? c).filter (· < 10) = if c.isDigit then some (c.toNat - '0'.toNat) else none := by
  unfold hexDigit?
  by_cases hc : c.isDigit = true
  · have hlt : c.toNat - '0'.toNat < 10 := by
      have h : 48 ≤ c.toNat ∧ c.toNat ≤ 57 := Char.isDigit_iff_toNat.1 hc
      change c.toNat - 48 < 10
      omega
    rw [if_pos hc, if_pos hc, Option.filter_some, if_pos (decide_eq_true hlt)]
  · rw [if_neg hc, if_neg hc]
    split
    · simp
    · split
      · simp
      · rfl

theorem mapM_hexDigit? (cs : List Char) : (cs.mapM fun c => (hexDigit? c).filter (· < 10)) =
    if cs.all Char.isDigit then some (cs.map fun c => c.toNat - '0'.toNat) else none := by
  induction cs with
  | nil => rfl
  | cons c cs ih =>
    rw [List.mapM_cons, filter_hexDigit?, ih]
    by_cases hc : c.isDigit = true
    · by_cases hcs : cs.all Char.isDigit = true
      · simp [hc, hcs]
      · simp [hc, hcs]
    · simp [hc]

theorem inBase?_ten (cs : List Char) : inBase? 10 cs = digits? cs := by
  rw [inBase?, mapM_hexDigit?, digits?]
  by_cases hcs : cs.all Char.isDigit = true
  · rcases cs with _ | ⟨c, cs⟩
    · rfl
    · simp [hcs, Real.digitsValue, List.foldl_map]
  · simp [hcs]

theorem digits?_eq_some_iff : digits? cs = some n ↔ Digits cs ∧ cs ≠ [] ∧ n = value cs := by
  rw [digits?, digitsValue_eq, digits_iff_all]
  by_cases hcs : cs.all Char.isDigit = true
  · rcases cs with _ | ⟨c, cs⟩
    · simp
    · simp [hcs, eq_comm]
  · simp [hcs]

theorem signedInBase?_ten (cs : List Char) : signedInBase? 10 cs = (digits? (splitSign cs).2).bind fun n =>
    if (splitSign cs).1 then if n ≤ 2 ^ 63 then some (-n : Int) else none else if n < 2 ^ 63 then some n else none := by
  rw [← inBase?_ten]
  rfl

/-- Texts are read as whole numbers when they spell one of 64 bits. -/
theorem signed?_eq_some_iff : signed? s = some k ↔ Spells s k ∧ Fits k := by
  have hread (negative : Bool) (n : Nat) : (if negative then if n ≤ 2 ^ 63 then some (-n : Int) else none
      else if n < 2 ^ 63 then some n else none) = some k ↔ k = signed negative n ∧ Fits k := by
    unfold signed Fits
    cases negative with
    | true =>
      simp only [if_true, Option.ite_none_right_eq_some, Option.some.injEq]
      omega
    | false =>
      simp only [Bool.false_eq_true, if_false, Option.ite_none_right_eq_some, Option.some.injEq]
      omega
  rw [signed?, signedInBase?_ten, Option.bind_eq_some_iff]
  simp only [hread, digits?_eq_some_iff]
  constructor
  · rintro ⟨n, ⟨hdigits, hne, rfl⟩, hk, hfits⟩
    obtain ⟨sign, heq, hsign⟩ := exists_splitSign s.toList
    exact ⟨⟨sign, _, _, heq, hsign, hdigits, hne, hk⟩, hfits⟩
  · rintro ⟨⟨sign, digits, negative, heq, hsign, hdigits, hne, hk⟩, hfits⟩
    rw [heq, splitSign_digits hsign hdigits hne]
    exact ⟨_, ⟨hdigits, hne, rfl⟩, hk, hfits⟩

theorem spells_of_unsigned? (h : unsigned? s = some n) : Spells s n := by
  obtain ⟨m, hread, hn⟩ := Option.bind_eq_some_iff.1 h
  obtain rfl := Option.some.inj (Option.ite_none_right_eq_some.1 hn).2
  split at hread
  · rename_i cs heq
    obtain ⟨hdigits, hne, rfl⟩ := digits?_eq_some_iff.1 hread
    exact ⟨['+'], cs, false, heq, .plus, hdigits, hne, rfl⟩
  · obtain ⟨hdigits, hne, rfl⟩ := digits?_eq_some_iff.1 hread
    exact ⟨[], s.toList, false, rfl, .none, hdigits, hne, rfl⟩

end Whole

namespace Real

theorem exponent?_cons (mark : Char) (rest : List Char) : exponent? (mark :: rest) =
    if mark = 'e' ∨ mark = 'E' then (Whole.digits? (splitSign rest).2).map fun n => signed (splitSign rest).1 n else none := by
  have hread : exponent? (mark :: rest) = if mark = 'e' ∨ mark = 'E' then
      if (splitSign rest).2.isEmpty || !(splitSign rest).2.all Char.isDigit then none
      else some (signed (splitSign rest).1 (digitsValue (splitSign rest).2)) else none := rfl
  rw [hread, Whole.digits?]
  split
  · split <;> rfl
  · rfl

theorem exponent?_eq_some_iff : exponent? cs = some e ↔ Exponent cs e := by
  rcases cs with _ | ⟨mark, rest⟩
  · constructor
    · intro h
      obtain rfl := Option.some.inj h
      exact .none
    · intro h
      cases h
      rfl
  · rw [exponent?_cons, Option.ite_none_right_eq_some]
    simp only [Option.map_eq_some_iff, Whole.digits?_eq_some_iff]
    constructor
    · rintro ⟨hmark, n, ⟨hdigits, hne, rfl⟩, rfl⟩
      obtain ⟨sign, heq, hsign⟩ := exists_splitSign rest
      have hread := Exponent.mark hmark hsign hdigits hne
      rwa [← heq] at hread
    · intro h
      cases h with
      | mark hmark hsign hdigits hne =>
        rw [splitSign_digits hsign hdigits hne]
        exact ⟨hmark, _, ⟨hdigits, hne, rfl⟩, rfl⟩

theorem digits_spanDigits (cs : List Char) : Digits (spanDigits cs).1 :=
  digits_iff_all.2 List.all_takeWhile

theorem spanDigits_eq (cs : List Char) : (spanDigits cs).1 ++ (spanDigits cs).2 = cs :=
  List.takeWhile_append_dropWhile

/-- Digits end at a character that is none. -/
theorem spanDigits_append (hdigits : Digits digits) (hrest : ∀ c ∈ rest.head?, c.isDigit = false) :
    spanDigits (digits ++ rest) = (digits, rest) := by
  have htake : rest.takeWhile Char.isDigit = [] := by
    rcases rest with _ | ⟨c, rest⟩
    · rfl
    · simp [hrest c rfl]
  have hdrop : rest.dropWhile Char.isDigit = rest := by
    rcases rest with _ | ⟨c, rest⟩
    · rfl
    · simp [hrest c rfl]
  rw [spanDigits, List.takeWhile_append_of_pos hdigits, List.dropWhile_append_of_pos hdigits, htake, hdrop, List.append_nil]

/-- The digits after a point, and what follows them. -/
def splitFraction : List Char → List Char × List Char
  | '.' :: rest => spanDigits rest
  | rest => ([], rest)

/-- The digits of a number without its sign, and the power of ten that they are taken times. -/
def decimal? (cs : List Char) : Option (Nat × Int) :=
  if (spanDigits cs).1.isEmpty && (splitFraction (spanDigits cs).2).1.isEmpty then none
  else (exponent? (splitFraction (spanDigits cs).2).2).map fun e =>
    (digitsValue ((spanDigits cs).1 ++ (splitFraction (spanDigits cs).2).1), e - (splitFraction (spanDigits cs).2).1.length)

theorem exists_splitFraction (rest : List Char) :
    ∃ point, rest = point ++ (splitFraction rest).2 ∧ Fraction point (splitFraction rest).1 := by
  unfold splitFraction
  split
  · rename_i rest
    exact ⟨'.' :: (spanDigits rest).1, by rw [List.cons_append, spanDigits_eq], .point (digits_spanDigits rest)⟩
  · exact ⟨[], rfl, .none⟩

theorem exponent_head {mark : List Char} (h : Exponent mark e) : ∀ c ∈ mark.head?, c.isDigit = false ∧ c ≠ '.' := by
  cases h with
  | none => exact nofun
  | mark hmark =>
    rintro c ⟨⟩
    rcases hmark with rfl | rfl <;> decide

theorem splitFraction_append {point fraction mark : List Char} (hfraction : Fraction point fraction) (hmark : Exponent mark e) :
    splitFraction (point ++ mark) = (fraction, mark) := by
  cases hfraction with
  | none =>
    rcases mark with _ | ⟨c, mark⟩
    · rfl
    · rw [List.nil_append, splitFraction]
      rintro rest heq
      exact (exponent_head hmark c rfl).2 (List.cons.inj heq).1
  | point hdigits => exact spanDigits_append hdigits fun c hc => (exponent_head hmark c hc).1

theorem decimal?_eq_some_iff : decimal? cs = some (n, e) ↔ Decimal cs n e := by
  constructor
  · intro h
    simp only [decimal?, Option.ite_none_left_eq_some, Option.map_eq_some_iff, Prod.mk.injEq, digitsValue_eq] at h
    obtain ⟨hne, e, hmark, rfl, rfl⟩ := h
    obtain ⟨point, heq, hfraction⟩ := exists_splitFraction (spanDigits cs).2
    have hcs : cs = (spanDigits cs).1 ++ (point ++ (splitFraction (spanDigits cs).2).2) := by
      rw [← heq, spanDigits_eq]
    have hsome : (spanDigits cs).1 ++ (splitFraction (spanDigits cs).2).1 ≠ [] := by simpa using hne
    have hdecimal := Decimal.mk (digits_spanDigits cs) hfraction hsome (exponent?_eq_some_iff.1 hmark)
    rwa [← hcs] at hdecimal
  · intro h
    cases h with
    | @mk whole point fraction mark e hwhole hfraction hne hmark =>
      have hhead : ∀ c ∈ (point ++ mark).head?, c.isDigit = false := by
        cases hfraction with
        | none => exact fun c hc => (exponent_head hmark c hc).1
        | point => rintro c ⟨⟩; decide
      have hsome : ¬(whole.isEmpty && fraction.isEmpty) = true := by simpa using hne
      simp only [decimal?, spanDigits_append hwhole hhead, splitFraction_append hfraction hmark, if_neg hsome,
        exponent?_eq_some_iff.2 hmark, Option.map_some, digitsValue_eq]

theorem unsigned?_eq (negative : Bool) (cs : List Char) : unsigned? negative cs =
    if String.ofList (cs.map Char.toLower) ∈ infinities then some (infinite negative)
    else if String.ofList (cs.map Char.toLower) = "nan" then some undefined
    else (decimal? cs).map fun read => ofDecimal negative read.1 read.2 := by
  have hwords (word : String) : word ∈ infinities ↔ word = "inf" ∨ word = "infinity" := by simp [infinities]
  simp only [hwords]
  have hread : unsigned? negative cs =
      if String.ofList (cs.map Char.toLower) = "inf" ∨ String.ofList (cs.map Char.toLower) = "infinity" then some (infinite negative)
      else if String.ofList (cs.map Char.toLower) = "nan" then some undefined
      else if (spanDigits cs).1.isEmpty && (splitFraction (spanDigits cs).2).1.isEmpty then none
      else (exponent? (splitFraction (spanDigits cs).2).2).map fun e =>
        ofDecimal negative (digitsValue ((spanDigits cs).1 ++ (splitFraction (spanDigits cs).2).1))
          (e - (splitFraction (spanDigits cs).2).1.length) := rfl
  rw [hread, decimal?]
  split
  · rfl
  · split
    · rfl
    · split
      · rfl
      · rw [Option.map_map]
        rfl

/-- A number begins with a digit or a point. -/
theorem exists_head (h : Decimal cs n e) : ∃ c rest, cs = c :: rest ∧ (c.isDigit = true ∨ c = '.') := by
  cases h with
  | @mk whole point fraction mark e hwhole hfraction hne hmark =>
    rcases whole with _ | ⟨c, whole⟩
    · cases hfraction with
      | none => exact absurd rfl hne
      | point => exact ⟨_, _, rfl, Or.inr rfl⟩
    · exact ⟨_, _, rfl, Or.inl (digits_cons_iff.1 hwhole).1⟩

theorem toLower_of_isDigit (hc : c.isDigit = true) : c.toLower = c := by
  have h : 48 ≤ c.toNat ∧ c.toNat ≤ 57 := Char.isDigit_iff_toNat.1 hc
  unfold Char.toLower
  split
  · rename_i hupper
    have hlow : 65 ≤ c.toNat := UInt32.le_iff_toNat_le.1 hupper.1
    omega
  · rfl

/-- A word for what is no number begins with a letter. -/
theorem exists_head_of_word (h : String.ofList (cs.map Char.toLower) ∈ infinities ∨ String.ofList (cs.map Char.toLower) = "nan") :
    ∃ c rest, cs = c :: rest ∧ (c.toLower = 'i' ∨ c.toLower = 'n') := by
  have hlist (word : String) (heq : String.ofList (cs.map Char.toLower) = word) : cs.map Char.toLower = word.toList := by
    rw [← heq, String.toList_ofList]
  simp only [infinities, List.mem_cons, List.not_mem_nil, or_false] at h
  rcases cs with _ | ⟨c, cs⟩
  · rcases h with (h | h) | h <;> cases hlist _ h
  · rcases h with (h | h) | h
    · exact ⟨c, cs, rfl, Or.inl (List.cons.inj (hlist _ h)).1⟩
    · exact ⟨c, cs, rfl, Or.inl (List.cons.inj (hlist _ h)).1⟩
    · exact ⟨c, cs, rfl, Or.inr (List.cons.inj (hlist _ h)).1⟩

/-- So no number in decimal notation is such a word. -/
theorem not_word_of_decimal (hdecimal : Decimal cs n e) :
    ¬(String.ofList (cs.map Char.toLower) ∈ infinities ∨ String.ofList (cs.map Char.toLower) = "nan") := by
  intro hword
  obtain ⟨c, rest, rfl, hc⟩ := exists_head_of_word hword
  obtain ⟨_, _, heq, hhead⟩ := exists_head hdecimal
  obtain ⟨rfl, -⟩ := List.cons.inj heq
  rcases hhead with hdigit | rfl
  · rw [toLower_of_isDigit hdigit] at hc
    rcases hc with rfl | rfl <;> revert hdigit <;> decide
  · revert hc
    decide

theorem unsigned?_eq_some_iff : unsigned? negative cs = some x ↔ ReadsUnsigned negative cs x := by
  rw [unsigned?_eq]
  constructor
  · intro h
    split at h
    · rename_i hword
      obtain rfl := Option.some.inj h
      exact .infinite hword
    · split at h
      · rename_i hword
        obtain rfl := Option.some.inj h
        exact .undefined hword
      · obtain ⟨⟨n, e⟩, hread, rfl⟩ := Option.map_eq_some_iff.1 h
        exact .decimal (decimal?_eq_some_iff.1 hread)
  · intro h
    cases h with
    | decimal h =>
      have hwords := not_or.1 (not_word_of_decimal h)
      rw [if_neg hwords.1, if_neg hwords.2, decimal?_eq_some_iff.2 h, Option.map_some]
    | infinite hword => rw [if_pos hword]
    | undefined hword => rw [if_neg (by rw [hword]; decide), if_pos hword]

/-- What can be read without a sign begins with none. -/
theorem splitSign_of_reads (hsign : Sign sign negative) (h : ReadsUnsigned negative cs x) :
    splitSign (sign ++ cs) = (negative, cs) := by
  have hhead : ∃ c rest, cs = c :: rest ∧ (c.isDigit = true ∨ c = '.' ∨ c.toLower = 'i' ∨ c.toLower = 'n') := by
    cases h with
    | decimal hdecimal =>
      obtain ⟨c, rest, heq, hc⟩ := exists_head hdecimal
      exact ⟨c, rest, heq, hc.imp_right Or.inl⟩
    | infinite hword =>
      obtain ⟨c, rest, heq, hc⟩ := exists_head_of_word (Or.inl hword)
      exact ⟨c, rest, heq, Or.inr (Or.inr hc)⟩
    | undefined hword =>
      obtain ⟨c, rest, heq, hc⟩ := exists_head_of_word (Or.inr hword)
      exact ⟨c, rest, heq, Or.inr (Or.inr hc)⟩
  obtain ⟨c, rest, rfl, hc⟩ := hhead
  refine splitSign_append hsign ?_ ?_ rest <;>
  · rintro rfl
    revert hc
    decide

/-- Texts are read as what they are. -/
theorem parse?_eq_some_iff : parse? s = some x ↔ Reads s x := by
  have hparse : parse? s = unsigned? (splitSign s.toList).1 (splitSign s.toList).2 := by
    unfold parse? splitSign
    split <;> simp_all
  rw [hparse, unsigned?_eq_some_iff]
  constructor
  · intro h
    obtain ⟨sign, heq, hsign⟩ := exists_splitSign s.toList
    exact ⟨sign, _, _, heq, hsign, h⟩
  · rintro ⟨sign, cs, negative, heq, hsign, h⟩
    rw [heq, splitSign_of_reads hsign h]
    exact h

/-- A text is read as one number at most. -/
theorem Reads.unique {y : Real} (hx : Reads s x) (hy : Reads s y) : x = y := by
  rw [← Option.some_inj, ← parse?_eq_some_iff.2 hx, parse?_eq_some_iff.2 hy]

/-- Decimal notation is read as a number, -/
theorem Denotes.exists_reads {q : ℚ} (h : Denotes s q) : ∃ x, Reads s x := by
  obtain ⟨sign, cs, negative, n, e, heq, hsign, hdecimal, -⟩ := h
  exact ⟨_, sign, cs, negative, heq, hsign, .decimal hdecimal⟩

/-- and stands for one only. -/
theorem Denotes.unique {q r : ℚ} (hq : Denotes s q) (hr : Denotes s r) : q = r := by
  obtain ⟨sign, cs, negative, n, e, heq, hsign, hdecimal, rfl⟩ := hq
  obtain ⟨sign', cs', negative', n', e', heq', hsign', hdecimal', rfl⟩ := hr
  have hsplit := splitSign_of_reads hsign (.decimal hdecimal)
  rw [← heq, heq', splitSign_of_reads hsign' (.decimal hdecimal')] at hsplit
  obtain ⟨rfl, rfl⟩ := Prod.mk.inj hsplit
  have hread := decimal?_eq_some_iff.2 hdecimal
  rw [decimal?_eq_some_iff.2 hdecimal'] at hread
  obtain ⟨rfl, rfl⟩ := Prod.mk.inj (Option.some.inj hread)
  rfl

/-- A whole number in digits is decimal notation for it. -/
theorem denotes_of_spells (h : Whole.Spells s k) : Denotes s k := by
  obtain ⟨sign, digits, negative, heq, hsign, hdigits, hne, rfl⟩ := h
  have hdecimal := Decimal.mk hdigits .none (by rwa [List.append_nil]) .none
  rw [List.append_nil, List.append_nil, List.length_nil, Nat.cast_zero, sub_zero] at hdecimal
  exact ⟨sign, digits, negative, _, _, heq, hsign, hdecimal, by rw [zpow_zero, mul_one]⟩

end Real

end QueueBroker

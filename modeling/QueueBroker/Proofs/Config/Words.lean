import QueueBroker.Proofs.Number.Exactness

/-!
# Words that variables give

A variable of the environment holds a text, which is taken as a truth value or a number when it reads as one, and then made a text or a
whole number again for the setting that wants it. `TextTaken` and `NumberTaken` say what is left of it in the end.
-/

namespace QueueBroker.Setting

/-- The text reads as a truth value or as a number. -/
def ReadsAsOther (word : String) : Prop :=
  (∃ b : Bool, word.toLower = toString b) ∨ ∃ x, Real.Reads word x

/-- The text is a whole number of 64 bits in digits. -/
def IsInteger (word : String) : Prop :=
  ∃ k, Whole.Spells word k ∧ Whole.Fits k

/-- What a text setting becomes by a word: the word as it is, unless that reads as something else, which is spelled anew then. -/
structure TextTaken (word taken : String) : Prop where
  asWritten : ¬ReadsAsOther word → taken = word
  truth : ∀ b : Bool, word.toLower = toString b → taken = toString b
  integer : ∀ k, Whole.Spells word k → Whole.Fits k → taken = toString k
  real : ∀ x, ¬IsInteger word → Real.Reads word x → taken = x.render

/-- What a number setting becomes by a word: the integer that the word stands for, if it is written in digits or has few bits, and else
the whole number nearest to what it reads as. -/
structure NumberTaken (word : String) (taken : Nat) : Prop where
  integer : ∀ k, Whole.Spells word k → Whole.Fits k → taken = k
  decimal : ∀ k : Nat, Real.Denotes word k → k < 2 ^ 64 → Magnitude.Precise k → taken = k
  rounded : ∀ x, ¬IsInteger word → Real.Reads word x → taken = nearest x
  yes : word.toLower ∈ yesWords → taken = 1
  no : word.toLower ∈ noWords → taken = 0
  /-- Nothing else is taken. -/
  form : (∃ x, Real.Reads word x) ∨ word.toLower ∈ yesWords ∨ word.toLower ∈ noWords

variable {word taken : String} {x : Real} {k : Int} {n : Nat} {b : Bool}

/-! ## What words are taken as -/

/-- A word for yes or no is no number. -/
theorem not_reads_of_word (hword : word.toLower ∈ yesWords ++ noWords) : ¬Real.Reads word x := by
  rintro ⟨sign, cs, negative, heq, hsign, hreads⟩
  have hhead : ∀ known ∈ yesWords ++ noWords,
      (known.toList.head?.all fun c => c != '+' && c != '-' && c != '.' && !c.isDigit) = true := by
    decide +kernel
  have hother : ∀ known ∈ yesWords ++ noWords, known ∉ Notation.infinities ∧ known ≠ "nan" := by decide +kernel
  have hlower : word.toLower.toList = sign.map Char.toLower ++ cs.map Char.toLower := by
    change (word.map Char.toLower).toList = _
    rw [String.toList_map, heq, List.map_append]
  have hfirst (c : Char) (hc : word.toLower.toList.head? = some c) : c ≠ '+' ∧ c ≠ '-' ∧ c ≠ '.' ∧ c.isDigit = false := by
    have hall := hhead _ hword
    rw [hc] at hall
    simpa [and_assoc] using hall
  rw [hlower] at hfirst
  cases hsign with
  | plus => exact (hfirst _ rfl).1 rfl
  | minus => exact (hfirst _ rfl).2.1 rfl
  | none =>
    have hcs : String.ofList (cs.map Char.toLower) = word.toLower := by
      rw [← String.ofList_toList (s := word.toLower), hlower]
      rfl
    cases hreads with
    | decimal hdecimal =>
      obtain ⟨c, rest, rfl, hc⟩ := Real.exists_head hdecimal
      obtain ⟨-, -, hpoint, hdigit⟩ := hfirst _ rfl
      rcases hc with hc | rfl
      · rw [Real.toLower_of_isDigit hc, hc] at hdigit
        cases hdigit
      · exact hpoint rfl
    | infinite hinfinite => exact (hother _ hword).1 (hcs ▸ hinfinite)
    | undefined hundefined => exact (hother _ hword).2 (hcs ▸ hundefined)

theorem not_reads_of_truth (h : word.toLower = toString b) : ¬Real.Reads word x := by
  refine not_reads_of_word ?_
  rw [h]
  cases b <;> decide +kernel

theorem ofWord_of_truth (h : word.toLower = toString b) : ofWord word = boolean b := by
  cases b with
  | true => exact if_pos h
  | false =>
    have hne : word.toLower ≠ "true" := by
      rw [h]
      decide
    rw [ofWord, if_neg hne]
    exact if_pos h

/-- A word that is no truth value is read as an integer first, then as another number. -/
theorem ofWord_eq (h : ∀ b : Bool, word.toLower ≠ toString b) : ofWord word =
    match Whole.signed? word with
    | some n => integer n
    | none =>
      match Real.parse? word with
      | some x => real x
      | none => text word := by
  have htrue : word.toLower ≠ "true" := h true
  have hfalse : word.toLower ≠ "false" := h false
  unfold ofWord
  exact (if_neg htrue).trans (if_neg hfalse)

theorem ofWord_of_integer (hspells : Whole.Spells word k) (hfits : Whole.Fits k) : ofWord word = integer k := by
  obtain ⟨x, hreads⟩ := (Real.denotes_of_spells hspells).exists_reads
  rw [ofWord_eq fun b h => not_reads_of_truth h hreads, Whole.signed?_eq_some_iff.2 ⟨hspells, hfits⟩]

theorem ofWord_of_real (hinteger : ¬IsInteger word) (hreads : Real.Reads word x) : ofWord word = real x := by
  have hsigned : Whole.signed? word = none :=
    Option.eq_none_iff_forall_ne_some.2 fun k hk => hinteger ⟨k, Whole.signed?_eq_some_iff.1 hk⟩
  rw [ofWord_eq fun b h => not_reads_of_truth h hreads, hsigned, Real.parse?_eq_some_iff.2 hreads]

theorem exists_reads_of_isInteger (h : IsInteger word) : ∃ x, Real.Reads word x := by
  obtain ⟨k, hspells, -⟩ := h
  exact (Real.denotes_of_spells hspells).exists_reads

theorem ofWord_of_not (h : ¬ReadsAsOther word) : ofWord word = text word := by
  obtain ⟨htruth, hreads⟩ := not_or.1 h
  have hsigned : Whole.signed? word = none :=
    Option.eq_none_iff_forall_ne_some.2 fun k hk => hreads (exists_reads_of_isInteger ⟨k, Whole.signed?_eq_some_iff.1 hk⟩)
  have hparse : Real.parse? word = none :=
    Option.eq_none_iff_forall_ne_some.2 fun x hx => hreads ⟨x, Real.parse?_eq_some_iff.1 hx⟩
  rw [ofWord_eq fun b hb => htruth ⟨b, hb⟩, hsigned, hparse]

/-! ## What settings become of them -/

theorem textTaken_of_toText? (h : (ofWord word).toText? = some taken) : TextTaken word taken where
  asWritten hother := by
    rw [ofWord_of_not hother] at h
    exact (Option.some.inj h).symm
  truth b hword := by
    rw [ofWord_of_truth hword] at h
    rw [← Option.some.inj h]
    cases b <;> rfl
  integer k hspells hfits := by
    rw [ofWord_of_integer hspells hfits] at h
    exact (Option.some.inj h).symm
  real x hinteger hreads := by
    rw [ofWord_of_real hinteger hreads] at h
    exact (Option.some.inj h).symm

theorem nearest_lt (x : Real) : nearest x < 2 ^ 64 := by
  have hsize : UInt64.size = 2 ^ 64 := rfl
  unfold nearest
  split
  · split <;> omega
  · split <;> omega
  · omega

theorem toNatural?_text (h : ¬ReadsAsOther word) : (text word).toNatural? =
    if word.toLower ∈ yesWords then some 1 else if word.toLower ∈ noWords then some 0 else none := by
  have hunsigned : Whole.unsigned? word = none := by
    refine Option.eq_none_iff_forall_ne_some.2 fun n hn => h (Or.inr ?_)
    exact (Real.denotes_of_spells (Whole.spells_of_unsigned? hn)).exists_reads
  simp only [toNatural?, hunsigned, List.contains_iff_mem]

/-- The words for yes and no that are no truth values count as such all the same. -/
theorem toNatural?_of_word (hword : word.toLower ∈ if b then yesWords else noWords) : (ofWord word).toNatural? = some b.toNat := by
  have hmem : word.toLower ∈ yesWords ++ noWords := by
    cases b with
    | true => exact List.mem_append_left _ hword
    | false => exact List.mem_append_right _ hword
  have hapart : "false" ∉ yesWords ∧ ∀ known ∈ noWords, known ∉ yesWords := by decide +kernel
  by_cases htruth : word.toLower = toString b
  · rw [ofWord_of_truth htruth]
    rfl
  · have hother : ¬ReadsAsOther word := by
      rintro (⟨b', hb'⟩ | ⟨x, hreads⟩)
      · cases b <;> cases b'
        · exact htruth hb'
        · refine hapart.2 _ hword ?_
          rw [hb']
          decide +kernel
        · have hfalse : word.toLower = "false" := hb'
          exact hapart.1 (hfalse ▸ hword)
        · exact htruth hb'
      · exact not_reads_of_word hmem hreads
    rw [ofWord_of_not hother, toNatural?_text hother]
    cases b with
    | true => exact if_pos hword
    | false => exact (if_neg (hapart.2 _ hword)).trans (if_pos hword)

theorem lt_of_toNatural? (h : (ofWord word).toNatural? = some n) : n < 2 ^ 64 := by
  by_cases hother : ReadsAsOther word
  · rcases hother with ⟨b, hword⟩ | ⟨x, hreads⟩
    · rw [ofWord_of_truth hword] at h
      obtain rfl := Option.some.inj h
      cases b <;> decide
    · by_cases hinteger : IsInteger word
      · obtain ⟨k, hspells, hfits⟩ := hinteger
        rw [ofWord_of_integer hspells hfits, toNatural?, Option.ite_none_right_eq_some] at h
        obtain ⟨hk, hn⟩ := h
        obtain rfl := Option.some.inj hn
        have hlt := hfits.2
        omega
      · rw [ofWord_of_real hinteger hreads] at h
        obtain rfl := Option.some.inj h
        exact nearest_lt x
  · rw [ofWord_of_not hother, toNatural?_text hother] at h
    split at h
    · obtain rfl := Option.some.inj h
      decide
    · split at h
      · obtain rfl := Option.some.inj h
        decide
      · cases h

theorem numberTaken_of_toNatural? (h : (ofWord word).toNatural? = some n) : NumberTaken word n where
  integer k hspells hfits := by
    rw [ofWord_of_integer hspells hfits, toNatural?, Option.ite_none_right_eq_some] at h
    obtain ⟨hk, hn⟩ := h
    rw [← Option.some.inj hn, Int.toNat_of_nonneg hk]
  decimal k hdenotes hlt hprecise := by
    obtain ⟨x, hreads⟩ := hdenotes.exists_reads
    by_cases hinteger : IsInteger word
    · obtain ⟨j, hspells, hfits⟩ := hinteger
      have hj : j = k := by exact_mod_cast (Real.denotes_of_spells hspells).unique hdenotes
      rw [ofWord_of_integer hspells hfits, hj, toNatural?, if_pos k.cast_nonneg] at h
      exact (Option.some.inj h).symm
    · rw [ofWord_of_real hinteger hreads] at h
      rw [← Option.some.inj h, nearest_eq hdenotes hreads hprecise hlt]
  rounded x hinteger hreads := by
    rw [ofWord_of_real hinteger hreads] at h
    exact (Option.some.inj h).symm
  yes hword := by
    rw [toNatural?_of_word (b := true) hword] at h
    exact (Option.some.inj h).symm
  no hword := by
    rw [toNatural?_of_word (b := false) hword] at h
    exact (Option.some.inj h).symm
  form := by
    by_cases hother : ReadsAsOther word
    · rcases hother with ⟨b, hword⟩ | hreads
      · refine Or.inr ?_
        rw [hword]
        cases b <;> decide +kernel
      · exact Or.inl hreads
    · rw [ofWord_of_not hother, toNatural?_text hother] at h
      split at h
      · rename_i hyes
        exact Or.inr (Or.inl hyes)
      · rw [Option.ite_none_right_eq_some] at h
        exact Or.inr (Or.inr h.1)

end QueueBroker.Setting

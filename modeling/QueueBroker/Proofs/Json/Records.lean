import QueueBroker.Json.Shape
import QueueBroker.Proofs.Json.Trees

/-!
# Reading structs

The fields of a struct are read back from an object that lists them. Whatever a struct is read from, it has its fields in order,
and the value of each is one that its reader reads or its default.
-/

namespace QueueBroker.Json.Shape

open Reader

variable {Q : String → Json → Prop} {rest i j : Bytes}

/-! ## Whole documents -/

section Whole

variable {α : Type} {shape : Shape} {of? : Json → Option α} {v : Json} {a : α} {bytes : Bytes}

theorem decode_of_reads (h : Reads (shape.read maxDepth) (bytes ++ []) v []) (hstands : of? v = some a) :
    shape.decode of? bytes = .ok a := by
  rw [List.append_nil] at h
  rw [decode, Shape.parse, h.whole]
  change interpret of? v = .ok a
  rw [interpret, hstands]

theorem decode_of_refuses (of? : Json → Option α) (h : Refuses (shape.read maxDepth) (bytes ++ [])) :
    ∃ e, shape.decode of? bytes = .error e := by
  rw [List.append_nil] at h
  obtain ⟨e, he⟩ := h.whole
  refine ⟨e, ?_⟩
  rw [decode, Shape.parse, he]
  rfl

end Whole

/-! ## Reading back -/

theorem readText_reads (expected s : String) (rest : Bytes) :
    Reads (readText expected) ((Json.text s).bytes ++ rest) (Json.text s) rest := by
  rw [bytes_text, List.cons_append, List.append_assoc]
  refine Reads.bind (Reads.peekPastBlanks (by decide) _) ?_
  exact Reads.bind (Reads.skip _ _) (Reads.map Json.text (string_reads s rest))

theorem readText_readsBack (expected s : String) : ReadsBack (readText expected) (.text s) :=
  fun rest _ => readText_reads expected s rest

theorem readBoolean_reads (b : Bool) (rest : Bytes) : Reads readBoolean ((Json.boolean b).bytes ++ rest) (Json.boolean b) rest := by
  cases b with
  | true =>
    exact Reads.bind (Reads.peekPastBlanks (x := code 't') (by decide) _)
      (Reads.bind (Reads.skip _ _) (Reads.bind (Reads.literal ['r', 'u', 'e'] rest) (Reads.pure _ rest)))
  | false =>
    exact Reads.bind (Reads.peekPastBlanks (x := code 'f') (by decide) _)
      (Reads.bind (Reads.skip _ _) (Reads.bind (Reads.literal ['a', 'l', 's', 'e'] rest) (Reads.pure _ rest)))

theorem recordMembers_end (fields : List FieldReader) (fuel : Nat) (first : Bool) (slots : Slots) (rest : Bytes) :
    Reads (recordMembers fields (fuel + 1) first slots) (code '\x7d' :: rest) slots (code '\x7d' :: rest) :=
  Reads.bind (nextName_end first rest) (Reads.pure slots _)

section Turn

variable {fields : List FieldReader} {slots out : Slots} {name : String} {default : Option Json} {field : Reader Json}
  {value stored : Json} {fuel : Nat}

/-- A member with the name of a field that was not read is read as that field. -/
theorem recordMembers_turn (hfind : fields.find? (fun field => field.1 == name) = some (name, default, field))
    (hset : isSet slots name = false) (first : Bool) (hread : Reads field (value.bytes ++ i) stored j)
    (h : Reads (recordMembers fields fuel false (set slots name stored)) j out rest) :
    Reads (recordMembers fields (fuel + 1) first slots) (separator first ++ memberBytes name value ++ i) out rest := by
  refine Reads.bind (nextName_reads first name value i) ?_
  simp only [hfind, hset, Bool.false_eq_true, if_false]
  exact Reads.bind (colon_reads _) (Reads.bind hread h)

theorem recordMembers_turn_refuses (hfind : fields.find? (fun field => field.1 == name) = some (name, default, field))
    (hset : isSet slots name = false) (first : Bool) (hread : Refuses field (value.bytes ++ i)) :
    Refuses (recordMembers fields (fuel + 1) first slots) (separator first ++ memberBytes name value ++ i) := by
  refine Refuses.bind_of_reads (nextName_reads first name value i) ?_
  simp only [hfind, hset, Bool.false_eq_true, if_false]
  exact Refuses.bind_of_reads (colon_reads _) (Refuses.bind hread)

/-- After a member that is read as a field, the refusal of the others is that of the struct. -/
theorem recordMembers_turn_refuses_later
    (hfind : fields.find? (fun field => field.1 == name) = some (name, default, field))
    (hset : isSet slots name = false) (first : Bool) (hread : Reads field (value.bytes ++ i) stored j)
    (h : Refuses (recordMembers fields fuel false (set slots name stored)) j) :
    Refuses (recordMembers fields (fuel + 1) first slots) (separator first ++ memberBytes name value ++ i) := by
  refine Refuses.bind_of_reads (nextName_reads first name value i) ?_
  simp only [hfind, hset, Bool.false_eq_true, if_false]
  exact Refuses.bind_of_reads (colon_reads _) (Refuses.bind_of_reads hread h)

end Turn

/-! ## Structs of two fields -/

section Pair

variable {a b : String} {readA readB : Reader Json} {v w : Json}

/-- Two fields without defaults and their readers. -/
abbrev pairFields (a : String) (readA : Reader Json) (b : String) (readB : Reader Json) : List FieldReader :=
  [(a, none, readA), (b, none, readB)]

theorem find_first : (pairFields a readA b readB).find? (fun field => field.1 == a) = some (a, none, readA) :=
  List.find?_cons_of_pos (by simp)

theorem find_second (hne : a ≠ b) : (pairFields a readA b readB).find? (fun field => field.1 == b) = some (b, none, readB) :=
  (List.find?_cons_of_neg (by simpa using hne)).trans (List.find?_cons_of_pos (by simp))

theorem set_first (hne : a ≠ b) (v : Json) : set [(a, none), (b, none)] a v = [(a, some v), (b, none)] := by
  simp [Shape.set, hne.symm]

theorem set_second (hne : a ≠ b) (v w : Json) : set [(a, some v), (b, none)] b w = [(a, some v), (b, some w)] := by
  simp [Shape.set, hne]

/-- There is fuel for two fields and the end of a struct. -/
theorem exists_fuel (members : List (String × Json)) (name : String) (value : Json) (rest : Bytes) :
    ∃ fuel, (membersFrom true ((name, value) :: members) ++ rest).length + 1 = fuel + 3 := by
  refine ⟨(membersFrom true ((name, value) :: members) ++ rest).length - 2, ?_⟩
  simp only [membersFrom, memberBytes_eq, List.length_append, List.length_cons]
  omega

theorem emptySlots_pair (a b : String) (readA readB : Reader Json) :
    (pairFields a readA b readB).map (fun field => (field.1, (none : Option Json))) = [(a, none), (b, none)] :=
  rfl

/-- A struct of two fields is read back if their values are. -/
theorem readRecord_pair_reads (title : String) (hne : a ≠ b) (depth : Nat) (hv : ReadsBack readA v) (hw : ReadsBack readB w)
    (rest : Bytes) :
    Reads (readRecord title (pairFields a readA b readB) (depth + 1)) ((object [(a, v), (b, w)]).bytes ++ rest)
      (object [(a, v), (b, w)]) rest := by
  obtain ⟨fuel, hfuel⟩ := exists_fuel [(b, w)] a v rest
  rw [bytes_object, List.cons_append]
  refine Reads.located (Reads.bind (Reads.peekPastBlanks (by decide) _) ?_)
  refine Reads.bind (Reads.skip _ _) (Reads.bind (Reads.remaining _) ?_)
  rw [hfuel, emptySlots_pair]
  refine Reads.enclosed (Reads.bind (a := [(a, some v), (b, some w)]) ?_ (Reads.pure _ _)) (endObject_reads rest)
  rw [membersFrom_cons_append, membersFrom_cons_append]
  refine recordMembers_turn find_first (by simp [isSet]) true (hv _ (Apart.cons (by decide) _)) ?_
  rw [set_first hne]
  refine recordMembers_turn (find_second hne) (by simp [isSet, hne]) false (hw _ (Apart.cons (by decide) _)) ?_
  rw [set_second hne]
  exact recordMembers_end _ fuel false _ rest

/-- A struct of two fields is refused if the value of the second is. -/
theorem readRecord_pair_refuses (title : String) (hne : a ≠ b) (depth : Nat) (hv : ReadsBack readA v) (hw : Rejects readB w)
    (rest : Bytes) :
    Refuses (readRecord title (pairFields a readA b readB) (depth + 1)) ((object [(a, v), (b, w)]).bytes ++ rest) := by
  obtain ⟨fuel, hfuel⟩ := exists_fuel [(b, w)] a v rest
  rw [bytes_object, List.cons_append]
  refine Refuses.located (Refuses.bind_of_reads (Reads.peekPastBlanks (by decide) _) ?_)
  refine Refuses.bind_of_reads (Reads.skip _ _) (Refuses.bind_of_reads (Reads.remaining _) ?_)
  rw [hfuel, emptySlots_pair]
  refine Refuses.enclosed _ (Refuses.bind ?_)
  rw [membersFrom_cons_append, membersFrom_cons_append]
  refine recordMembers_turn_refuses_later find_first (by simp [isSet]) true (hv _ (Apart.cons (by decide) _)) ?_
  rw [set_first hne]
  exact recordMembers_turn_refuses (find_second hne) (by simp [isSet, hne]) false (hw _)

end Pair

/-! ## What structs are read -/

/-- A sequence of two checks accepts what both accept. -/
theorem bind_eq_ok {ε α β : Type} {x : Except ε α} {f : α → Except ε β} {b : β} (h : x >>= f = .ok b) :
    ∃ a, x = .ok a ∧ f a = .ok b := by
  cases x with
  | error e => cases h
  | ok a => exact ⟨a, rfl, h⟩

theorem map_eq_ok {ε α β : Type} {x : Except ε α} {f : α → β} {b : β} (h : x.map f = .ok b) : ∃ a, x = .ok a ∧ f a = b := by
  cases x with
  | error e => cases h
  | ok a => exact ⟨a, rfl, Except.ok.inj h⟩

/-- Members with the names of some fields, in order, whose values satisfy `Q`. -/
def Fill (Q : String → Json → Prop) (names : List String) (members : List (String × Json)) : Prop :=
  List.Forall₂ (fun name m => m.1 = name ∧ Q name m.2) names members

/-- Slots with the names of some fields, in order, whose values so far satisfy `Q`. -/
def Hold (Q : String → Json → Prop) (names : List String) (slots : Slots) : Prop :=
  List.Forall₂ (fun name slot => slot.1 = name ∧ ∀ v ∈ slot.2, Q name v) names slots

theorem Hold.empty (names : List String) : Hold Q names (names.map fun name => (name, none)) := by
  induction names with
  | nil => exact List.Forall₂.nil
  | cons name names ih => exact List.Forall₂.cons ⟨rfl, fun _ hv => nomatch hv⟩ ih

theorem Hold.set {names : List String} {slots : Slots} (h : Hold Q names slots) {name : String} {value : Json}
    (hvalue : Q name value) : Hold Q names (set slots name value) := by
  induction h with
  | nil => exact List.Forall₂.nil
  | @cons own slot names slots hslot _ ih =>
    refine List.Forall₂.cons ?_ ih
    obtain ⟨rfl, hown⟩ := hslot
    dsimp only
    by_cases heq : slot.1 = name
    · rw [if_pos (by simpa using heq)]
      refine ⟨rfl, fun v hv => ?_⟩
      obtain rfl := Option.some.inj hv
      exact heq ▸ hvalue
    · rw [if_neg (by simpa using heq)]
      exact ⟨rfl, hown⟩

/-- Fields without defaults are all filled when the struct is finished. -/
theorem Hold.finish {names : List String} {slots : Slots} (h : Hold Q names slots) {members : List (String × Json)}
    (hfinish : finish (names.map fun name => (name, none)) slots = .ok members) : Fill Q names members := by
  induction h generalizing members with
  | nil =>
    cases hfinish
    exact List.Forall₂.nil
  | @cons own slot names slots hslot _ ih =>
    obtain ⟨other, value?⟩ := slot
    obtain ⟨rfl, hown⟩ := hslot
    cases value? with
    | none => cases hfinish
    | some value =>
      rw [List.map_cons, Shape.finish] at hfinish
      obtain ⟨later, hlater, rfl⟩ := map_eq_ok hfinish
      exact List.Forall₂.cons ⟨rfl, hown value rfl⟩ (ih hlater)

/-- Values one for each name make up members that fill the fields of these names. -/
theorem Fill.zip {names : List String} {values : List Json} (h : List.Forall₂ Q names values) : Fill Q names (names.zip values) := by
  induction h with
  | nil => exact List.Forall₂.nil
  | cons hvalue _ ih => exact List.Forall₂.cons ⟨rfl, hvalue⟩ ih

theorem Fill.pair {a b : String} {members : List (String × Json)} (h : Fill Q [a, b] members) :
    ∃ v w, members = [(a, v), (b, w)] ∧ Q a v ∧ Q b w := by
  cases h with
  | cons h1 h =>
    cases h with
    | cons h2 h =>
      cases h
      obtain ⟨rfl, h1⟩ := h1
      obtain ⟨rfl, h2⟩ := h2
      exact ⟨_, _, rfl, h1, h2⟩

/-- Fields that have no defaults, by name. -/
abbrev Bare (fields : List (String × Option Json × Reader Json)) : Prop :=
  ∀ field ∈ fields, field.2.1 = none

theorem recordItems_yields (title : String) (size : Nat) {fields : List FieldReader} (hbare : Bare fields)
    (hfields : ∀ field ∈ fields, Yields field.2.2 (Q field.1)) (read : Nat) :
    Yields (recordItems title size read fields) (Fill Q (fields.map (·.1))) := by
  induction fields generalizing read with
  | nil => exact Yields.pure List.Forall₂.nil
  | cons field fields ih =>
    obtain ⟨name, default, reader⟩ := field
    obtain rfl : default = none := hbare _ List.mem_cons_self
    refine Yields.bind (Yields.trivial _) fun more _ => ?_
    cases more with
    | false => exact Yields.refuse _ _
    | true =>
      refine Yields.bind (hfields _ List.mem_cons_self) fun value hvalue => ?_
      refine Yields.bind (ih (fun f hf => hbare f (List.mem_cons_of_mem _ hf))
        (fun f hf => hfields f (List.mem_cons_of_mem _ hf)) (read + 1)) fun values hvalues => ?_
      exact Yields.pure (List.Forall₂.cons ⟨rfl, hvalue⟩ hvalues)

theorem recordMembers_yields {fields : List FieldReader} (hfields : ∀ field ∈ fields, Yields field.2.2 (Q field.1))
    {names : List String} (fuel : Nat) (first : Bool) {slots : Slots} (hslots : Hold Q names slots) :
    Yields (recordMembers fields fuel first slots) (Hold Q names) := by
  induction fuel generalizing first slots with
  | zero => exact Yields.pure hslots
  | succ fuel ih =>
    refine Yields.bind (Yields.trivial _) fun name? _ => ?_
    cases name? with
    | none => exact Yields.pure hslots
    | some name =>
      dsimp only
      cases hfind : fields.find? (fun field => field.1 == name) with
      | none =>
        exact Yields.bind (Yields.trivial _) fun _ _ => Yields.bind (Yields.trivial _) fun _ _ => ih false hslots
      | some field =>
        obtain ⟨own, default, reader⟩ := field
        obtain rfl : own = name := by simpa using List.find?_some hfind
        have hreader : Yields reader (Q own) := hfields _ (List.mem_of_find?_eq_some hfind)
        dsimp only
        split
        · exact Yields.refuse _ _
        · refine Yields.bind (Yields.trivial _) fun _ _ => ?_
          exact Yields.bind hreader fun value hvalue => ih false (hslots.set hvalue)

/-- A reader that refuses what comes next reads nothing. -/
theorem refuseNext_yields {α : Type} (expected : String) (P : α → Prop) : Yields (refuseNext expected) P := by
  refine Yields.located (Yields.bind (Yields.trivial _) fun b? _ => ?_)
  cases b? with
  | none => exact Yields.failAtNext _ _
  | some b =>
    dsimp only
    split
    · exact Yields.bind (Yields.trivial _) fun _ _ => Yields.bind (Yields.trivial _) fun _ _ => Yields.refuse _ _
    split
    · exact Yields.bind (Yields.trivial _) fun _ _ => Yields.bind (Yields.trivial _) fun _ _ => Yields.refuse _ _
    split
    · exact Yields.bind (Yields.trivial _) fun _ _ => Yields.bind (Yields.trivial _) fun _ _ => Yields.refuse _ _
    split
    · exact Yields.bind (Yields.trivial _) fun _ _ => Yields.bind (Yields.trivial _) fun _ _ => Yields.refuse _ _
    split
    · exact Yields.bind (Yields.trivial _) fun _ _ => Yields.refuse _ _
    split
    · exact Yields.bind (Yields.trivial _) fun _ _ => Yields.bind (Yields.trivial _) fun _ _ => Yields.refuse _ _
    split
    · exact Yields.refuse _ _
    split
    · exact Yields.refuse _ _
    · exact Yields.failAtNext _ _

theorem accept_yields {α : Type} {result : Except Reason α} {P : α → Prop} (h : ∀ a, result = .ok a → P a) :
    Yields (accept result) P := by
  cases result with
  | ok a => exact Yields.pure (h a rfl)
  | error reason => exact Yields.refuse _ _

/-- A struct without defaults is read as an object of its fields, each with a value that its reader reads. -/
theorem readRecord_yields (title : String) {fields : List FieldReader} (hbare : Bare fields)
    (hfields : ∀ field ∈ fields, Yields field.2.2 (Q field.1)) (depth : Nat) :
    Yields (readRecord title fields depth) fun v => ∃ members, v = object members ∧ Fill Q (fields.map (·.1)) members := by
  have hslots : fields.map (fun field => (field.1, (none : Option Json))) =
      (fields.map (·.1)).map fun name => (name, none) := by
    rw [List.map_map]
    rfl
  have hdefaults : fields.map (fun field => (field.1, field.2.1)) = (fields.map (·.1)).map fun name => (name, none) := by
    rw [List.map_map]
    exact List.map_congr_left fun field hf => Prod.ext rfl (hbare field hf)
  refine Yields.located (Yields.bind (Yields.trivial _) fun b? _ => ?_)
  split
  · split
    · exact Yields.failAtNext _ _
    · refine Yields.bind (Yields.trivial _) fun _ _ => ?_
      exact Yields.map (Yields.enclosed _ (recordItems_yields title _ hbare hfields 0)) fun members h => ⟨members, rfl, h⟩
  · split
    · exact Yields.failAtNext _ _
    · refine Yields.bind (Yields.trivial _) fun _ _ => Yields.bind (Yields.trivial _) fun fuel _ => ?_
      refine Yields.enclosed _ ?_
      rw [hslots, hdefaults]
      refine Yields.bind (recordMembers_yields hfields _ true (Hold.empty _)) fun slots h => ?_
      exact Yields.map (accept_yields fun members hfinish => h.finish hfinish) fun members h => ⟨members, rfl, h⟩
  · exact refuseNext_yields _ _

/-! ## What structs are checked -/

theorem checkItems_fill {missing : Nat → Reason} {surplus : Nat → Option Reason} {checks : List (String × Check)}
    {items : List Json} (hchecks : ∀ check ∈ checks, ∀ v ∈ items, ∀ w, check.2 v = .ok w → Q check.1 w)
    {read : Nat} {values : List Json}
    (h : checkItems missing surplus read (checks.map fun check => (none, check.2)) items = .ok values) :
    List.Forall₂ Q (checks.map (·.1)) values := by
  induction checks generalizing items read values with
  | nil =>
    have hnil : values = [] := by
      cases items with
      | nil =>
        cases h
        rfl
      | cons v items =>
        rw [List.map_nil, checkItems.eq_2 _ _ _ _ (List.cons_ne_nil v items)] at h
        split at h
        · cases h
        · cases h
          rfl
    exact hnil ▸ List.Forall₂.nil
  | cons check checks ih =>
    cases items with
    | nil => cases h
    | cons v items =>
      rw [List.map_cons, checkItems] at h
      obtain ⟨w, hw, h⟩ := bind_eq_ok h
      obtain ⟨later, hlater, rfl⟩ := map_eq_ok h
      refine List.Forall₂.cons (hchecks check List.mem_cons_self v List.mem_cons_self w hw) (ih ?_ hlater)
      exact fun c hc v hv => hchecks c (List.mem_cons_of_mem _ hc) v (List.mem_cons_of_mem _ hv)

theorem checkMembers_hold {checks : List (String × Check)} {members : List (String × Json)}
    (hchecks : ∀ check ∈ checks, ∀ m ∈ members, ∀ w, check.2 m.2 = .ok w → Q check.1 w)
    {names : List String} {slots out : Slots} (hslots : Hold Q names slots)
    (h : checkMembers checks slots members = .ok out) : Hold Q names out := by
  induction members generalizing slots with
  | nil =>
    cases h
    exact hslots
  | cons m members ih =>
    obtain ⟨name, value⟩ := m
    have hlater := fun c hc m hm => hchecks c hc m (List.mem_cons_of_mem _ hm)
    rw [checkMembers] at h
    cases hfind : checks.find? (fun check => check.1 == name) with
    | none =>
      rw [hfind] at h
      exact ih hlater hslots h
    | some check =>
      obtain ⟨own, check⟩ := check
      obtain rfl : own = name := by simpa using List.find?_some hfind
      simp only [hfind] at h
      split at h
      · cases h
      obtain ⟨w, hw, h⟩ := bind_eq_ok h
      exact ih hlater (hslots.set (hchecks _ (List.mem_of_find?_eq_some hfind) _ List.mem_cons_self w hw)) h

/-- A struct without defaults is checked to be an object of its fields, each with a value that its check accepts of an item or
a member. -/
theorem checkRecord_fill (source : Source) (title : String) {checks : List (String × Check)} {v w : Json} {d : Nat}
    (hdepth : v.depth ≤ d + 1) (hrange : v.AllNumbers Number.InRange)
    (hchecks : ∀ check ∈ checks, ∀ part, part.depth ≤ d → part.AllNumbers Number.InRange →
      ∀ u, check.2 part = .ok u → Q check.1 u)
    (h : checkRecord source title (checks.map fun check => (check.1, none, check.2)) v = .ok w) :
    ∃ members, w = object members ∧ Fill Q (checks.map (·.1)) members := by
  cases v with
  | null => cases h
  | boolean b => cases h
  | number n => cases h
  | text s => cases h
  | list items =>
    rw [depth_list_le_iff] at hdepth
    rw [allNumbers_list_iff] at hrange
    simp only [checkRecord, List.map_map, Function.comp_def] at h
    obtain ⟨values, hvalues, h⟩ := bind_eq_ok h
    cases h
    refine ⟨_, rfl, Fill.zip (checkItems_fill ?_ hvalues)⟩
    exact fun check hc v hv w hw => hchecks check hc v (hdepth v hv) (hrange v hv) w hw
  | object members =>
    rw [depth_object_le_iff] at hdepth
    rw [allNumbers_object_iff] at hrange
    simp only [checkRecord, List.map_map, Function.comp_def, Prod.mk.eta, List.map_id'] at h
    obtain ⟨slots, hslots, h⟩ := bind_eq_ok h
    obtain ⟨filled, hfilled, h⟩ := bind_eq_ok h
    cases h
    refine ⟨filled, rfl, ?_⟩
    have hempty : Hold Q (checks.map (·.1)) (checks.map fun check => (check.1, none)) := by
      have := Hold.empty (Q := Q) (checks.map (·.1))
      rwa [List.map_map] at this
    refine (checkMembers_hold ?_ hempty hslots).finish ?_
    · exact fun check hc m hm w hw => hchecks check hc m.2 (hdepth m hm) (hrange m hm) w hw
    · rw [List.map_map]
      exact hfilled

end QueueBroker.Json.Shape

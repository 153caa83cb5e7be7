import QueueBroker.Proofs.Json.Records

/-!
# Checking structs

A document that passes as a struct gives each field at most once, by name or by place, and each value is what the field's check makes of
what is given, or its default. `TakesAll` says this of all fields in order.
-/

namespace QueueBroker

/-- What a list of members gives for a name: nothing, or the one value that stands there. -/
inductive Given {α : Type} (members : List (String × α)) (name : String) : Option α → Prop where
  | absent : (∀ member ∈ members, member.1 ≠ name) → Given members name none
  | once {before after : List (String × α)} {value : α} : members = before ++ (name, value) :: after →
      (∀ member ∈ before ++ after, member.1 ≠ name) → Given members name (some value)

namespace Given

variable {α β : Type} {members : List (String × α)} {name other : String} {value : α} {given : Option α}

theorem cons_of_ne (h : Given members name given) (hne : other ≠ name) (value : α) : Given ((other, value) :: members) name given := by
  cases h with
  | absent habsent =>
    refine .absent fun member hmem => ?_
    rcases List.mem_cons.1 hmem with rfl | hmem
    · exact hne
    · exact habsent member hmem
  | @once before after found heq hothers =>
    subst heq
    have heq : (other, value) :: (before ++ (name, found) :: after) = ((other, value) :: before) ++ (name, found) :: after := rfl
    refine .once heq fun member hmem => ?_
    rcases List.mem_cons.1 hmem with rfl | hmem
    · exact hne
    · exact hothers member hmem

theorem cons_self (h : ∀ member ∈ members, member.1 ≠ name) (value : α) : Given ((name, value) :: members) name (some value) :=
  .once (List.nil_append _).symm h

/-- Who looks it up finds it. -/
theorem lookup_eq (h : Given members name given) : members.lookup name = given := by
  cases h with
  | absent habsent =>
    refine List.lookup_eq_none_iff.2 fun member hmem => ?_
    simpa using Ne.symm (habsent member hmem)
  | once heq hothers =>
    refine List.lookup_eq_some_iff.2 ⟨_, _, heq, fun member hmem => ?_⟩
    simpa using Ne.symm (hothers member (List.mem_append_left _ hmem))

end Given

namespace Json.Shape

variable {slots slots' : Slots} {checks : List (String × Check)} {members : List (String × Json)} {name other : String} {check : Check}
  {value : Json}

/-! ## Fields that are noted -/

/-- What is noted of a field. -/
def slotOf (slots : Slots) (name : String) : Option Json :=
  slots.findSome? fun slot => if slot.1 == name then slot.2 else none

theorem slotOf_cons (key : String) (value : Option Json) (slots : Slots) (name : String) :
    slotOf ((key, value) :: slots) name = if key = name then value <|> slotOf slots name else slotOf slots name := by
  unfold slotOf
  by_cases hkey : key = name
  · cases value <;> simp [hkey]
  · simp [hkey]

theorem set_cons (key : String) (old : Option Json) (slots : Slots) (name : String) (value : Json) :
    set ((key, old) :: slots) name value = (key, if key = name then some value else old) :: set slots name value := by
  unfold set
  by_cases hkey : key = name <;> simp [hkey]

theorem isSet_eq (slots : Slots) (name : String) : isSet slots name = (slotOf slots name).isSome := by
  induction slots with
  | nil => rfl
  | cons slot slots ih =>
    rcases slot with ⟨key, value⟩
    unfold isSet at *
    rw [List.any_cons, ih, slotOf_cons]
    by_cases hkey : key = name
    · cases value <;> simp [hkey]
    · simp [hkey]

theorem slotOf_set_of_ne (hne : other ≠ name) (slots : Slots) (value : Json) :
    slotOf (set slots other value) name = slotOf slots name := by
  induction slots with
  | nil => rfl
  | cons slot slots ih =>
    rcases slot with ⟨key, old⟩
    rw [set_cons, slotOf_cons, slotOf_cons, ih]
    by_cases hkey : key = name
    · simp [hkey, Ne.symm hne]
    · simp [hkey]

theorem slotOf_set_self (h : name ∈ slots.map (·.1)) (value : Json) : slotOf (set slots name value) name = some value := by
  induction slots with
  | nil => simp at h
  | cons slot slots ih =>
    rcases slot with ⟨key, old⟩
    rw [set_cons, slotOf_cons]
    by_cases hkey : key = name
    · simp [hkey]
    · have hmem : name ∈ slots.map (·.1) := by simpa [Ne.symm hkey] using h
      simp [hkey, ih hmem]

theorem map_fst_set (slots : Slots) (name : String) (value : Json) : (set slots name value).map (·.1) = slots.map (·.1) := by
  unfold set
  rw [List.map_map]
  refine List.map_congr_left fun slot _ => ?_
  dsimp only [Function.comp]
  split <;> rfl

/-- Slots with different names are what is noted of each. -/
theorem eq_map_slotOf (h : (slots.map (·.1)).Nodup) : slots = (slots.map (·.1)).map fun name => (name, slotOf slots name) := by
  induction slots with
  | nil => rfl
  | cons slot slots ih =>
    rcases slot with ⟨key, value⟩
    obtain ⟨hkey, hnodup⟩ := List.nodup_cons.1 h
    have hself : slotOf slots key = none := by
      rw [slotOf, List.findSome?_eq_none_iff]
      intro slot hmem
      have hne : slot.1 ≠ key := fun heq => hkey (List.mem_map.2 ⟨slot, hmem, heq⟩)
      simp [hne]
    have hothers : (slots.map (·.1)).map (fun name => (name, slotOf ((key, value) :: slots) name)) = slots := by
      conv_rhs => rw [ih hnodup]
      refine List.map_congr_left fun name hmem => ?_
      have hne : key ≠ name := by
        rintro rfl
        exact hkey hmem
      rw [slotOf_cons, if_neg hne]
    rw [List.map_cons, List.map_cons, hothers, slotOf_cons, if_pos rfl, hself]
    cases value <;> rfl

/-! ## Members of an object -/

theorem map_fst_checkMembers (h : checkMembers checks slots members = .ok slots') : slots'.map (·.1) = slots.map (·.1) := by
  induction members generalizing slots with
  | nil =>
    obtain rfl := Except.ok.inj h
    rfl
  | cons member members ih =>
    rcases member with ⟨key, v⟩
    rw [checkMembers] at h
    split at h
    · exact ih h
    · split at h
      · cases h
      · obtain ⟨value, -, h⟩ := bind_eq_ok h
        exact (ih h).trans (map_fst_set slots key value)

/-- What becomes of a field when members are checked: what was noted of it before, if anything, and what is noted then. A member must not
have the name of a field that was noted. -/
inductive Outcome (check : Check) (members : List (String × Json)) (name : String) : Option Json → Option Json → Prop where
  | kept {value : Json} : (∀ member ∈ members, member.1 ≠ name) → Outcome check members name (some value) (some value)
  | absent : Given members name none → Outcome check members name none none
  | taken {v value : Json} : Given members name (some v) → check v = .ok value → Outcome check members name none (some value)

theorem Outcome.cons_of_ne {old new : Option Json} (h : Outcome check members name old new) (hne : other ≠ name) (v : Json) :
    Outcome check ((other, v) :: members) name old new := by
  cases h with
  | kept hothers =>
    refine .kept fun member hmem => ?_
    rcases List.mem_cons.1 hmem with rfl | hmem
    · exact hne
    · exact hothers member hmem
  | absent hgiven => exact .absent (hgiven.cons_of_ne hne v)
  | taken hgiven hcheck => exact .taken (hgiven.cons_of_ne hne v) hcheck

/-- A field that was noted stays so, and no member has its name. -/
theorem Outcome.of_some {noted : Option Json} (h : Outcome check members name (some value) noted) :
    noted = some value ∧ ∀ member ∈ members, member.1 ≠ name := by
  cases h with
  | kept hothers => exact ⟨rfl, hothers⟩

theorem outcome_of_checkMembers (h : checkMembers checks slots members = .ok slots')
    (hfind : checks.find? (fun check => check.1 == name) = some (name, check)) (hslot : name ∈ slots.map (·.1)) :
    Outcome check members name (slotOf slots name) (slotOf slots' name) := by
  induction members generalizing slots with
  | nil =>
    obtain rfl := Except.ok.inj h
    cases slotOf slots name with
    | none => exact .absent (.absent nofun)
    | some value => exact .kept nofun
  | cons member members ih =>
    rcases member with ⟨key, v⟩
    rw [checkMembers] at h
    by_cases hkey : key = name
    · subst hkey
      rw [hfind] at h
      dsimp only at h
      rw [isSet_eq] at h
      cases hnoted : slotOf slots key with
      | some value =>
        rw [hnoted] at h
        cases h
      | none =>
        rw [hnoted] at h
        obtain ⟨value, hcheck, h⟩ := bind_eq_ok h
        have houtcome := ih h (by rwa [map_fst_set])
        rw [slotOf_set_self hslot] at houtcome
        obtain ⟨hlast, hothers⟩ := houtcome.of_some
        rw [hlast]
        exact .taken (.cons_self hothers v) hcheck
    · split at h
      · exact (ih h hslot).cons_of_ne hkey v
      · split at h
        · cases h
        · obtain ⟨value, -, h⟩ := bind_eq_ok h
          have houtcome := ih h (by rwa [map_fst_set])
          rw [slotOf_set_of_ne hkey] at houtcome
          exact houtcome.cons_of_ne hkey v

/-! ## Fields and what is given for them -/

/-- What a field takes: its default if nothing is given, and else what its check makes of that. -/
inductive Takes (default : Option Json) (check : Check) : Option Json → Json → Prop where
  | default {value : Json} : default = some value → Takes default check none value
  | given {v value : Json} : check v = .ok value → Takes default check (some v) value

/-- What fields take in order. -/
inductive TakesAll : List (Option Json × Check) → List (Option Json) → List Json → Prop where
  | nil : TakesAll [] [] []
  | cons {default : Option Json} {check : Check} {fields : List (Option Json × Check)} {v : Option Json} {given : List (Option Json)}
      {value : Json} {values : List Json} : Takes default check v value → TakesAll fields given values →
      TakesAll ((default, check) :: fields) (v :: given) (value :: values)

section Inversion

variable {α : Type} {f : α → Option Json} {given : List α} {fields : List (Option Json × Check)} {values : List Json}
  {default : Option Json}

theorem TakesAll.exists_cons (h : TakesAll ((default, check) :: fields) (given.map f) values) :
    ∃ v given' value values', given = v :: given' ∧ values = value :: values' ∧ Takes default check (f v) value ∧
      TakesAll fields (given'.map f) values' := by
  rcases given with _ | ⟨v, given⟩
  · cases h
  · rw [List.map_cons] at h
    cases h with
    | cons hfirst hrest => exact ⟨v, given, _, _, rfl, rfl, hfirst, hrest⟩

theorem TakesAll.eq_nil (h : TakesAll [] (given.map f) values) : given = [] ∧ values = [] := by
  rcases given with _ | ⟨v, given⟩
  · cases h
    exact ⟨rfl, rfl⟩
  · cases h

end Inversion

/-- Items are given to fields in order. -/
theorem takesAll_of_checkItems {missing : Nat → Reason} {surplus : Nat → Option Reason} {read : Nat}
    {fields : List (Option Json × Check)} {items values : List Json} (h : checkItems missing surplus read fields items = .ok values) :
    TakesAll fields ((List.range fields.length).map fun place => items[place]?) values := by
  induction fields generalizing read items values with
  | nil =>
    cases items with
    | nil =>
      obtain rfl := Except.ok.inj h
      exact .nil
    | cons item items =>
      unfold checkItems at h
      split at h
      · cases h
      · obtain rfl := Except.ok.inj h
        exact .nil
  | cons field fields ih =>
    rcases field with ⟨default, check⟩
    rw [List.length_cons, List.range_succ_eq_map, List.map_cons, List.map_map]
    cases items with
    | nil =>
      cases default with
      | none => cases h
      | some value =>
        rw [checkItems] at h
        obtain ⟨rest, hrest, rfl⟩ := map_eq_ok h
        exact .cons (.default rfl) (ih hrest)
    | cons item items =>
      rw [checkItems] at h
      obtain ⟨value, hcheck, h⟩ := bind_eq_ok h
      obtain ⟨rest, hrest, rfl⟩ := map_eq_ok h
      exact .cons (.given hcheck) (ih hrest)

/-- Fields that were noted are finished, the others take their defaults. -/
theorem takesAll_of_finish {fields : List (String × Option Json × Check)} (noted given : String → Option Json)
    {done : List (String × Json)}
    (h : finish (fields.map fun field => (field.1, field.2.1)) (fields.map fun field => (field.1, noted field.1)) = .ok done)
    (hfields : ∀ field ∈ fields, (given field.1 = none ∧ noted field.1 = none) ∨
      ∃ v value, given field.1 = some v ∧ field.2.2 v = .ok value ∧ noted field.1 = some value) :
    ∃ values, done = (fields.map (·.1)).zip values ∧ TakesAll (fields.map (·.2)) (fields.map fun field => given field.1) values := by
  induction fields generalizing done with
  | nil =>
    obtain rfl := Except.ok.inj h
    exact ⟨[], rfl, .nil⟩
  | cons field fields ih =>
    rcases field with ⟨name, default, check⟩
    rw [List.map_cons, List.map_cons, finish] at h
    cases hvalue : (noted name <|> default) with
    | none =>
      rw [hvalue] at h
      cases h
    | some value =>
      rw [hvalue] at h
      dsimp only at h
      obtain ⟨rest, hrest, rfl⟩ := map_eq_ok h
      obtain ⟨values, rfl, htakes⟩ := ih hrest fun field hmem => hfields field (List.mem_cons_of_mem _ hmem)
      refine ⟨value :: values, rfl, ?_⟩
      rcases hfields _ List.mem_cons_self with ⟨hgiven, hnoted⟩ | ⟨v, value', hgiven, hcheck, hnoted⟩
      · rw [hnoted] at hvalue
        rw [List.map_cons, List.map_cons, hgiven]
        exact .cons (.default hvalue) htakes
      · rw [hnoted] at hvalue
        obtain rfl := Option.some.inj hvalue
        rw [List.map_cons, List.map_cons, hgiven]
        exact .cons (.given hcheck) htakes

/-- The check of a field is found by its name. -/
theorem find?_checks {fields : List (String × Option Json × Check)} (hnodup : (fields.map (·.1)).Nodup)
    {field : String × Option Json × Check} (hmem : field ∈ fields) :
    (fields.map fun field => (field.1, field.2.2)).find? (fun check => check.1 == field.1) = some (field.1, field.2.2) := by
  induction fields with
  | nil => cases hmem
  | cons first fields ih =>
    obtain ⟨hfirst, hrest⟩ := List.nodup_cons.1 hnodup
    rw [List.map_cons]
    rcases List.mem_cons.1 hmem with rfl | hmem
    · exact List.find?_cons_of_pos (by simp)
    · have hne : first.1 ≠ field.1 := fun heq => hfirst (List.mem_map.2 ⟨field, hmem, heq.symm⟩)
      rw [List.find?_cons_of_neg (by simpa using hne)]
      exact ih hrest hmem

/-- What becomes of the fields of a struct when the members of an object are checked. -/
theorem outcome_of_fields {fields : List (String × Option Json × Check)} (hnodup : (fields.map (·.1)).Nodup)
    (hslots : checkMembers (fields.map fun field => (field.1, field.2.2)) (fields.map fun field => (field.1, none)) members = .ok slots)
    {field : String × Option Json × Check} (hmem : field ∈ fields) :
    Outcome field.2.2 members field.1 none (slotOf slots field.1) := by
  have hempty : slotOf (fields.map fun field => (field.1, (none : Option Json))) field.1 = none := by
    rw [slotOf, List.findSome?_eq_none_iff]
    intro slot hslot
    obtain ⟨other, -, rfl⟩ := List.mem_map.1 hslot
    simp
  have houtcome := outcome_of_checkMembers hslots (find?_checks hnodup hmem) (by rw [List.map_map]; exact List.mem_map_of_mem hmem)
  rwa [hempty] at houtcome

/-- The slots after that are what is noted of each field. -/
theorem eq_map_of_checkMembers {fields : List (String × Option Json × Check)} (hnodup : (fields.map (·.1)).Nodup)
    (hslots : checkMembers checks (fields.map fun field => (field.1, none)) members = .ok slots) :
    slots = fields.map fun field => (field.1, slotOf slots field.1) := by
  have hnames : slots.map (·.1) = fields.map (·.1) := by
    rw [map_fst_checkMembers hslots, List.map_map]
    rfl
  have hnoted := eq_map_slotOf (hnames ▸ hnodup)
  rw [hnames, List.map_map] at hnoted
  exact hnoted

/-- A field takes what its one member gives. -/
theorem Outcome.lookup_eq {noted : Option Json} (h : Outcome check members name none noted) :
    Given members name (members.lookup name) ∧ ((members.lookup name = none ∧ noted = none) ∨
      ∃ v value, members.lookup name = some v ∧ check v = .ok value ∧ noted = some value) := by
  cases h with
  | absent hgiven =>
    rw [hgiven.lookup_eq]
    exact ⟨hgiven, Or.inl ⟨rfl, rfl⟩⟩
  | taken hgiven hcheck =>
    rw [hgiven.lookup_eq]
    exact ⟨hgiven, Or.inr ⟨_, _, rfl, hcheck, rfl⟩⟩

/-- A struct that passes has been given each of its fields at most once, and takes what is given. -/
theorem takesAll_of_checkRecord {source : Source} {title : String} {fields : List (String × Option Json × Check)}
    (hnodup : (fields.map (·.1)).Nodup) {w : Json} (h : checkRecord source title fields (.object members) = .ok w) :
    (∀ field ∈ fields, Given members field.1 (members.lookup field.1)) ∧
      ∃ values, w = .object ((fields.map (·.1)).zip values) ∧
        TakesAll (fields.map (·.2)) (fields.map fun field => members.lookup field.1) values := by
  rw [checkRecord] at h
  obtain ⟨slots, hslots, h⟩ := bind_eq_ok h
  obtain ⟨done, hdone, h⟩ := bind_eq_ok h
  obtain rfl := Except.ok.inj h
  rw [eq_map_of_checkMembers hnodup hslots] at hdone
  obtain ⟨values, rfl, htakes⟩ := takesAll_of_finish (slotOf slots) (fun name => members.lookup name) hdone fun field hmem =>
    (outcome_of_fields hnodup hslots hmem).lookup_eq.2
  exact ⟨fun field hmem => (outcome_of_fields hnodup hslots hmem).lookup_eq.1, values, rfl, htakes⟩

end Json.Shape

end QueueBroker

import Mathlib.Data.String.Basic
import QueueBroker.Json.Basic

/-!
# Documents as trees

How deep a document nests, what numbers it holds, and its canonical form. All three are taken from the items of a list and the
values of an object together, so facts about them are proved by one induction on documents.
-/

namespace QueueBroker.Json

/-! ## Induction -/

/-- Induction on documents, with the hypothesis for every item of a list and every value of an object. -/
@[elab_as_elim]
theorem induction {P : Json → Prop} (v : Json) (null : P null) (boolean : ∀ b, P (boolean b)) (number : ∀ n, P (number n))
    (text : ∀ s, P (text s)) (list : ∀ items, (∀ v ∈ items, P v) → P (list items))
    (object : ∀ members : List (String × Json), (∀ m ∈ members, P m.2) → P (object members)) : P v :=
  match v with
  | .null => null
  | .boolean b => boolean b
  | .number n => number n
  | .text s => text s
  | .list items => list items fun v _ => induction v null boolean number text list object
  | .object members => object members fun m _ => induction m.2 null boolean number text list object
termination_by sizeOf v
decreasing_by
  · have := List.sizeOf_lt_of_mem ‹v ∈ items›
    simp only [Json.list.sizeOf_spec]
    omega
  · have := List.sizeOf_lt_of_mem ‹m ∈ members›
    cases m
    simp only [Json.object.sizeOf_spec, Prod.mk.sizeOf_spec] at this ⊢
    omega

/-! ## Nesting -/

mutual

/-- How many lists and objects stand inside one another at most. -/
def depth : Json → Nat
  | list items => depthOfItems items + 1
  | object members => depthOfMembers members + 1
  | _ => 0

/-- The nesting of the deepest item. -/
def depthOfItems : List Json → Nat
  | [] => 0
  | item :: items => max item.depth (depthOfItems items)

/-- The nesting of the deepest value. -/
def depthOfMembers : List (String × Json) → Nat
  | [] => 0
  | (_, value) :: members => max value.depth (depthOfMembers members)

end

theorem depthOfItems_le_iff {items : List Json} {d : Nat} : depthOfItems items ≤ d ↔ ∀ v ∈ items, v.depth ≤ d := by
  induction items with
  | nil => simp [depthOfItems]
  | cons v items ih => rw [depthOfItems, max_le_iff, ih, List.forall_mem_cons]

theorem depthOfMembers_le_iff {members : List (String × Json)} {d : Nat} :
    depthOfMembers members ≤ d ↔ ∀ m ∈ members, m.2.depth ≤ d := by
  induction members with
  | nil => simp [depthOfMembers]
  | cons m members ih => rw [depthOfMembers, max_le_iff, ih, List.forall_mem_cons]

theorem depth_list_le_iff {items : List Json} {d : Nat} : (list items).depth ≤ d + 1 ↔ ∀ v ∈ items, v.depth ≤ d := by
  rw [depth, Nat.add_le_add_iff_right, depthOfItems_le_iff]

theorem depth_object_le_iff {members : List (String × Json)} {d : Nat} :
    (object members).depth ≤ d + 1 ↔ ∀ m ∈ members, m.2.depth ≤ d := by
  rw [depth, Nat.add_le_add_iff_right, depthOfMembers_le_iff]

theorem lt_depth_list_iff {items : List Json} {d : Nat} : d + 1 < (list items).depth ↔ ∃ v ∈ items, d < v.depth := by
  rw [← not_le, depth_list_le_iff]
  simp only [not_forall, not_le, exists_prop]

theorem lt_depth_object_iff {members : List (String × Json)} {d : Nat} :
    d + 1 < (object members).depth ↔ ∃ m ∈ members, d < m.2.depth := by
  rw [← not_le, depth_object_le_iff]
  simp only [not_forall, not_le, exists_prop]

/-! ## Numbers -/

mutual

/-- Every number of a document satisfies `P`. -/
def AllNumbers (P : Number → Prop) : Json → Prop
  | number n => P n
  | list items => AllNumbersOfItems P items
  | object members => AllNumbersOfMembers P members
  | _ => True

/-- Every number of some items satisfies `P`. -/
def AllNumbersOfItems (P : Number → Prop) : List Json → Prop
  | [] => True
  | item :: items => item.AllNumbers P ∧ AllNumbersOfItems P items

/-- Every number of some members satisfies `P`. -/
def AllNumbersOfMembers (P : Number → Prop) : List (String × Json) → Prop
  | [] => True
  | (_, value) :: members => value.AllNumbers P ∧ AllNumbersOfMembers P members

end

variable {P Q : Number → Prop}

theorem allNumbers_list_iff {items : List Json} : (list items).AllNumbers P ↔ ∀ v ∈ items, v.AllNumbers P := by
  rw [AllNumbers]
  induction items with
  | nil => simp [AllNumbersOfItems]
  | cons v items ih => rw [AllNumbersOfItems, ih, List.forall_mem_cons]

theorem allNumbers_object_iff {members : List (String × Json)} :
    (object members).AllNumbers P ↔ ∀ m ∈ members, m.2.AllNumbers P := by
  rw [AllNumbers]
  induction members with
  | nil => simp [AllNumbersOfMembers]
  | cons m members ih => rw [AllNumbersOfMembers, ih, List.forall_mem_cons]

theorem AllNumbers.and {v : Json} (h1 : v.AllNumbers P) (h2 : v.AllNumbers Q) : v.AllNumbers fun n => P n ∧ Q n := by
  induction v using Json.induction with
  | null => exact True.intro
  | boolean b => exact True.intro
  | text s => exact True.intro
  | number n => exact ⟨h1, h2⟩
  | list items ih =>
    rw [allNumbers_list_iff] at h1 h2 ⊢
    exact fun v hv => ih v hv (h1 v hv) (h2 v hv)
  | object members ih =>
    rw [allNumbers_object_iff] at h1 h2 ⊢
    exact fun m hm => ih m hm (h1 m hm) (h2 m hm)

/-! ## Members sorted by name -/

/-- Members sorted by name, one of each name. -/
def Ordered (members : List (String × Json)) : Prop :=
  members.Pairwise fun a b => a.1 < b.1

theorem mem_insert {name : String} {value : Json} {members : List (String × Json)} {m : String × Json}
    (hm : m ∈ insert name value members) : m = (name, value) ∨ m ∈ members := by
  induction members with
  | nil => exact Or.inl (List.mem_singleton.1 hm)
  | cons o members ih =>
    obtain ⟨other, old⟩ := o
    rw [insert] at hm
    split at hm
    · exact List.mem_cons.1 hm
    split at hm
    · rcases List.mem_cons.1 hm with hm | hm
      · exact Or.inl hm
      · exact Or.inr (List.mem_cons_of_mem _ hm)
    · rcases List.mem_cons.1 hm with hm | hm
      · exact Or.inr (hm ▸ List.mem_cons_self)
      · rcases ih hm with hm | hm
        · exact Or.inl hm
        · exact Or.inr (List.mem_cons_of_mem _ hm)

theorem Ordered.insert {members : List (String × Json)} (h : Ordered members) (name : String) (value : Json) :
    Ordered (insert name value members) := by
  induction members with
  | nil => exact List.pairwise_singleton _ _
  | cons o members ih =>
    obtain ⟨other, old⟩ := o
    obtain ⟨hhead, htail⟩ := List.pairwise_cons.1 h
    rw [Json.insert]
    split
    next hlt =>
      refine List.pairwise_cons.2 ⟨?_, h⟩
      intro m hm
      rcases List.mem_cons.1 hm with rfl | hm
      · exact hlt
      · exact lt_trans hlt (hhead m hm)
    next hlt =>
      split
      next heq =>
        subst heq
        exact List.pairwise_cons.2 ⟨hhead, htail⟩
      next hne =>
        refine List.pairwise_cons.2 ⟨?_, ih htail⟩
        intro m hm
        rcases mem_insert hm with rfl | hm
        · exact lt_of_le_of_ne (not_lt.1 hlt) (Ne.symm hne)
        · exact hhead m hm

/-- A member whose name is after all others comes last. -/
theorem insert_eq_append {members : List (String × Json)} {name : String} {value : Json} (h : ∀ m ∈ members, m.1 < name) :
    insert name value members = members ++ [(name, value)] := by
  induction members with
  | nil => rfl
  | cons o members ih =>
    obtain ⟨other, old⟩ := o
    have hlt : other < name := h (other, old) List.mem_cons_self
    rw [insert, if_neg (lt_asymm hlt), if_neg (Ne.symm (ne_of_lt hlt)), ih fun m hm => h m (List.mem_cons_of_mem _ hm)]
    rfl

theorem mem_foldl_insert {members sorted : List (String × Json)} {m : String × Json}
    (hm : m ∈ members.foldl (fun sorted (name, value) => insert name value sorted) sorted) : m ∈ sorted ∨ m ∈ members := by
  induction members generalizing sorted with
  | nil => exact Or.inl hm
  | cons o members ih =>
    rcases ih hm with hm | hm
    · rcases mem_insert hm with rfl | hm
      · exact Or.inr List.mem_cons_self
      · exact Or.inl hm
    · exact Or.inr (List.mem_cons_of_mem _ hm)

/-- Sorting makes up no member. -/
theorem mem_sortMembers {members : List (String × Json)} {m : String × Json} (hm : m ∈ sortMembers members) : m ∈ members := by
  rcases mem_foldl_insert hm with hm | hm
  · exact absurd hm List.not_mem_nil
  · exact hm

theorem ordered_sortMembers (members : List (String × Json)) : Ordered (sortMembers members) := by
  have hfold : ∀ sorted, Ordered sorted →
      Ordered (members.foldl (fun sorted (name, value) => insert name value sorted) sorted) := by
    induction members with
    | nil => exact fun _ h => h
    | cons o members ih => exact fun sorted h => ih _ (h.insert o.1 o.2)
  exact hfold [] List.Pairwise.nil

/-- Members that are in order stay as they are. -/
theorem sortMembers_of_ordered {members : List (String × Json)} (h : Ordered members) : sortMembers members = members := by
  have hfold : ∀ sorted, Ordered (sorted ++ members) →
      members.foldl (fun sorted (name, value) => insert name value sorted) sorted = sorted ++ members := by
    clear h
    induction members with
    | nil => exact fun sorted _ => (List.append_nil sorted).symm
    | cons o members ih =>
      intro sorted h
      obtain ⟨name, value⟩ := o
      obtain ⟨-, -, hlast⟩ := List.pairwise_append.1 h
      have hstep : insert name value sorted = sorted ++ [(name, value)] :=
        insert_eq_append fun m hm => hlast m hm (name, value) List.mem_cons_self
      rw [List.append_cons] at h ⊢
      rw [← ih _ h, ← hstep]
      rfl
  exact hfold [] h

/-! ## Canonical form -/

theorem canonicalItems_eq_map (items : List Json) : canonicalItems items = items.map canonical := by
  induction items with
  | nil => rfl
  | cons v items ih => rw [canonicalItems, ih, List.map_cons]

theorem canonicalMembers_eq_map (members : List (String × Json)) :
    canonicalMembers members = members.map fun m => (m.1, m.2.canonical) := by
  induction members with
  | nil => rfl
  | cons m members ih => rw [canonicalMembers, ih, List.map_cons]

/-- A value in the canonical form of an object is the canonical form of one of its values. -/
theorem exists_of_mem_canonical {members : List (String × Json)} {m : String × Json}
    (hm : m ∈ sortMembers (canonicalMembers members)) : ∃ o ∈ members, m = (o.1, o.2.canonical) := by
  have hm := mem_sortMembers hm
  rw [canonicalMembers_eq_map] at hm
  obtain ⟨o, ho, rfl⟩ := List.mem_map.1 hm
  exact ⟨o, ho, rfl⟩

@[simp] theorem canonical_canonical (v : Json) : v.canonical.canonical = v.canonical := by
  induction v using Json.induction with
  | null => rfl
  | boolean b => rfl
  | number n => rfl
  | text s => rfl
  | list items ih =>
    simp only [canonical, canonicalItems_eq_map, List.map_map]
    congr 1
    exact List.map_congr_left ih
  | object members ih =>
    have hvalues : canonicalMembers (sortMembers (canonicalMembers members)) = sortMembers (canonicalMembers members) := by
      rw [canonicalMembers_eq_map]
      refine (List.map_congr_left fun m hm => ?_).trans (List.map_id _)
      obtain ⟨o, ho, rfl⟩ := exists_of_mem_canonical hm
      exact Prod.ext rfl (ih o ho)
    rw [canonical, canonical, hvalues, sortMembers_of_ordered (ordered_sortMembers _)]

/-- The canonical form nests no deeper. -/
theorem depth_canonical_le (v : Json) : v.canonical.depth ≤ v.depth := by
  induction v using Json.induction with
  | null => exact Nat.le_refl _
  | boolean b => exact Nat.le_refl _
  | number n => exact Nat.le_refl _
  | text s => exact Nat.le_refl _
  | list items ih =>
    rw [canonical, canonicalItems_eq_map, depth, depth, Nat.add_le_add_iff_right, depthOfItems_le_iff]
    intro v hv
    obtain ⟨w, hw, rfl⟩ := List.mem_map.1 hv
    exact le_trans (ih w hw) (depthOfItems_le_iff.1 (le_refl _) w hw)
  | object members ih =>
    rw [canonical, depth, depth, Nat.add_le_add_iff_right, depthOfMembers_le_iff]
    intro m hm
    obtain ⟨o, ho, rfl⟩ := exists_of_mem_canonical hm
    exact le_trans (ih o ho) (depthOfMembers_le_iff.1 (le_refl _) o ho)

/-- The canonical form has no other numbers. -/
theorem AllNumbers.canonical {v : Json} (h : v.AllNumbers P) : v.canonical.AllNumbers P := by
  induction v using Json.induction with
  | null => exact h
  | boolean b => exact h
  | number n => exact h
  | text s => exact h
  | list items ih =>
    rw [Json.canonical, canonicalItems_eq_map]
    rw [allNumbers_list_iff] at h ⊢
    intro v hv
    obtain ⟨w, hw, rfl⟩ := List.mem_map.1 hv
    exact ih w hw (h w hw)
  | object members ih =>
    rw [Json.canonical]
    rw [allNumbers_object_iff] at h ⊢
    intro m hm
    obtain ⟨o, ho, rfl⟩ := exists_of_mem_canonical hm
    exact ih o ho (h o ho)

end QueueBroker.Json

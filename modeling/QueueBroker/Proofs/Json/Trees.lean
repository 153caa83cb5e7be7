import QueueBroker.Proofs.Json.Documents
import QueueBroker.Proofs.Json.Numbers

/-!
# Reading documents

A document without real numbers is read back from its compact form by a reader that goes as deep as it nests, and is refused by
one that does not. Whatever is read nests no deeper than its reader goes and holds integers of the 64-bit ranges only.
-/

namespace QueueBroker.Json

/-- Whether every number is an integer of the 64-bit ranges. -/
def IsExact (v : Json) : Prop :=
  v.AllNumbers fun n => n.InRange ∧ n.IsInteger

theorem isExact_list_iff {items : List Json} : (list items).IsExact ↔ ∀ v ∈ items, v.IsExact :=
  allNumbers_list_iff

theorem isExact_object_iff {members : List (String × Json)} : (object members).IsExact ↔ ∀ m ∈ members, m.2.IsExact :=
  allNumbers_object_iff

namespace Reader

variable {rest i : Bytes} {b : UInt8}

/-! ## The compact form in bytes -/

/-- What stands before an item or a member: nothing before the first, a comma before any other. -/
def separator (first : Bool) : Bytes :=
  if first then [] else [code ',']

/-- The bytes of the items of a list from one on, and its end. -/
def itemsFrom : (first : Bool) → List Json → Bytes
  | _, [] => [code ']']
  | first, v :: items => separator first ++ v.bytes ++ itemsFrom false items

/-- The bytes of a member. -/
def memberBytes (name : String) (value : Json) : Bytes :=
  encoded (quote name) ++ code ':' :: value.bytes

/-- The bytes of the members of an object from one on, and its end. -/
def membersFrom : (first : Bool) → List (String × Json) → Bytes
  | _, [] => [code '\x7d']
  | first, (name, value) :: members => separator first ++ memberBytes name value ++ membersFrom false members

theorem itemsFrom_cons_append (first : Bool) (v : Json) (items : List Json) (rest : Bytes) :
    itemsFrom first (v :: items) ++ rest = separator first ++ v.bytes ++ (itemsFrom false items ++ rest) := by
  rw [itemsFrom, List.append_assoc]

theorem membersFrom_cons_append (first : Bool) (name : String) (value : Json) (members : List (String × Json)) (rest : Bytes) :
    membersFrom first ((name, value) :: members) ++ rest =
      separator first ++ memberBytes name value ++ (membersFrom false members ++ rest) := by
  rw [membersFrom, List.append_assoc]

theorem encoded_append (cs ds : List Char) : encoded (cs ++ ds) = encoded cs ++ encoded ds :=
  List.flatMap_append

theorem encoded_itemChars (items : List Json) : encoded (itemChars items) = itemsFrom true items := by
  have hcons (v : Json) (items : List Json) : encoded (itemChars (v :: items)) = v.bytes ++ itemsFrom false items := by
    induction items generalizing v with
    | nil =>
      rw [itemChars, encoded_append]
      rfl
    | cons w items ih =>
      rw [itemChars, encoded_append, encoded_cons_of_ascii (by decide), ih w, itemsFrom]
      · rfl
      · exact List.cons_ne_nil w items
  cases items with
  | nil => rfl
  | cons v items => exact hcons v items

theorem encoded_memberChars (members : List (String × Json)) : encoded (memberChars members) = membersFrom true members := by
  have hcons (m : String × Json) (members : List (String × Json)) :
      encoded (memberChars (m :: members)) = memberBytes m.1 m.2 ++ membersFrom false members := by
    induction members generalizing m with
    | nil =>
      rw [memberChars, encoded_append, encoded_append, encoded_cons_of_ascii (by decide)]
      rfl
    | cons o members ih =>
      rw [memberChars, encoded_append, encoded_append, encoded_cons_of_ascii (by decide), encoded_cons_of_ascii (by decide),
        ih o, membersFrom]
      · rfl
      · exact List.cons_ne_nil o members
  cases members with
  | nil => rfl
  | cons m members => exact hcons m members

theorem bytes_list (items : List Json) : (list items).bytes = code '[' :: itemsFrom true items := by
  rw [← encoded_itemChars]
  exact encoded_cons_of_ascii (by decide) _

theorem bytes_object (members : List (String × Json)) : (object members).bytes = code '\x7b' :: membersFrom true members := by
  rw [← encoded_memberChars]
  exact encoded_cons_of_ascii (by decide) _

theorem bytes_text (s : String) : (text s).bytes = code '"' :: (encoded (s.toList.flatMap escape) ++ [code '"']) :=
  encoded_quote s

theorem memberBytes_eq (name : String) (value : Json) : memberBytes name value =
    code '"' :: (encoded (name.toList.flatMap escape) ++ code '"' :: code ':' :: value.bytes) := by
  rw [memberBytes, encoded_quote]
  simp

theorem bytes_integer (n : Int) : (number (.integer n)).bytes =
    if n < 0 then code '-' :: encoded (Nat.toDigits 10 n.natAbs) else encoded (Nat.toDigits 10 n.natAbs) := by
  change encoded (integerText n) = _
  rw [integerText]
  split
  · exact encoded_cons_of_ascii (by decide) _
  · rfl

/-! ## How documents begin -/

theorem digitByte_facts : ∀ d < 10, isBlank (digitByte d) = false ∧ digitByte d ≠ code ']' ∧ digitByte d ≠ code 'n' ∧
    digitByte d ≠ code 't' ∧ digitByte d ≠ code 'f' ∧ digitByte d ≠ code '-' := by
  decide

theorem exists_encoded_digits (n : Nat) : ∃ d < 10, ∃ i, encoded (Nat.toDigits 10 n) = digitByte d :: i := by
  obtain ⟨d, ds, hdigits, hsmall, -, -⟩ := exists_digits n
  refine ⟨d, hsmall d List.mem_cons_self, ds.map digitByte, ?_⟩
  rw [hdigits, encoded_digits hsmall, List.map_cons]

/-- A document begins with a mark of its own: neither a blank nor the end of a list. -/
theorem exists_bytes_eq_cons {v : Json} (hv : v.IsExact) : ∃ b i, v.bytes = b :: i ∧ isBlank b = false ∧ b ≠ code ']' := by
  cases v with
  | null => exact ⟨code 'n', _, rfl, by decide, by decide⟩
  | boolean b =>
    cases b with
    | true => exact ⟨code 't', _, rfl, by decide, by decide⟩
    | false => exact ⟨code 'f', _, rfl, by decide, by decide⟩
  | number n =>
    cases n with
    | real x => exact absurd hv.2 id
    | integer n =>
      rw [bytes_integer]
      split
      · exact ⟨code '-', _, rfl, by decide, by decide⟩
      · obtain ⟨d, hd, i, h⟩ := exists_encoded_digits n.natAbs
        obtain ⟨hblank, hend, -⟩ := digitByte_facts d hd
        exact ⟨digitByte d, i, h, hblank, hend⟩
  | text s => exact ⟨code '"', _, bytes_text s, by decide, by decide⟩
  | list items => exact ⟨code '[', _, bytes_list items, by decide, by decide⟩
  | object members => exact ⟨code '\x7b', _, bytes_object members, by decide, by decide⟩

/-! ## Marks between items and members -/

theorem nextItem_end (first : Bool) (i : Bytes) : Reads (nextItem first) (code ']' :: i) false (code ']' :: i) :=
  Reads.bind (Reads.peekPastBlanks (by decide) i) (Reads.pure false _)

theorem nextItem_reads (first : Bool) {v : Json} (hv : v.IsExact) (i : Bytes) :
    Reads (nextItem first) (separator first ++ v.bytes ++ i) true (v.bytes ++ i) := by
  obtain ⟨b, j, hbytes, hblank, hb⟩ := exists_bytes_eq_cons hv
  rw [hbytes]
  cases first with
  | true =>
    refine Reads.bind (Reads.peekPastBlanks hblank _) ?_
    dsimp only
    rw [if_neg hb]
    exact Reads.pure true _
  | false =>
    refine Reads.bind (Reads.peekPastBlanks (x := code ',') (by decide) _) ?_
    dsimp only
    rw [if_neg (by decide), if_neg (by decide), if_pos rfl]
    refine Reads.bind (Reads.skip _ _) (Reads.bind (Reads.peekPastBlanks hblank _) ?_)
    dsimp only
    rw [if_neg hb]
    exact Reads.pure true _

theorem endList_reads (i : Bytes) : Reads endList (code ']' :: i) () i :=
  Reads.bind (Reads.peekPastBlanks (by decide) i) (Reads.skip _ i)

theorem nextMember_reads (first : Bool) (i : Bytes) :
    Reads (nextMember first) (separator first ++ code '"' :: i) true (code '"' :: i) := by
  cases first with
  | true => exact Reads.bind (Reads.peekPastBlanks (by decide) i) (Reads.pure true _)
  | false =>
    refine Reads.bind (Reads.peekPastBlanks (x := code ',') (by decide) _) ?_
    exact Reads.bind (Reads.skip _ _) (Reads.bind (Reads.peekPastBlanks (by decide) i) (Reads.pure true _))

theorem nextName_end (first : Bool) (i : Bytes) : Reads (nextName first) (code '\x7d' :: i) none (code '\x7d' :: i) :=
  Reads.bind (Reads.bind (Reads.peekPastBlanks (by decide) i) (Reads.pure false _)) (Reads.pure none _)

/-- The name of a member is read up to its colon. -/
theorem nextName_reads (first : Bool) (name : String) (value : Json) (i : Bytes) :
    Reads (nextName first) (separator first ++ memberBytes name value ++ i) (some name) (code ':' :: (value.bytes ++ i)) := by
  rw [memberBytes_eq]
  simp only [List.cons_append, List.append_assoc]
  exact Reads.bind (nextMember_reads first _) (Reads.bind (Reads.skip _ _) (Reads.map some (string_reads name _)))

theorem colon_reads (i : Bytes) : Reads colon (code ':' :: i) () i :=
  Reads.bind (Reads.peekPastBlanks (by decide) i) (Reads.skip _ i)

theorem endObject_reads (i : Bytes) : Reads endObject (code '\x7d' :: i) () i :=
  Reads.bind (Reads.peekPastBlanks (by decide) i) (Reads.skip _ i)

/-! ## Lists -/

theorem apart_itemsFrom (items : List Json) (i : Bytes) : Apart (itemsFrom false items ++ i) := by
  cases items with
  | nil => exact Apart.cons (by decide) _
  | cons v items => exact Apart.cons (by decide) _

theorem apart_membersFrom (members : List (String × Json)) (i : Bytes) : Apart (membersFrom false members ++ i) := by
  cases members with
  | nil => exact Apart.cons (by decide) _
  | cons m members => exact Apart.cons (by decide) _

/-- A reader reads a document back wherever it stands. -/
def ReadsBack (r : Reader Json) (v : Json) : Prop :=
  ∀ rest, Apart rest → Reads r (v.bytes ++ rest) v rest

/-- A reader rejects a document wherever it stands. -/
def Rejects (r : Reader Json) (v : Json) : Prop :=
  ∀ rest, Refuses r (v.bytes ++ rest)

variable {r : Reader Json}

/-- Items that are all read back make up their list. -/
theorem items_reads {items : List Json} (hexact : ∀ v ∈ items, v.IsExact) (hitems : ∀ v ∈ items, ReadsBack r v)
    {fuel : Nat} (read : List Json) (hfuel : (itemsFrom read.isEmpty items).length ≤ fuel) (rest : Bytes) :
    Reads (Reader.items r fuel read) (itemsFrom read.isEmpty items ++ rest) (read.reverse ++ items) (code ']' :: rest) := by
  induction items generalizing fuel read with
  | nil =>
    obtain ⟨fuel, rfl⟩ : ∃ n, fuel = n + 1 := ⟨fuel - 1, by simp [itemsFrom] at hfuel; omega⟩
    rw [List.append_nil]
    exact Reads.bind (nextItem_end _ rest) (Reads.pure _ _)
  | cons v items ih =>
    have hv : v.IsExact := hexact v List.mem_cons_self
    obtain ⟨b, i, hbytes, -⟩ := exists_bytes_eq_cons hv
    simp only [itemsFrom, List.length_append, hbytes, List.length_cons] at hfuel
    obtain ⟨fuel, rfl⟩ : ∃ n, fuel = n + 1 := ⟨fuel - 1, by omega⟩
    rw [itemsFrom_cons_append]
    refine Reads.bind (nextItem_reads _ hv _) ?_
    refine Reads.bind (hitems v List.mem_cons_self _ (apart_itemsFrom items rest)) ?_
    rw [List.append_cons, ← List.reverse_cons]
    exact ih (fun w hw => hexact w (List.mem_cons_of_mem v hw)) (fun w hw => hitems w (List.mem_cons_of_mem v hw))
      (v :: read) (by simpa using by omega)

/-- Items of which one is rejected make up no list. -/
theorem items_refuses {items : List Json} (hexact : ∀ v ∈ items, v.IsExact)
    (hitems : ∀ v ∈ items, ReadsBack r v ∨ Rejects r v) (hreject : ∃ v ∈ items, Rejects r v)
    (fuel : Nat) (read : List Json) (rest : Bytes) :
    Refuses (Reader.items r fuel read) (itemsFrom read.isEmpty items ++ rest) := by
  induction items generalizing fuel read with
  | nil =>
    obtain ⟨v, hv, -⟩ := hreject
    exact absurd hv List.not_mem_nil
  | cons v items ih =>
    cases fuel with
    | zero => exact Refuses.fail _ _
    | succ fuel =>
      rw [itemsFrom_cons_append]
      refine Refuses.bind_of_reads (nextItem_reads _ (hexact v List.mem_cons_self) _) ?_
      by_cases hv : Rejects r v
      · exact Refuses.bind (hv _)
      · have hback : ReadsBack r v := (hitems v List.mem_cons_self).resolve_right hv
        refine Refuses.bind_of_reads (hback _ (apart_itemsFrom items rest)) ?_
        refine ih (fun w hw => hexact w (List.mem_cons_of_mem v hw)) (fun w hw => hitems w (List.mem_cons_of_mem v hw))
          ?_ fuel (v :: read)
        obtain ⟨w, hw, hreject⟩ := hreject
        rcases List.mem_cons.1 hw with rfl | hw
        · exact absurd hreject hv
        · exact ⟨w, hw, hreject⟩

theorem listOf_reads {items : List Json} (hexact : ∀ v ∈ items, v.IsExact) (hitems : ∀ v ∈ items, ReadsBack r v)
    (rest : Bytes) : Reads (listOf r) ((list items).bytes ++ rest) (list items) rest := by
  rw [bytes_list, List.cons_append]
  refine Reads.bind (Reads.skip _ _) (Reads.bind (Reads.remaining _) (Reads.map list ?_))
  refine Reads.enclosed (items_reads hexact hitems [] ?_ rest) (endList_reads rest)
  simp only [List.isEmpty_nil, List.length_append]
  omega

theorem listOf_refuses {items : List Json} (hexact : ∀ v ∈ items, v.IsExact)
    (hitems : ∀ v ∈ items, ReadsBack r v ∨ Rejects r v) (hreject : ∃ v ∈ items, Rejects r v) (rest : Bytes) :
    Refuses (listOf r) ((list items).bytes ++ rest) := by
  rw [bytes_list, List.cons_append]
  refine Refuses.bind_of_reads (Reads.skip _ _) (Refuses.bind_of_reads (Reads.remaining _) (Refuses.map list ?_))
  exact Refuses.enclosed _ (items_refuses hexact hitems hreject _ [] rest)

/-! ## Objects -/

/-- Members whose values are all read back make up their object. -/
theorem members_reads {members : List (String × Json)} (hmembers : ∀ m ∈ members, ReadsBack r m.2)
    {fuel : Nat} (read : List (String × Json)) (hfuel : (membersFrom read.isEmpty members).length ≤ fuel) (rest : Bytes) :
    Reads (Reader.members r fuel read) (membersFrom read.isEmpty members ++ rest) (read.reverse ++ members)
      (code '\x7d' :: rest) := by
  induction members generalizing fuel read with
  | nil =>
    obtain ⟨fuel, rfl⟩ : ∃ n, fuel = n + 1 := ⟨fuel - 1, by simp [membersFrom] at hfuel; omega⟩
    rw [List.append_nil]
    exact Reads.bind (nextName_end _ rest) (Reads.pure _ _)
  | cons m members ih =>
    obtain ⟨name, value⟩ := m
    simp only [membersFrom, List.length_append, memberBytes_eq, List.length_cons] at hfuel
    obtain ⟨fuel, rfl⟩ : ∃ n, fuel = n + 1 := ⟨fuel - 1, by omega⟩
    rw [membersFrom_cons_append]
    refine Reads.bind (nextName_reads _ name value _) ?_
    refine Reads.bind (colon_reads _) ?_
    refine Reads.bind (hmembers (name, value) List.mem_cons_self _ (apart_membersFrom members rest)) ?_
    rw [List.append_cons, ← List.reverse_cons]
    exact ih (fun m hm => hmembers m (List.mem_cons_of_mem _ hm)) ((name, value) :: read) (by simpa using by omega)

/-- Members of which one has a value that is rejected make up no object. -/
theorem members_refuses {members : List (String × Json)}
    (hmembers : ∀ m ∈ members, ReadsBack r m.2 ∨ Rejects r m.2) (hreject : ∃ m ∈ members, Rejects r m.2)
    (fuel : Nat) (read : List (String × Json)) (rest : Bytes) :
    Refuses (Reader.members r fuel read) (membersFrom read.isEmpty members ++ rest) := by
  induction members generalizing fuel read with
  | nil =>
    obtain ⟨m, hm, -⟩ := hreject
    exact absurd hm List.not_mem_nil
  | cons m members ih =>
    obtain ⟨name, value⟩ := m
    cases fuel with
    | zero => exact Refuses.fail _ _
    | succ fuel =>
      rw [membersFrom_cons_append]
      refine Refuses.bind_of_reads (nextName_reads _ name value _) ?_
      refine Refuses.bind_of_reads (colon_reads _) ?_
      by_cases hvalue : Rejects r value
      · exact Refuses.bind (hvalue _)
      · have hback : ReadsBack r value := (hmembers (name, value) List.mem_cons_self).resolve_right hvalue
        refine Refuses.bind_of_reads (hback _ (apart_membersFrom members rest)) ?_
        refine ih (fun m hm => hmembers m (List.mem_cons_of_mem _ hm)) ?_ fuel ((name, value) :: read)
        obtain ⟨m, hm, hreject⟩ := hreject
        rcases List.mem_cons.1 hm with rfl | hm
        · exact absurd hreject hvalue
        · exact ⟨m, hm, hreject⟩

theorem objectOf_reads {members : List (String × Json)} (hmembers : ∀ m ∈ members, ReadsBack r m.2) (rest : Bytes) :
    Reads (objectOf r) ((object members).bytes ++ rest) (object members) rest := by
  rw [bytes_object, List.cons_append]
  refine Reads.bind (Reads.skip _ _) (Reads.bind (Reads.remaining _) (Reads.map object ?_))
  refine Reads.enclosed (members_reads hmembers [] ?_ rest) (endObject_reads rest)
  simp only [List.isEmpty_nil, List.length_append]
  omega

theorem objectOf_refuses {members : List (String × Json)}
    (hmembers : ∀ m ∈ members, ReadsBack r m.2 ∨ Rejects r m.2) (hreject : ∃ m ∈ members, Rejects r m.2) (rest : Bytes) :
    Refuses (objectOf r) ((object members).bytes ++ rest) := by
  rw [bytes_object, List.cons_append]
  refine Refuses.bind_of_reads (Reads.skip _ _) (Refuses.bind_of_reads (Reads.remaining _) (Refuses.map object ?_))
  exact Refuses.enclosed _ (members_refuses hmembers hreject _ [] rest)

/-! ## Any document -/

variable {l o : Reader Json}

theorem document_null (rest : Bytes) : Reads (document l o) (null.bytes ++ rest) null rest :=
  Reads.bind (Reads.peekPastBlanks (x := code 'n') (by decide) _)
    (Reads.bind (Reads.skip _ _) (Reads.bind (Reads.literal ['u', 'l', 'l'] rest) (Reads.pure null rest)))

theorem document_boolean (b : Bool) (rest : Bytes) :
    Reads (document l o) ((boolean b).bytes ++ rest) (boolean b) rest := by
  cases b with
  | true =>
    exact Reads.bind (Reads.peekPastBlanks (x := code 't') (by decide) _)
      (Reads.bind (Reads.skip _ _) (Reads.bind (Reads.literal ['r', 'u', 'e'] rest) (Reads.pure _ rest)))
  | false =>
    exact Reads.bind (Reads.peekPastBlanks (x := code 'f') (by decide) _)
      (Reads.bind (Reads.skip _ _) (Reads.bind (Reads.literal ['a', 'l', 's', 'e'] rest) (Reads.pure _ rest)))

theorem document_integer {n : Int} (hn : (Number.integer n).InRange) (hrest : Apart rest) :
    Reads (document l o) ((number (.integer n)).bytes ++ rest) (number (.integer n)) rest := by
  obtain ⟨hlow, hhigh⟩ := hn
  have hmax : n.natAbs ≤ maxSignificand := by
    simp only [maxSignificand, UInt64.size] at *
    omega
  rw [bytes_integer]
  by_cases hneg : n < 0
  · have hread := numeral_reads true hmax (fun _ => by simp only [UInt64.size] at *; omega) hrest
    have hvalue : (if true = true then -(n.natAbs : Int) else n.natAbs) = n := by
      rw [if_pos rfl]
      omega
    rw [hvalue] at hread
    rw [if_pos hneg]
    refine Reads.bind (Reads.peekPastBlanks (x := code '-') (by decide) _) ?_
    exact Reads.bind (Reads.skip _ _) (Reads.map number hread)
  · have hread := numeral_reads false hmax (fun h => absurd h (by decide)) hrest
    have hvalue : (if false = true then -(n.natAbs : Int) else n.natAbs) = n := by
      rw [if_neg (by decide)]
      omega
    rw [hvalue] at hread
    rw [if_neg hneg]
    obtain ⟨d, hd, i, hdigits⟩ := exists_encoded_digits n.natAbs
    obtain ⟨hblank, -, h1, h2, h3, h4⟩ := digitByte_facts d hd
    have hdigit : (digit? (digitByte d)).isSome = true := by rw [digit?_digitByte d hd, Option.isSome_some]
    rw [hdigits, List.cons_append] at hread ⊢
    refine Reads.bind (Reads.peekPastBlanks hblank _) ?_
    dsimp only
    rw [if_neg h1, if_neg h2, if_neg h3, if_neg h4, if_pos hdigit]
    exact Reads.map number hread

theorem document_text (s : String) (rest : Bytes) : Reads (document l o) ((text s).bytes ++ rest) (text s) rest := by
  rw [bytes_text, List.cons_append, List.append_assoc]
  refine Reads.bind (Reads.peekPastBlanks (by decide) _) ?_
  exact Reads.bind (Reads.skip _ _) (Reads.map text (string_reads s rest))

theorem document_list {items : List Json} (h : Reads l ((list items).bytes ++ rest) (list items) rest) :
    Reads (document l o) ((list items).bytes ++ rest) (list items) rest := by
  rw [bytes_list] at h ⊢
  exact Reads.bind (Reads.peekPastBlanks (x := code '[') (by decide) _) h

theorem document_object {members : List (String × Json)} (h : Reads o ((object members).bytes ++ rest) (object members) rest) :
    Reads (document l o) ((object members).bytes ++ rest) (object members) rest := by
  rw [bytes_object] at h ⊢
  exact Reads.bind (Reads.peekPastBlanks (x := code '\x7b') (by decide) _) h

theorem document_refuses_list {items : List Json} (h : Refuses l ((list items).bytes ++ rest)) :
    Refuses (document l o) ((list items).bytes ++ rest) := by
  rw [bytes_list] at h ⊢
  exact Refuses.bind_of_reads (Reads.peekPastBlanks (x := code '[') (by decide) _) h

theorem document_refuses_object {members : List (String × Json)} (h : Refuses o ((object members).bytes ++ rest)) :
    Refuses (document l o) ((object members).bytes ++ rest) := by
  rw [bytes_object] at h ⊢
  exact Refuses.bind_of_reads (Reads.peekPastBlanks (x := code '\x7b') (by decide) _) h

/-- A document is read back by a reader that goes deep enough. -/
theorem tree_readsBack {v : Json} (hv : v.IsExact) {d : Nat} (hd : v.depth ≤ d) : ReadsBack (tree d) v := by
  intro rest hrest
  induction v using Json.induction generalizing d rest with
  | null => cases d <;> exact document_null rest
  | boolean b => cases d <;> exact document_boolean b rest
  | text s => cases d <;> exact document_text s rest
  | number n =>
    cases n with
    | real x => exact absurd hv.2 id
    | integer n => cases d <;> exact document_integer hv.1 hrest
  | list items ih =>
    cases d with
    | zero => exact absurd hd (Nat.not_succ_le_zero _)
    | succ d =>
      rw [depth_list_le_iff] at hd
      rw [isExact_list_iff] at hv
      exact document_list (listOf_reads hv (fun v hm => ih v hm (hv v hm) (hd v hm)) rest)
  | object members ih =>
    cases d with
    | zero => exact absurd hd (Nat.not_succ_le_zero _)
    | succ d =>
      rw [depth_object_le_iff] at hd
      rw [isExact_object_iff] at hv
      exact document_object (objectOf_reads (fun m hm => ih m hm (hv m hm) (hd m hm)) rest)

/-- A document that nests deeper than a reader goes is rejected by it. -/
theorem tree_rejects {v : Json} (hv : v.IsExact) {d : Nat} (hd : d < v.depth) : Rejects (tree d) v := by
  intro rest
  induction v using Json.induction generalizing d rest with
  | null => exact absurd hd (Nat.not_lt_zero d)
  | boolean b => exact absurd hd (Nat.not_lt_zero d)
  | text s => exact absurd hd (Nat.not_lt_zero d)
  | number n => exact absurd hd (Nat.not_lt_zero d)
  | list items ih =>
    cases d with
    | zero => exact document_refuses_list (Refuses.failAtNext _ _)
    | succ d =>
      rw [isExact_list_iff] at hv
      -- One item nests too deep; an item before it may do so as well and is rejected first.
      obtain ⟨w, hw, hlt⟩ := lt_depth_list_iff.1 hd
      refine document_refuses_list (listOf_refuses hv (fun v hm => ?_) ⟨w, hw, ih w hw (hv w hw) hlt⟩ rest)
      rcases le_or_gt v.depth d with hle | hlt
      · exact Or.inl (tree_readsBack (hv v hm) hle)
      · exact Or.inr (ih v hm (hv v hm) hlt)
  | object members ih =>
    cases d with
    | zero => exact document_refuses_object (Refuses.failAtNext _ _)
    | succ d =>
      rw [isExact_object_iff] at hv
      obtain ⟨w, hw, hlt⟩ := lt_depth_object_iff.1 hd
      refine document_refuses_object (objectOf_refuses (fun m hm => ?_) ⟨w, hw, ih w hw (hv w hw) hlt⟩ rest)
      rcases le_or_gt m.2.depth d with hle | hlt
      · exact Or.inl (tree_readsBack (hv m hm) hle)
      · exact Or.inr (ih m hm (hv m hm) hlt)

/-! ## What documents are read -/

variable {P : Json → Prop}

theorem items_yields (h : Yields r P) (fuel : Nat) {read : List Json} (hread : ∀ v ∈ read, P v) :
    Yields (Reader.items r fuel read) fun items => ∀ v ∈ items, P v := by
  induction fuel generalizing read with
  | zero => exact Yields.fail _ _
  | succ fuel ih =>
    refine Yields.bind (Yields.trivial _) fun more _ => ?_
    cases more with
    | false => exact Yields.pure fun v hv => hread v (List.mem_reverse.1 hv)
    | true => exact Yields.bind h fun v hv => ih (List.forall_mem_cons.2 ⟨hv, hread⟩)

theorem members_yields (h : Yields r P) (fuel : Nat) {read : List (String × Json)} (hread : ∀ m ∈ read, P m.2) :
    Yields (Reader.members r fuel read) fun members => ∀ m ∈ members, P m.2 := by
  induction fuel generalizing read with
  | zero => exact Yields.fail _ _
  | succ fuel ih =>
    refine Yields.bind (Yields.trivial _) fun name? _ => ?_
    cases name? with
    | none => exact Yields.pure fun m hm => hread m (List.mem_reverse.1 hm)
    | some name =>
      refine Yields.bind (Yields.trivial _) fun _ _ => ?_
      exact Yields.bind h fun v hv => ih (List.forall_mem_cons.2 ⟨hv, hread⟩)

/-- A document is what its two readers read, or one without items and members. -/
theorem document_yields (hl : Yields l P) (ho : Yields o P) (hnull : P null) (hboolean : ∀ b, P (boolean b))
    (htext : ∀ s, P (text s)) (hnumber : ∀ n : Number, n.InRange → P (number n)) : Yields (document l o) P := by
  refine Yields.bind (Yields.trivial _) fun b? _ => ?_
  cases b? with
  | none => exact Yields.failAtNext _ _
  | some b =>
    dsimp only
    split
    · exact Yields.bind (Yields.trivial _) fun _ _ => Yields.bind (Yields.trivial _) fun _ _ => Yields.pure hnull
    split
    · exact Yields.bind (Yields.trivial _) fun _ _ => Yields.bind (Yields.trivial _) fun _ _ => Yields.pure (hboolean true)
    split
    · exact Yields.bind (Yields.trivial _) fun _ _ => Yields.bind (Yields.trivial _) fun _ _ => Yields.pure (hboolean false)
    split
    · exact Yields.bind (Yields.trivial _) fun _ _ => Yields.map (numeral_yields true) hnumber
    split
    · exact Yields.map (numeral_yields false) hnumber
    split
    · exact Yields.bind (Yields.trivial _) fun _ _ => Yields.map (Yields.trivial _) fun s _ => htext s
    split
    · exact hl
    split
    · exact ho
    · exact Yields.failAtNext _ _

/-- What is read nests no deeper than its reader goes, and its integers are of the 64-bit ranges. -/
theorem tree_yields (d : Nat) : Yields (tree d) fun v => v.depth ≤ d ∧ v.AllNumbers Number.InRange := by
  induction d with
  | zero =>
    exact document_yields (Yields.failAtNext _ _) (Yields.failAtNext _ _) ⟨Nat.le_refl _, True.intro⟩
      (fun _ => ⟨Nat.le_refl _, True.intro⟩) (fun _ => ⟨Nat.le_refl _, True.intro⟩) fun _ hn => ⟨Nat.le_refl _, hn⟩
  | succ d ih =>
    refine document_yields ?_ ?_ ⟨Nat.zero_le _, True.intro⟩ (fun _ => ⟨Nat.zero_le _, True.intro⟩)
      (fun _ => ⟨Nat.zero_le _, True.intro⟩) fun _ hn => ⟨Nat.zero_le _, hn⟩
    · refine Yields.bind (Yields.trivial _) fun _ _ => Yields.bind (Yields.trivial _) fun _ _ => ?_
      refine Yields.map (Yields.enclosed _ (items_yields ih _ (List.forall_mem_nil _))) fun items h => ?_
      exact ⟨depth_list_le_iff.2 fun v hv => (h v hv).1, allNumbers_list_iff.2 fun v hv => (h v hv).2⟩
    · refine Yields.bind (Yields.trivial _) fun _ _ => Yields.bind (Yields.trivial _) fun _ _ => ?_
      refine Yields.map (Yields.enclosed _ (members_yields ih _ (List.forall_mem_nil _))) fun members h => ?_
      exact ⟨depth_object_le_iff.2 fun m hm => (h m hm).1, allNumbers_object_iff.2 fun m hm => (h m hm).2⟩

end Reader

end QueueBroker.Json

import QueueBroker.Proofs.Json.Records

/-!
# Reading cases

A case is read back from an object with its name and its content. Whatever a case is read from, an object with its name before or
after its content or a list of the two, it has the name of one of the cases and a content that this case reads or accepts.
-/

namespace QueueBroker.Json.Shape

open Reader

variable {Q : Case → Json → Prop} {cases : List Case}

/-- What is read after the name and the content of a case: no other member counts. -/
def afterContent (tag body : String) (fuel : Nat) (result : Json) : Reader Json := do
  match ← relevantName tag body fuel false with
  | none => pure result
  | some name => refuse (.duplicateField name)

/-! ## Reading back -/

section Back

variable {tag body name : String} {chosen : Case} {content stored : Json} {rest : Bytes}

theorem relevantName_end (tag body : String) (fuel : Nat) (first : Bool) (rest : Bytes) :
    Reads (relevantName tag body (fuel + 1) first) (code '\x7d' :: rest) none (code '\x7d' :: rest) :=
  Reads.bind (nextName_end first rest) (Reads.pure none _)

theorem relevantName_reads (hname : name = tag ∨ name = body) (fuel : Nat) (first : Bool) (value : Json) (i : Bytes) :
    Reads (relevantName tag body (fuel + 1) first) (separator first ++ memberBytes name value ++ i) (some name)
      (code ':' :: (value.bytes ++ i)) := by
  refine Reads.bind (nextName_reads first name value i) ?_
  simp only [if_pos hname]
  exact Reads.pure _ _

/-- One of the names of a choice is read back. -/
theorem readChoice_reads {names : List String} (hname : name ∈ names) (depth : Nat) (rest : Bytes) :
    Reads (readChoice names depth) ((Json.text name).bytes ++ rest) (Json.text name) rest := by
  rw [bytes_text, List.cons_append, List.append_assoc]
  refine Reads.bind (Reads.peekPastBlanks (by decide) _) ?_
  refine Reads.located (Reads.bind (Reads.peekPastBlanks (by decide) _) ?_)
  refine Reads.bind (Reads.skip _ _) (Reads.bind (string_reads name rest) ?_)
  rw [choiceOf, if_pos (by simpa using hname)]
  exact Reads.pure _ _

/-- A case is found by its name. -/
theorem find?_caseReaders (cases : List (String × Shape)) (depth : Nat) (name : String) :
    (caseReaders cases depth).find? (fun c => c.name == name) =
      (cases.find? fun c => c.1 == name).map fun c => ⟨c.1, c.2.isNothing, read c.2 depth, conform .buffered c.2⟩ := by
  induction cases with
  | nil => rfl
  | cons head cases ih =>
    rw [caseReaders, List.find?_cons, List.find?_cons]
    cases head.1 == name with
    | true => rfl
    | false => exact ih

theorem caseDocument_of_find? (hbare : chosen.bare = false) (hfind : cases.find? (fun c => c.name == name) = some chosen) :
    caseDocument tag body chosen stored = .object [(tag, .text name), (body, stored)] := by
  have hname : chosen.name = name := by simpa using List.find?_some hfind
  rw [caseDocument, hbare, hname]
  rfl

/-- Of the members of a case its content is left to be read, as the case reads it. -/
theorem taggedMembers_becomes (hne : body ≠ tag) (hfind : cases.find? (fun c => c.name == name) = some chosen) (depth : Nat)
    (content : Json) (rest : Bytes) :
    ∃ fuel, Becomes (taggedMembers tag body cases depth) (membersFrom true [(tag, .text name), (body, content)] ++ rest)
      (chosen.read >>= fun content => afterContent tag body (fuel + 1) (caseDocument tag body chosen content))
      (content.bytes ++ code '\x7d' :: rest) := by
  have hname : chosen.name = name := by simpa using List.find?_some hfind
  have hmem : name ∈ cases.map (·.name) := hname ▸ List.mem_map_of_mem (List.mem_of_find?_eq_some hfind)
  refine ⟨(membersFrom true [(tag, .text name), (body, content)] ++ rest).length, Becomes.bind (Reads.remaining _) ?_⟩
  rw [membersFrom_cons_append, membersFrom_cons_append]
  refine Becomes.bind (relevantName_reads (Or.inl rfl) _ true _ _) ?_
  refine Becomes.bind (colon_reads _) ?_
  rw [if_pos rfl]
  refine Becomes.bind (readChoice_reads hmem depth _) ?_
  have hcase : Reads (caseOf cases (Json.text name)) (separator false ++ memberBytes body content ++ (membersFrom false [] ++ rest))
      chosen (separator false ++ memberBytes body content ++ (membersFrom false [] ++ rest)) := by
    rw [caseOf, hfind]
    exact Reads.pure _ _
  refine Becomes.bind hcase ?_
  refine Becomes.bind (relevantName_reads (Or.inr rfl) _ false _ _) ?_
  dsimp only
  rw [if_neg hne]
  exact Becomes.bind (colon_reads _) (Becomes.refl _ _)

/-- The members of a case are read back if its content is. -/
theorem taggedMembers_reads (hne : body ≠ tag) (hfind : cases.find? (fun c => c.name == name) = some chosen) (depth : Nat)
    (hread : Reads chosen.read (content.bytes ++ code '\x7d' :: rest) stored (code '\x7d' :: rest)) :
    Reads (taggedMembers tag body cases depth) (membersFrom true [(tag, .text name), (body, content)] ++ rest)
      (caseDocument tag body chosen stored) (code '\x7d' :: rest) := by
  obtain ⟨fuel, hbecomes⟩ := taggedMembers_becomes hne hfind depth content rest
  refine hbecomes.reads (Reads.bind hread ?_)
  exact Reads.bind (relevantName_end tag body fuel false rest) (Reads.pure _ _)

/-- A case is read back if its content is. -/
theorem readTagged_reads (title : String) (hne : body ≠ tag) (hfind : cases.find? (fun c => c.name == name) = some chosen)
    (hbare : chosen.bare = false) (depth : Nat)
    (hread : Reads chosen.read (content.bytes ++ code '\x7d' :: rest) stored (code '\x7d' :: rest)) :
    Reads (readTagged title tag body cases (depth + 1))
      ((Json.object [(tag, .text name), (body, content)]).bytes ++ rest)
      (Json.object [(tag, .text name), (body, stored)]) rest := by
  rw [bytes_object, List.cons_append, ← caseDocument_of_find? hbare hfind]
  refine Reads.located (Reads.bind (Reads.peekPastBlanks (by decide) _) ?_)
  refine Reads.bind (Reads.skip _ _) ?_
  exact Reads.enclosed (taggedMembers_reads hne hfind depth hread) (endObject_reads rest)

/-- A case is refused if its content is. -/
theorem readTagged_refuses (title : String) (hne : body ≠ tag) (hfind : cases.find? (fun c => c.name == name) = some chosen)
    (depth : Nat) (hread : Refuses chosen.read (content.bytes ++ code '\x7d' :: rest)) :
    Refuses (readTagged title tag body cases (depth + 1)) ((Json.object [(tag, .text name), (body, content)]).bytes ++ rest) := by
  rw [bytes_object, List.cons_append]
  refine Refuses.located (Refuses.bind_of_reads (Reads.peekPastBlanks (by decide) _) ?_)
  refine Refuses.bind_of_reads (Reads.skip _ _) ?_
  obtain ⟨fuel, hbecomes⟩ := taggedMembers_becomes hne hfind depth content rest
  exact Refuses.enclosed _ (hbecomes.refuses (Refuses.bind hread))

/-- A case without content is read back from its name alone. -/
theorem readTagged_reads_bare (title : String) (hfind : cases.find? (fun c => c.name == name) = some chosen)
    (hbare : chosen.bare = true) (depth : Nat) (rest : Bytes) :
    Reads (readTagged title tag body cases (depth + 1)) ((Json.object [(tag, .text name)]).bytes ++ rest)
      (Json.object [(tag, .text name)]) rest := by
  have hname : chosen.name = name := by simpa using List.find?_some hfind
  have hmem : name ∈ cases.map (·.name) := hname ▸ List.mem_map_of_mem (List.mem_of_find?_eq_some hfind)
  rw [bytes_object, List.cons_append]
  refine Reads.located (Reads.bind (Reads.peekPastBlanks (by decide) _) ?_)
  refine Reads.bind (Reads.skip _ _) ?_
  refine Reads.enclosed (Reads.bind (Reads.remaining _) ?_) (endObject_reads rest)
  rw [membersFrom_cons_append]
  refine Reads.bind (relevantName_reads (Or.inl rfl) _ true _ _) ?_
  refine Reads.bind (colon_reads _) ?_
  rw [if_pos rfl]
  refine Reads.bind (readChoice_reads hmem depth _) ?_
  have hcase : Reads (caseOf cases (Json.text name)) (membersFrom false [] ++ rest) chosen (membersFrom false [] ++ rest) := by
    rw [caseOf, hfind]
    exact Reads.pure _ _
  refine Reads.bind hcase ?_
  refine Reads.bind (relevantName_end tag body _ false rest) ?_
  dsimp only
  rw [if_pos hbare, caseDocument, if_pos hbare, hname]
  exact Reads.pure _ _

end Back

/-! ## What cases are read -/

/-- The document of one of some cases with a content that satisfies `Q`. -/
def IsCase (Q : Case → Json → Prop) (tag body : String) (cases : List Case) (v : Json) : Prop :=
  ∃ chosen ∈ cases, ∃ content, v = caseDocument tag body chosen content ∧ Q chosen content

theorem caseOf_yields (cases : List Case) (name : Json) : Yields (caseOf cases name) (· ∈ cases) := by
  cases name with
  | text s =>
    rw [caseOf]
    cases hfind : cases.find? (fun c => c.name == s) with
    | none => exact Yields.refuse _ _
    | some chosen => exact Yields.pure (List.mem_of_find?_eq_some hfind)
  | null => exact Yields.refuse _ _
  | boolean b => exact Yields.refuse _ _
  | number n => exact Yields.refuse _ _
  | list items => exact Yields.refuse _ _
  | object members => exact Yields.refuse _ _

theorem taggedItems_yields (title tag body : String) (hread : ∀ chosen ∈ cases, Yields chosen.read (Q chosen)) :
    Yields (taggedItems title tag body cases) (IsCase Q tag body cases) := by
  refine Yields.bind (Yields.trivial _) fun more _ => ?_
  split
  · refine Yields.bind (Yields.trivial _) fun name _ => ?_
    refine Yields.bind (caseOf_yields cases name) fun chosen hchosen => ?_
    refine Yields.bind (Yields.trivial _) fun more _ => ?_
    split
    · refine Yields.bind (hread chosen hchosen) fun content hcontent => ?_
      exact Yields.pure ⟨chosen, hchosen, content, rfl, hcontent⟩
    · exact Yields.refuse _ _
  · exact Yields.refuse _ _

theorem taggedMembers_yields (tag body : String) (depth : Nat) (hbare : ∀ chosen ∈ cases, chosen.bare = true → Q chosen .null)
    (hread : ∀ chosen ∈ cases, Yields chosen.read (Q chosen))
    (hcheck : ∀ chosen ∈ cases, ∀ v, v.depth ≤ depth → v.AllNumbers Number.InRange →
      ∀ w, chosen.check v = .ok w → Q chosen w) :
    Yields (taggedMembers tag body cases depth) (IsCase Q tag body cases) := by
  have hlast {v : Json} (fuel : Nat) (hv : IsCase Q tag body cases v) :
      Yields (afterContent tag body fuel v) (IsCase Q tag body cases) := by
    refine Yields.bind (Yields.trivial _) fun name? _ => ?_
    cases name? with
    | none => exact Yields.pure hv
    | some name => exact Yields.refuse _ _
  refine Yields.bind (Yields.trivial _) fun fuel _ => ?_
  refine Yields.bind (Yields.trivial _) fun name? _ => ?_
  cases name? with
  | none => exact Yields.refuse _ _
  | some name =>
    refine Yields.bind (Yields.trivial _) fun _ _ => ?_
    split
    -- The name of the case comes first, and the content is read as that case reads it.
    · refine Yields.bind (Yields.trivial _) fun chosenName _ => ?_
      refine Yields.bind (caseOf_yields cases chosenName) fun chosen hchosen => ?_
      refine Yields.bind (Yields.trivial _) fun name? _ => ?_
      cases name? with
      | none =>
        dsimp only
        split
        next h => exact Yields.pure ⟨chosen, hchosen, .null, rfl, hbare chosen hchosen h⟩
        next => exact Yields.refuse _ _
      | some name =>
        dsimp only
        split
        · exact Yields.refuse _ _
        · refine Yields.bind (Yields.trivial _) fun _ _ => ?_
          exact Yields.bind (hread chosen hchosen) fun content hcontent =>
            hlast _ ⟨chosen, hchosen, content, rfl, hcontent⟩
    -- The content comes first, is kept as a tree and given to the case that is named after it.
    · refine Yields.bind (tree_yields depth) fun content hcontent => ?_
      refine Yields.bind (Yields.trivial _) fun name? _ => ?_
      cases name? with
      | none => exact Yields.refuse _ _
      | some name =>
        dsimp only
        split
        · exact Yields.refuse _ _
        · refine Yields.bind (Yields.trivial _) fun _ _ => ?_
          refine Yields.bind (Yields.trivial _) fun chosenName _ => ?_
          refine Yields.bind (caseOf_yields cases chosenName) fun chosen hchosen => ?_
          refine Yields.bind (accept_yields fun w hw => hcheck chosen hchosen content hcontent.1 hcontent.2 w hw)
            fun w hw => ?_
          exact hlast _ ⟨chosen, hchosen, w, rfl, hw⟩

/-- What is read is one of the cases, with a content that it reads or accepts. -/
theorem readTagged_yields (title tag body : String) (depth : Nat)
    (hbare : ∀ chosen ∈ cases, chosen.bare = true → Q chosen .null)
    (hread : ∀ chosen ∈ cases, Yields chosen.read (Q chosen))
    (hcheck : ∀ chosen ∈ cases, ∀ v, v.depth ≤ depth - 1 → v.AllNumbers Number.InRange →
      ∀ w, chosen.check v = .ok w → Q chosen w) :
    Yields (readTagged title tag body cases depth) (IsCase Q tag body cases) := by
  refine Yields.located (Yields.bind (Yields.trivial _) fun b? _ => ?_)
  split
  · split
    · exact Yields.failAtNext _ _
    · exact Yields.bind (Yields.trivial _) fun _ _ => Yields.enclosed _ (taggedItems_yields title tag body hread)
  · split
    · exact Yields.failAtNext _ _
    · exact Yields.bind (Yields.trivial _) fun _ _ =>
        Yields.enclosed _ (taggedMembers_yields tag body _ hbare hread hcheck)
  · exact refuseNext_yields _ _

end QueueBroker.Json.Shape

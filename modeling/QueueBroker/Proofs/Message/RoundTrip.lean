import QueueBroker.Proofs.Json.Cases
import QueueBroker.Protocol.Request

/-!
# Messages and their documents

A message is read back from its document exactly when its payload nests no deeper than the reader of payloads goes. Messages
that were read, alone or inside a request, hold payloads in canonical form, with integers of the 64-bit ranges, that do.
-/

namespace QueueBroker

open Json Json.Reader Json.Shape

/-- A payload as the broker holds it: in canonical form, its integers of the 64-bit ranges. -/
structure Json.Held (v : Json) : Prop where
  canonical : v.canonical = v
  inRange : v.AllNumbers Number.InRange

theorem Json.Held.of_canonical {v : Json} (h : v.AllNumbers Number.InRange) : v.canonical.Held :=
  ⟨canonical_canonical v, h.canonical⟩

/-- Whether a document holds no real number. -/
def Json.NoReals (v : Json) : Prop :=
  v.AllNumbers Number.IsInteger

theorem Json.Held.isExact {v : Json} (h : v.Held) (hreals : v.NoReals) : v.IsExact :=
  h.inRange.and hreals

/-- The deepest nesting of a payload that is read, the object around it being one level more. -/
def maxPayloadDepth : Nat := maxDepth - 1

/-- The reader of payloads, with at most `depth` lists and objects inside one another. -/
abbrev payloadReader (depth : Nat) : Reader Json :=
  canonical <$> tree depth

/-- The fields of a message and their readers. -/
abbrev messageFields (depth : Nat) : List FieldReader :=
  pairFields "destination" (readText "a string") "payload" (payloadReader depth)

theorem read_shape (depth : Nat) : Message.shape.read depth = readRecord "Message" (messageFields (depth - 1)) depth :=
  rfl

namespace Message

variable {m : Message}

/-- Whether a message is one that the broker holds, without real numbers. -/
structure Plain (m : Message) : Prop where
  held : m.payload.Held
  noReals : m.payload.NoReals

/-! ## Reading back -/

/-- A message is read back if its payload is. -/
theorem read_shape_reads {depth : Nat} (hread : ReadsBack (payloadReader depth) m.payload) (rest : Bytes) :
    Reads (shape.read (depth + 1)) (m.bytes ++ rest) m.toJson rest :=
  readRecord_pair_reads "Message" (by decide) depth (readText_readsBack _ _) hread rest

theorem read_shape_refuses {depth : Nat} (hread : Rejects (payloadReader depth) m.payload) (rest : Bytes) :
    Refuses (shape.read (depth + 1)) (m.bytes ++ rest) :=
  readRecord_pair_refuses "Message" (by decide) depth (readText_readsBack _ _) hread rest

theorem payloadReader_readsBack {v : Json} (hcanonical : v.canonical = v) (hexact : v.IsExact) {depth : Nat}
    (hdepth : v.depth ≤ depth) : ReadsBack (payloadReader depth) v := by
  intro rest hrest
  have h := Reads.map canonical (tree_readsBack hexact hdepth rest hrest)
  rwa [hcanonical] at h

theorem payloadReader_rejects {v : Json} (hexact : v.IsExact) {depth : Nat} (hdepth : depth < v.depth) :
    Rejects (payloadReader depth) v :=
  fun rest => Refuses.map canonical (tree_rejects hexact hdepth rest)

/-- A message whose payload does not nest too deep is read back from its bytes. -/
theorem parse_bytes (hheld : m.payload.Held) (hreals : m.payload.NoReals) (hdepth : m.payload.depth ≤ maxPayloadDepth) :
    parse m.bytes = .ok m := by
  have hpayload := payloadReader_readsBack hheld.canonical (hheld.isExact hreals) hdepth
  exact decode_of_reads (read_shape_reads hpayload []) rfl

/-- A message whose payload nests too deep is not read back. -/
theorem parse_bytes_error (hheld : m.payload.Held) (hreals : m.payload.NoReals) (hdepth : maxPayloadDepth < m.payload.depth) :
    ∃ e, parse m.bytes = .error e := by
  have hpayload := payloadReader_rejects (hheld.isExact hreals) hdepth
  exact decode_of_refuses ofJson? (read_shape_refuses hpayload [])

/-! ## What messages are read -/

/-- Whether a document stands for a message whose payload is held and nests at most `depth` levels, if for any. -/
def Carries (depth : Nat) (v : Json) : Prop :=
  ∀ m, ofJson? v = some m → m.payload.Held ∧ m.payload.depth ≤ depth

/-- What is asked of a field: a payload is held and nests at most `depth` levels. -/
abbrev FieldHeld (depth : Nat) (name : String) (v : Json) : Prop :=
  name = "payload" → v.Held ∧ v.depth ≤ depth

theorem Carries.of_fill {depth : Nat} {members : List (String × Json)}
    (h : Fill (FieldHeld depth) ["destination", "payload"] members) : Carries depth (.object members) := by
  obtain ⟨v, w, rfl, -, hw⟩ := h.pair
  intro m hm
  cases v with
  | text s =>
    cases hm
    exact hw rfl
  | null => cases hm
  | boolean b => cases hm
  | number n => cases hm
  | list items => cases hm
  | object members => cases hm

theorem canonical_held {v : Json} {depth : Nat} (h : v.depth ≤ depth ∧ v.AllNumbers Number.InRange) :
    v.canonical.Held ∧ v.canonical.depth ≤ depth :=
  ⟨Held.of_canonical h.2, Nat.le_trans (depth_canonical_le v) h.1⟩

theorem read_shape_yields (depth : Nat) : Yields (shape.read depth) (Carries (depth - 1)) := by
  have hbare : Bare (messageFields (depth - 1)) := by
    intro field hf
    simp only [List.mem_cons, List.not_mem_nil, or_false] at hf
    rcases hf with rfl | rfl <;> rfl
  have hfields : ∀ field ∈ messageFields (depth - 1), Yields field.2.2 (FieldHeld (depth - 1) field.1) := by
    intro field hf
    simp only [List.mem_cons, List.not_mem_nil, or_false] at hf
    rcases hf with rfl | rfl
    · exact (Yields.trivial _).mono fun _ _ h => absurd h (by simp)
    · exact Yields.map (tree_yields (depth - 1)) fun v hv _ => canonical_held hv
  rw [read_shape]
  refine (readRecord_yields "Message" hbare hfields depth).mono ?_
  rintro v ⟨members, rfl, hfill⟩
  exact Carries.of_fill hfill

/-- What the check of a message that was read ahead accepts. -/
theorem conform_shape {depth : Nat} {v w : Json} (hdepth : v.depth ≤ depth + 1) (hrange : v.AllNumbers Number.InRange)
    (h : conform .buffered shape v = .ok w) : Carries depth w := by
  have hchecks : ∀ check ∈ [("destination", conform .buffered (.text "a string")), ("payload", conform .buffered .any)],
      ∀ part, part.depth ≤ depth → part.AllNumbers Number.InRange →
        ∀ u, check.2 part = .ok u → FieldHeld depth check.1 u := by
    intro check hc part hdepth hrange u hu
    simp only [List.mem_cons, List.not_mem_nil, or_false] at hc
    rcases hc with rfl | rfl
    · exact fun h => absurd h (by simp)
    · cases hu
      exact fun _ => canonical_held ⟨hdepth, hrange⟩
  obtain ⟨members, rfl, hfill⟩ := checkRecord_fill .buffered "Message" hdepth hrange hchecks h
  exact Carries.of_fill hfill

theorem interpret_eq_ok {α : Type} {of? : Json → Option α} {v : Json} {a : α} (h : interpret of? v = .ok a) : of? v = some a := by
  rw [interpret] at h
  cases hv : of? v with
  | none =>
    rw [hv] at h
    cases h
  | some b =>
    rw [hv] at h
    cases h
    rfl

/-- A message that was read holds its payload, which nests no deeper than payloads are read. -/
theorem held_of_parse {bytes : Bytes} (h : parse bytes = .ok m) : m.payload.Held ∧ m.payload.depth ≤ maxPayloadDepth := by
  obtain ⟨v, hv, h⟩ := bind_eq_ok h
  exact (read_shape_yields maxDepth).whole hv m (interpret_eq_ok h)

end Message

namespace Request

/-- The cases of a request. -/
abbrev cases : List (String × Shape) :=
  [("SEND", Message.shape), ("CHECK", .text "a string"), ("RECEIVE", .text "a string")]

/-- A case that holds a text, by its name. -/
abbrev textCase (name : String) : Case :=
  ⟨name, false, readText "a string", conform .buffered (.text "a string")⟩

theorem caseReaders_eq (depth : Nat) :
    caseReaders cases depth =
      [⟨"SEND", false, Message.shape.read depth, conform .buffered Message.shape⟩,
        textCase "CHECK", textCase "RECEIVE"] :=
  rfl

/-! ## Reading back -/

/-- What is asked of a request to be read back: the payload of a message nests at most `depth` levels. -/
structure Readable (depth : Nat) (r : Request) : Prop where
  held : ∀ m, r = .send m → m.payload.Held
  noReals : ∀ m, r = .send m → m.payload.NoReals
  shallow : ∀ m, r = .send m → m.payload.depth ≤ depth

/-- A request is read back from its document. -/
theorem read_shape_reads {depth : Nat} {r : Request} (h : r.Readable depth) (rest : Bytes) :
    Reads (shape.read (depth + 2)) (r.toJson.bytes ++ rest) r.toJson rest := by
  change Reads (readTagged "Request" "op" "body" (caseReaders cases (depth + 1)) (depth + 1 + 1)) _ _ _
  have hne : "body" ≠ "op" := by decide
  cases r with
  | send m =>
    have hpayload : ReadsBack (payloadReader depth) m.payload :=
      Message.payloadReader_readsBack (h.held m rfl).canonical ((h.held m rfl).isExact (h.noReals m rfl)) (h.shallow m rfl)
    have hmessage : Reads (Message.shape.read (depth + 1)) (m.toJson.bytes ++ code '\x7d' :: rest) m.toJson (code '\x7d' :: rest) :=
      Message.read_shape_reads hpayload _
    exact readTagged_reads "Request" hne (find?_caseReaders cases (depth + 1) "SEND") rfl (depth + 1) hmessage
  | check name =>
    have hname := readText_reads "a string" name (code '\x7d' :: rest)
    exact readTagged_reads "Request" hne (find?_caseReaders cases (depth + 1) "CHECK") rfl (depth + 1) hname
  | receive name =>
    have hname := readText_reads "a string" name (code '\x7d' :: rest)
    exact readTagged_reads "Request" hne (find?_caseReaders cases (depth + 1) "RECEIVE") rfl (depth + 1) hname

theorem ofJson?_toJson (r : Request) : ofJson? r.toJson = some r := by
  cases r <;> rfl

/-- A request whose message does not nest too deep is read back from its bytes. -/
theorem parse_bytes {r : Request} (h : r.Readable (maxPayloadDepth - 1)) : parse r.toJson.bytes = .ok r :=
  decode_of_reads (read_shape_reads h []) (ofJson?_toJson r)

/-- A request whose message nests too deep is not read back. -/
theorem parse_bytes_error {m : Message} (hm : m.Plain) (hdepth : maxPayloadDepth - 1 < m.payload.depth) :
    ∃ e, parse (send m).toJson.bytes = .error e := by
  have hpayload : Rejects (payloadReader (maxPayloadDepth - 1)) m.payload :=
    Message.payloadReader_rejects (hm.held.isExact hm.noReals) hdepth
  have hmessage : Refuses (Message.shape.read maxPayloadDepth) (m.toJson.bytes ++ [code '\x7d']) :=
    Message.read_shape_refuses hpayload _
  have hrefuse : Refuses (shape.read maxDepth) ((send m).toJson.bytes ++ []) :=
    readTagged_refuses "Request" (by decide) (find?_caseReaders cases maxPayloadDepth "SEND") maxPayloadDepth hmessage
  exact decode_of_refuses ofJson? hrefuse

/-- What is read of the document of a request is this request. -/
theorem eq_of_parse_bytes {r r' : Request} (hplain : ∀ m, r = .send m → m.Plain) (h : parse r.toJson.bytes = .ok r') : r' = r := by
  by_cases hdepth : ∀ m, r = .send m → m.payload.depth ≤ maxPayloadDepth - 1
  · have hback := parse_bytes ⟨fun m hm => (hplain m hm).held, fun m hm => (hplain m hm).noReals, hdepth⟩
    exact Except.ok.inj (h.symm.trans hback)
  · push Not at hdepth
    obtain ⟨m, rfl, hdeep⟩ := hdepth
    obtain ⟨e, he⟩ := parse_bytes_error (hplain m rfl) hdeep
    cases h.symm.trans he

/-! ## What requests are read -/

/-- What is asked of the content of a case: a message that is sent holds a payload of at most `depth` levels. -/
abbrev CaseHeld (depth : Nat) (chosen : Case) (content : Json) : Prop :=
  chosen.name = "SEND" → Message.Carries depth content

theorem name_of_ofJson? {name : String} {content : Json} {m : Message}
    (h : ofJson? (.object [("op", .text name), ("body", content)]) = some (send m)) :
    name = "SEND" ∧ Message.ofJson? content = some m := by
  by_cases hname : name = "SEND"
  · simp only [ofJson?, if_pos hname] at h
    obtain ⟨m', hm', heq⟩ := Option.map_eq_some_iff.1 h
    cases heq
    exact ⟨hname, hm'⟩
  · simp only [ofJson?, if_neg hname] at h
    cases content with
    | text s =>
      dsimp only at h
      split at h
      · cases h
      split at h <;> cases h
    | null => cases h
    | boolean b => cases h
    | number n => cases h
    | list items => cases h
    | object members => cases h

/-- A request to send in a document of one of the cases carries what the content of this case does. -/
theorem carries_of_isCase {depth : Nat} {readers : List Case} {v : Json} (h : IsCase (CaseHeld depth) "op" "body" readers v)
    {m : Message} (hm : ofJson? v = some (send m)) : m.payload.Held ∧ m.payload.depth ≤ depth := by
  obtain ⟨chosen, -, content, rfl, hcontent⟩ := h
  rw [caseDocument] at hm
  split at hm
  · cases hm
  obtain ⟨hname, hm⟩ := name_of_ofJson? hm
  exact hcontent hname m hm

theorem read_shape_yields (depth : Nat) : Yields (shape.read (depth + 2)) fun v =>
    ∀ m, ofJson? v = some (send m) → m.payload.Held ∧ m.payload.depth ≤ depth := by
  suffices hcase : Yields (shape.read (depth + 2)) (IsCase (CaseHeld depth) "op" "body" (caseReaders cases (depth + 1))) from
    hcase.mono fun v hv m hm => carries_of_isCase hv hm
  refine readTagged_yields "Request" "op" "body" (depth + 2) ?_ ?_ ?_
  · rw [caseReaders_eq]
    intro chosen hc hbare
    simp only [List.mem_cons, List.not_mem_nil, or_false] at hc
    rcases hc with rfl | rfl | rfl <;> cases hbare
  · rw [caseReaders_eq]
    intro chosen hc
    simp only [List.mem_cons, List.not_mem_nil, or_false] at hc
    rcases hc with rfl | rfl | rfl
    · exact (Message.read_shape_yields (depth + 1)).mono fun _ h _ => h
    · exact (Yields.trivial _).mono fun _ _ h => absurd h (by simp)
    · exact (Yields.trivial _).mono fun _ _ h => absurd h (by simp)
  · rw [caseReaders_eq]
    intro chosen hc v hdepth hrange w hw
    simp only [List.mem_cons, List.not_mem_nil, or_false] at hc
    rcases hc with rfl | rfl | rfl
    · exact fun _ => Message.conform_shape hdepth hrange hw
    · exact fun h => absurd h (by simp)
    · exact fun h => absurd h (by simp)

/-- A request to send that was read holds its payload, which nests at least one level less than payloads may. -/
theorem held_of_parse {bytes : Bytes} {m : Message} (h : parse bytes = .ok (send m)) :
    m.payload.Held ∧ m.payload.depth ≤ maxPayloadDepth - 1 := by
  obtain ⟨v, hv, h⟩ := bind_eq_ok h
  exact (read_shape_yields (maxPayloadDepth - 1)).whole hv m (Message.interpret_eq_ok h)

end Request

end QueueBroker

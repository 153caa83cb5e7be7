import QueueBroker.Config.Load
import QueueBroker.Proofs.Config.Paths
import QueueBroker.Proofs.Json.Checking

/-!
# Two readings of a section

A section of settings is read strictly as a document, where each setting is of its own type, or loosely as settings, which count as what
is wanted. What passes strictly counts as the same loosely: `server?_of_takesAll` and `storage?_of_takesAll` say so of a section's
settings, whether they are given by name or in order.
-/

namespace QueueBroker

open Json.Shape

namespace Toml

theorem toJsonItems_eq_map (items : List Toml) : toJsonItems items = items.map toJson := by
  induction items with
  | nil => rfl
  | cons item items ih => rw [toJsonItems, ih, List.map_cons]

theorem toJsonEntries_eq_map (entries : List (String × Toml)) :
    toJsonEntries entries = entries.map fun entry => (entry.1, entry.2.toJson) := by
  induction entries with
  | nil => rfl
  | cons entry entries ih => rw [toJsonEntries, ih, List.map_cons]

end Toml

namespace Setting

theorem ofTomlItems_eq_map (items : List Toml) : ofTomlItems items = items.map ofToml := by
  induction items with
  | nil => rfl
  | cons item items ih => rw [ofTomlItems, ih, List.map_cons]

theorem ofTomlEntries_eq_map (entries : List (String × Toml)) :
    ofTomlEntries entries = entries.map fun entry => (entry.1, ofToml entry.2) := by
  induction entries with
  | nil => rfl
  | cons entry entries ih => rw [ofTomlEntries, ih, List.map_cons]

end Setting

variable {v : Toml} {value w : Json} {given : Option Toml} {low high : Int} {expected : String}

/-! ## Single settings -/

namespace Toml

/-- Only a text passes as a text, -/
theorem of_conform_text (h : (Json.Shape.text expected).conform .settings v.toJson = .ok value) :
    ∃ s, v = .text s ∧ value = .text s := by
  rw [conform] at h
  cases v with
  | text s => exact ⟨s, rfl, (Except.ok.inj h).symm⟩
  | real x => cases x <;> cases h
  | integer n | boolean b | moment s | list items | table entries => cases h

/-- only a truth value as a truth value, -/
theorem of_conform_boolean (h : Json.Shape.boolean.conform .settings v.toJson = .ok value) :
    ∃ b, v = .boolean b ∧ value = .boolean b := by
  rw [conform] at h
  cases v with
  | boolean b => exact ⟨b, rfl, (Except.ok.inj h).symm⟩
  | real x => cases x <;> cases h
  | integer n | text s | moment s | list items | table entries => cases h

/-- and only an integer in range as an integer. -/
theorem of_conform_integer (h : (Json.Shape.integer low high expected).conform .settings v.toJson = .ok value) :
    ∃ n, v = .integer n ∧ low ≤ n ∧ n ≤ high ∧ value = .number (.integer n) := by
  rw [conform] at h
  cases v with
  | integer n =>
    change integerOf low high expected (.integer n) = .ok value at h
    rw [integerOf] at h
    split at h
    · rename_i hrange
      exact ⟨n, rfl, hrange.1, hrange.2, (Except.ok.inj h).symm⟩
    · cases h
  | real x => cases x <;> cases h
  | boolean b | text s | moment s | list items | table entries => cases h

end Toml

namespace BrokerConfig

open Json.Shape

/-- A text that passes, or is not given, counts as the same text. -/
theorem toText?_of_takes {default : String} (h : Takes (some (.text default)) ((Json.Shape.text expected).conform .settings)
    (given.map Toml.toJson) value) :
    ∃ s, value = .text s ∧ orDefault default Setting.toText? (given.map Setting.ofToml) = some s := by
  cases given with
  | none =>
    cases h with
    | default hdefault => exact ⟨default, (Option.some.inj hdefault).symm, rfl⟩
  | some v =>
    cases h with
    | given hcheck =>
      obtain ⟨s, rfl, rfl⟩ := Toml.of_conform_text hcheck
      exact ⟨s, rfl, rfl⟩

theorem toBoolean?_of_takes {default : Bool} (h : Takes (some (.boolean default)) (Json.Shape.boolean.conform .settings)
    (given.map Toml.toJson) value) :
    ∃ b, value = .boolean b ∧ orDefault default Setting.toBoolean? (given.map Setting.ofToml) = some b := by
  cases given with
  | none =>
    cases h with
    | default hdefault => exact ⟨default, (Option.some.inj hdefault).symm, rfl⟩
  | some v =>
    cases h with
    | given hcheck =>
      obtain ⟨b, rfl, rfl⟩ := Toml.of_conform_boolean hcheck
      exact ⟨b, rfl, rfl⟩

/-- A number that passes is given as an integer in range, or is the default. -/
theorem exists_integer_of_takes {default : Nat}
    (h : Takes (some (.natural default)) ((Json.Shape.integer 0 high expected).conform .settings) (given.map Toml.toJson) value) :
    ∃ n : Nat, value = .natural n ∧ ((given = none ∧ n = default) ∨ (given = some (.integer n) ∧ (n : Int) ≤ high)) := by
  cases given with
  | none =>
    cases h with
    | default hdefault => exact ⟨default, (Option.some.inj hdefault).symm, Or.inl ⟨rfl, rfl⟩⟩
  | some v =>
    cases h with
    | given hcheck =>
      obtain ⟨n, rfl, hlow, hhigh, rfl⟩ := Toml.of_conform_integer hcheck
      obtain ⟨n, rfl⟩ := Int.eq_ofNat_of_zero_le hlow
      exact ⟨n, rfl, Or.inr ⟨rfl, hhigh⟩⟩

theorem port?_of_takes {default : UInt16} (h : Takes (some (.natural default.toNat)) (Json.Shape.port.conform .settings)
    (given.map Toml.toJson) value) :
    ∃ n : Nat, value = .natural n ∧ orDefault default port? (given.map Setting.ofToml) = some (.ofNat n) := by
  obtain ⟨n, hvalue, ⟨rfl, rfl⟩ | ⟨rfl, hn⟩⟩ := exists_integer_of_takes h
  · exact ⟨_, hvalue, by rw [UInt16.ofNat_toNat]; rfl⟩
  · refine ⟨n, hvalue, ?_⟩
    have hlt : n < UInt16.size := by
      simp only [UInt16.size] at hn ⊢
      omega
    change port? (.integer n) = _
    simp [port?, Setting.toNatural?, hlt]

theorem count?_of_takes {default : UInt64}
    (h : Takes (some (.natural default.toNat)) ((Json.Shape.integer 0 high expected).conform .settings) (given.map Toml.toJson) value) :
    ∃ n : Nat, value = .natural n ∧ orDefault default count? (given.map Setting.ofToml) = some (.ofNat n) := by
  obtain ⟨n, hvalue, ⟨rfl, rfl⟩ | ⟨rfl, -⟩⟩ := exists_integer_of_takes h
  · exact ⟨_, hvalue, by rw [UInt64.ofNat_toNat]; rfl⟩
  · refine ⟨n, hvalue, ?_⟩
    change count? (.integer n) = _
    simp [count?, Setting.toNatural?]

/-! ## Sections -/

/-- The settings of a listener, with their defaults. -/
def serverFields : List (String × Option Json × Json.Shape) :=
  let default : ServerSettings := {}
  [("bind_address", some (.text default.bindAddress), .text "a string"), ("port", some (.natural default.port.toNat), .port),
    ("max_frame_length", some (.natural default.maxFrameLength.toNat), .length),
    ("idle_timeout_secs", some (.natural default.idleTimeoutSeconds.toNat), .seconds)]

/-- The settings of the storage, with their defaults. -/
def storageFields : List (String × Option Json × Json.Shape) :=
  let default : StorageSettings := {}
  [("directory", some (.text default.directory), .text "path string"),
    ("sync_on_write", some (.boolean default.syncOnWrite), .boolean)]

/-- The sections of the settings of a broker, with their defaults. -/
def sections : List (String × Option Json × Json.Shape) :=
  [("server", some (ServerSettings.toJson {}), ServerSettings.shape),
    ("storage", some (StorageSettings.toJson {}), StorageSettings.shape)]

/-- The names of the settings of a listener. -/
def serverNames : List String := serverFields.map (·.1)

/-- The names of the settings of the storage. -/
def storageNames : List String := storageFields.map (·.1)

theorem shape_eq : shape = .record "BrokerConfig" sections := rfl

/-- What is given for some names: entries of a table by name, items of a list in order. -/
inductive GivenIn : Toml → List String → List (Option Toml) → Prop where
  | table {entries : List (String × Toml)} {names : List String} : (∀ name ∈ names, Given entries name (entries.lookup name)) →
      GivenIn (.table entries) names (names.map fun name => entries.lookup name)
  | list {items : List Toml} {names : List String} :
      GivenIn (.list items) names ((List.range names.length).map fun place => items[place]?)

end BrokerConfig

theorem Given.of_map {α β : Type} {f : α → β} {members : List (String × α)} {name : String} {given : Option β}
    (h : Given (members.map fun member => (member.1, f member.2)) name given) : Given members name (members.lookup name) := by
  have hgiven : ∃ given, Given members name given := by
    cases h with
    | absent habsent => exact ⟨none, .absent fun member hmem => habsent _ (List.mem_map_of_mem hmem)⟩
    | @once before after value heq hothers =>
      obtain ⟨before, rest, rfl, rfl, hrest⟩ := List.map_eq_append_iff.1 heq
      obtain ⟨member, after, rfl, hmember, rfl⟩ := List.map_eq_cons_iff.1 hrest
      obtain rfl : member.1 = name := congrArg Prod.fst hmember
      refine ⟨some member.2, .once rfl fun other hmem => ?_⟩
      refine hothers (other.1, f other.2) ?_
      rw [← List.map_append]
      exact List.mem_map_of_mem hmem
  obtain ⟨given, h⟩ := hgiven
  rwa [h.lookup_eq]

theorem lookup_map {α β : Type} (f : α → β) (members : List (String × α)) (name : String) :
    (members.map fun member => (member.1, f member.2)).lookup name = (members.lookup name).map f := by
  induction members with
  | nil => rfl
  | cons member members ih =>
    rcases member with ⟨key, value⟩
    by_cases hname : name = key
    · simp [hname]
    · have hne : (name == key) = false := beq_eq_false_iff_ne.2 hname
      simp [List.lookup_cons, hne, ih]

theorem conformFields_eq_map (source : Json.Shape.Source) (fields : List (String × Option Json × Json.Shape)) :
    conformFields source fields = fields.map fun field => (field.1, field.2.1, field.2.2.conform source) := by
  induction fields with
  | nil => rfl
  | cons field fields ih =>
    rcases field with ⟨name, default, shape⟩
    rw [conformFields, ih, List.map_cons]

/-- A value that passes as a section gives each setting at most once, by name or in order, and each takes what is given. A date has a form
of its own as a document and is left out here. -/
theorem exists_givenIn {title : String} {fields : List (String × Option Json × Json.Shape)} (hnodup : (fields.map (·.1)).Nodup)
    (hmoment : ∀ s, v ≠ .moment s) (h : (Json.Shape.record title fields).conform .settings v.toJson = .ok w) :
    ∃ given values, BrokerConfig.GivenIn v (fields.map (·.1)) given ∧ w = .object ((fields.map (·.1)).zip values) ∧
      TakesAll (fields.map fun field => (field.2.1, field.2.2.conform .settings)) (given.map (·.map Toml.toJson)) values := by
  rw [conform, conformFields_eq_map] at h
  have hnames : (fields.map fun field => (field.1, field.2.1, field.2.2.conform .settings)).map (·.1) = fields.map (·.1) := by
    rw [List.map_map]
    rfl
  have hchecks : (fields.map fun field => (field.1, field.2.1, field.2.2.conform .settings)).map (·.2) =
      fields.map fun field => (field.2.1, field.2.2.conform .settings) := by
    rw [List.map_map]
    rfl
  cases v with
  | table entries =>
    rw [Toml.toJson, Toml.toJsonEntries_eq_map] at h
    obtain ⟨hgiven, values, rfl, htakes⟩ := takesAll_of_checkRecord (by rwa [hnames]) h
    have hgiven' (name : String) (hmem : name ∈ fields.map (·.1)) : Given entries name (entries.lookup name) := by
      obtain ⟨field, hfield, rfl⟩ := List.mem_map.1 hmem
      exact (hgiven _ (List.mem_map_of_mem hfield)).of_map
    refine ⟨_, values, .table hgiven', by rw [hnames], ?_⟩
    rw [hchecks] at htakes
    simpa [lookup_map, Function.comp_def] using htakes
  | list items =>
    rw [Toml.toJson, Toml.toJsonItems_eq_map, checkRecord] at h
    obtain ⟨values, hvalues, h⟩ := bind_eq_ok h
    obtain rfl := Except.ok.inj h
    refine ⟨_, values, .list, by rw [hnames], ?_⟩
    have htakes := takesAll_of_checkItems hvalues
    rw [hchecks] at htakes
    simpa [Function.comp_def] using htakes
  | moment s => exact absurd rfl (hmoment s)
  | real x => cases x <;> cases h
  | text s | integer n | boolean b => cases h

namespace BrokerConfig

/-- The settings of a listener that pass strictly count as the same loosely. -/
theorem server?_of_takesAll {given : List (Option Toml)} {values : List Json}
    (h : TakesAll (serverFields.map fun field => (field.2.1, field.2.2.conform .settings)) (given.map (·.map Toml.toJson)) values)
    {v : Setting} (hv : v.fields? serverNames = some (given.map (·.map Setting.ofToml))) :
    ∃ s, ServerSettings.ofJson? (.object (serverNames.zip values)) = some s ∧ server? v = some s := by
  obtain ⟨_, _, _, _, rfl, rfl, haddress, h⟩ := h.exists_cons
  obtain ⟨_, _, _, _, rfl, rfl, hport, h⟩ := h.exists_cons
  obtain ⟨_, _, _, _, rfl, rfl, hlength, h⟩ := h.exists_cons
  obtain ⟨_, _, _, _, rfl, rfl, hseconds, h⟩ := h.exists_cons
  obtain ⟨rfl, rfl⟩ := h.eq_nil
  obtain ⟨address, rfl, haddress'⟩ := toText?_of_takes haddress
  obtain ⟨port, rfl, hport'⟩ := port?_of_takes hport
  obtain ⟨length, rfl, hlength'⟩ := count?_of_takes hlength
  obtain ⟨seconds, rfl, hseconds'⟩ := count?_of_takes hseconds
  refine ⟨⟨address, .ofNat port, .ofNat length, .ofNat seconds⟩, rfl, ?_⟩
  change v.fields? ["bind_address", "port", "max_frame_length", "idle_timeout_secs"] = _ at hv
  dsimp only at haddress' hport' hlength' hseconds'
  simp [server?, hv, haddress', hport', hlength', hseconds']

/-- The settings of the storage that pass strictly count as the same loosely. -/
theorem storage?_of_takesAll {given : List (Option Toml)} {values : List Json}
    (h : TakesAll (storageFields.map fun field => (field.2.1, field.2.2.conform .settings)) (given.map (·.map Toml.toJson)) values)
    {v : Setting} (hv : v.fields? storageNames = some (given.map (·.map Setting.ofToml))) :
    ∃ s, StorageSettings.ofJson? (.object (storageNames.zip values)) = some s ∧ storage? v = some s := by
  obtain ⟨_, _, _, _, rfl, rfl, hdirectory, h⟩ := h.exists_cons
  obtain ⟨_, _, _, _, rfl, rfl, hsync, h⟩ := h.exists_cons
  obtain ⟨rfl, rfl⟩ := h.eq_nil
  obtain ⟨directory, rfl, hdirectory'⟩ := toText?_of_takes hdirectory
  obtain ⟨sync, rfl, hsync'⟩ := toBoolean?_of_takes hsync
  refine ⟨⟨directory, sync⟩, rfl, ?_⟩
  change v.fields? ["directory", "sync_on_write"] = _ at hv
  dsimp only at hdirectory' hsync'
  simp [storage?, hv, hdirectory', hsync']

end BrokerConfig

end QueueBroker

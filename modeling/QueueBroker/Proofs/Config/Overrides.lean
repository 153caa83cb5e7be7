import QueueBroker.Proofs.Config.Loaders
import QueueBroker.Proofs.Config.Words

/-!
# Settings that the environment gives

A variable that is named for a setting is put over whatever the file says. Unless another variable takes the place of the setting, its
word is what the setting is read from, or the settings are refused: `load_follows_environment`.
-/

namespace QueueBroker.BrokerConfig

open Setting

/-! ## Variables -/

/-- The sections with the names of their settings. -/
def settings : List (String × String) :=
  serverNames.map (Prod.mk "server") ++ storageNames.map (Prod.mk "storage")

/-- The name of the variable for a setting, in small letters. -/
def variableName (sect field : String) : String :=
  "duramq__" ++ sect ++ "__" ++ field

/-- A variable, if it is one of a broker's, does not take the place of a setting. -/
def Spares (sect field : String) (binding : String × String) : Prop :=
  ∀ entry ∈ environmentEntry? binding.1 binding.2, (SettingPath.ofKey entry.1).replaces sect field = false

instance Spares.decidable (sect field : String) (binding : String × String) : Decidable (Spares sect field binding) :=
  inferInstanceAs (Decidable (∀ entry ∈ environmentEntry? binding.1 binding.2, _))

/-- The environment gives a word for a setting: it has a variable of that name, in whatever case, and no other takes the place of the
setting. -/
def Gives (environment : List (String × String)) (sect field word : String) : Prop :=
  ∃ before name after, environment = before ++ (name, word) :: after ∧ name.toLower = variableName sect field ∧
    ∀ binding ∈ before ++ after, Spares sect field binding

/-- The layer that the environment makes. -/
def overrides (environment : List (String × String)) : List (String × Setting) :=
  environment.filterMap fun binding => environmentEntry? binding.1 binding.2

variable {environment : List (String × String)} {sect field name word : String} {root v w : Setting} {c : BrokerConfig}

/-- A variable with the name of a setting leads to the setting. -/
theorem exists_environmentEntry (hmem : (sect, field) ∈ settings) (hname : name.toLower = variableName sect field) (word : String) :
    ∃ key, environmentEntry? name word = some (key, ofWord word) ∧ SettingPath.ofKey key = .child (.name sect) field := by
  have hnames : ∀ setting ∈ settings, variablePrefix.isPrefixOf (variableName setting.1 setting.2).toList = true ∧
      SettingPath.ofKey (String.ofList (pointed ((variableName setting.1 setting.2).toList.drop variablePrefix.length))) =
        .child (.name setting.1) setting.2 := by
    decide +kernel
  obtain ⟨hbroker, hpath⟩ := hnames _ hmem
  refine ⟨_, ?_, hpath⟩
  unfold environmentEntry?
  rw [hname]
  exact if_pos hbroker

theorem not_hasParts_ofWord (word : String) : ¬(ofWord word).HasParts := by
  unfold ofWord
  split
  · exact id
  · split
    · exact id
    · split
      · exact id
      · split <;> exact id

/-- Entries that do not take the place of a setting leave it as it is, or put parts into it. -/
theorem exists_hasField_addLayer {layer : List (String × Setting)} (hroot : HasField root sect field (some v))
    (hv : v = w ∨ v.HasParts) (hlayer : ∀ entry ∈ layer, (SettingPath.ofKey entry.1).replaces sect field = false) :
    ∃ v, HasField (addLayer root layer) sect field (some v) ∧ (v = w ∨ v.HasParts) := by
  induction layer generalizing root v with
  | nil => exact ⟨v, hroot, hv⟩
  | cons entry layer ih =>
    rcases entry with ⟨key, value⟩
    rw [addLayer_cons]
    have hreplaces := hlayer _ List.mem_cons_self
    have hlayer (entry : String × Setting) (hmem : entry ∈ layer) := hlayer entry (List.mem_cons_of_mem _ hmem)
    by_cases henters : (SettingPath.ofKey key).enters sect field = true
    · obtain ⟨v', hroot', hparts⟩ := exists_hasField_of_enters henters value root
      exact ih hroot' (Or.inr hparts) hlayer
    · exact ih (hroot.put hreplaces (Bool.eq_false_iff.2 henters) value) hv hlayer

/-- Over whatever settings, the environment makes a setting the word that it gives for it, unless another variable leads into that. -/
theorem exists_hasField_overrides (hgives : Gives environment sect field word) (hmem : (sect, field) ∈ settings) (root : Setting) :
    ∃ v, HasField (addLayer root (overrides environment)) sect field (some v) ∧ (v = ofWord word ∨ v.HasParts) := by
  obtain ⟨before, name, after, rfl, hname, hspares⟩ := hgives
  obtain ⟨key, hentry, hkey⟩ := exists_environmentEntry hmem hname word
  have hfield : field.toLower = field := by
    have hlower : ∀ setting ∈ settings, setting.2.toLower = setting.2 := by decide +kernel
    exact hlower _ hmem
  rw [overrides, List.filterMap_append, List.filterMap_cons, hentry, addLayer_append, addLayer_cons, hkey]
  refine exists_hasField_addLayer (v := ofWord word) ?_ (Or.inl rfl) ?_
  · have hput := hasField_put_child (ofWord word) (addLayer root (overrides before)) sect field (not_hasParts_ofWord word)
    rwa [hfield] at hput
  · intro entry hentry
    obtain ⟨binding, hbinding, hentry⟩ := List.mem_filterMap.1 hentry
    exact hspares binding (List.mem_append_right _ hbinding) entry hentry

/-! ## What is read from a table -/

theorem of_server? {entries : List (String × Setting)} {s : ServerSettings} (h : server? (table entries) = some s) :
    orDefault ({} : ServerSettings).bindAddress toText? (entries.lookup "bind_address") = some s.bindAddress ∧
      orDefault ({} : ServerSettings).port port? (entries.lookup "port") = some s.port ∧
      orDefault ({} : ServerSettings).maxFrameLength count? (entries.lookup "max_frame_length") = some s.maxFrameLength ∧
      orDefault ({} : ServerSettings).idleTimeoutSeconds count? (entries.lookup "idle_timeout_secs") = some s.idleTimeoutSeconds := by
  simp only [server?, fields?, List.map_cons, List.map_nil, Option.bind_eq_bind, Option.bind_some, Option.bind_eq_some_iff] at h
  obtain ⟨address, haddress, port, hport, length, hlength, seconds, hseconds, hs⟩ := h
  obtain rfl := Option.some.inj hs
  exact ⟨haddress, hport, hlength, hseconds⟩

theorem of_storage? {entries : List (String × Setting)} {s : StorageSettings} (h : storage? (table entries) = some s) :
    orDefault ({} : StorageSettings).directory toText? (entries.lookup "directory") = some s.directory := by
  simp only [storage?, fields?, List.map_cons, List.map_nil, Option.bind_eq_bind, Option.bind_some, Option.bind_eq_some_iff] at h
  obtain ⟨directory, hdirectory, sync, -, hs⟩ := h
  obtain rfl := Option.some.inj hs
  exact hdirectory

theorem of_ofSetting? {entries : List (String × Setting)} (h : ofSetting? (table entries) = some c) :
    orDefault {} server? (entries.lookup "server") = some c.server ∧
      orDefault {} storage? (entries.lookup "storage") = some c.storage := by
  simp only [ofSetting?, fields?, List.map_cons, List.map_nil, Option.bind_eq_bind, Option.bind_some, Option.bind_eq_some_iff] at h
  obtain ⟨server, hserver, storage, hstorage, hc⟩ := h
  obtain rfl := Option.some.inj hc
  exact ⟨hserver, hstorage⟩

/-- A setting that is found in a section is one that the section is read from. -/
theorem of_hasField {entries : List (String × Setting)} (hfield : HasField (table entries) sect field (some v)) :
    ∃ inner, entries.lookup sect = some (table inner) ∧ inner.lookup field = some v := by
  rcases hfield with ⟨-, hnone⟩ | hsome
  · cases hnone
  · exact hsome

/-! ## What the settings are -/

/-- What has parts counts neither as a text nor as a number. -/
theorem toText?_of_hasParts (h : v.HasParts) : v.toText? = none := by
  cases v with
  | list items | table entries => rfl
  | nothing | boolean b | integer n | real x | text s => exact absurd h id

theorem toNatural?_of_hasParts (h : v.HasParts) : v.toNatural? = none := by
  cases v with
  | list items | table entries => rfl
  | nothing | boolean b | integer n | real x | text s => exact absurd h id

theorem textTaken_of_field {taken : String} (hv : v = ofWord word ∨ v.HasParts) (h : v.toText? = some taken) :
    TextTaken word taken := by
  rcases hv with rfl | hparts
  · exact textTaken_of_toText? h
  · rw [toText?_of_hasParts hparts] at h
    cases h

theorem numberTaken_of_field {n : Nat} (hv : v = ofWord word ∨ v.HasParts) (h : v.toNatural? = some n) :
    NumberTaken word n ∧ n < 2 ^ 64 := by
  rcases hv with rfl | hparts
  · exact ⟨numberTaken_of_toNatural? h, lt_of_toNatural? h⟩
  · rw [toNatural?_of_hasParts hparts] at h
    cases h

theorem numberTaken_of_port {port : UInt16} (hv : v = ofWord word ∨ v.HasParts) (h : port? v = some port) :
    NumberTaken word port.toNat := by
  obtain ⟨n, hn, hport⟩ := Option.bind_eq_some_iff.1 h
  obtain ⟨hlt, hport⟩ := Option.ite_none_right_eq_some.1 hport
  obtain rfl := Option.some.inj hport
  rw [UInt16.toNat_ofNat_of_lt' hlt]
  exact (numberTaken_of_field hv hn).1

theorem numberTaken_of_count {count : UInt64} (hv : v = ofWord word ∨ v.HasParts) (h : count? v = some count) :
    NumberTaken word count.toNat := by
  obtain ⟨n, hn, rfl⟩ := Option.map_eq_some_iff.1 h
  obtain ⟨htaken, hlt⟩ := numberTaken_of_field hv hn
  rwa [UInt64.toNat_ofNat_of_lt' hlt]

/-- Each setting is what its word is taken as, if the environment gives one for it. -/
structure Follows (environment : List (String × String)) (c : BrokerConfig) : Prop where
  directory : ∀ word, Gives environment "storage" "directory" word → TextTaken word c.storage.directory
  bindAddress : ∀ word, Gives environment "server" "bind_address" word → TextTaken word c.server.bindAddress
  port : ∀ word, Gives environment "server" "port" word → NumberTaken word c.server.port.toNat
  maxFrameLength : ∀ word, Gives environment "server" "max_frame_length" word → NumberTaken word c.server.maxFrameLength.toNat
  idleTimeoutSeconds : ∀ word, Gives environment "server" "idle_timeout_secs" word → NumberTaken word c.server.idleTimeoutSeconds.toNat

theorem follows_of_ofSetting? {entries : List (String × Setting)} {file : Setting}
    (hroot : addLayer file (overrides environment) = table entries) (h : ofSetting? (table entries) = some c) : Follows environment c := by
  obtain ⟨hserver, hstorage⟩ := of_ofSetting? h
  have hfield {sect field word : String} (hmem : (sect, field) ∈ settings) (hgives : Gives environment sect field word) :
      ∃ inner v, entries.lookup sect = some (table inner) ∧ inner.lookup field = some v ∧ (v = ofWord word ∨ v.HasParts) := by
    obtain ⟨v, hfield, hv⟩ := exists_hasField_overrides hgives hmem file
    rw [hroot] at hfield
    obtain ⟨inner, hsect, hlookup⟩ := of_hasField hfield
    exact ⟨inner, v, hsect, hlookup, hv⟩
  refine ⟨fun word hgives => ?_, fun word hgives => ?_, fun word hgives => ?_, fun word hgives => ?_, fun word hgives => ?_⟩
  · obtain ⟨inner, v, hsect, hlookup, hv⟩ := hfield (by decide +kernel) hgives
    rw [hsect] at hstorage
    have hdirectory := of_storage? hstorage
    rw [hlookup] at hdirectory
    exact textTaken_of_field hv hdirectory
  all_goals
    obtain ⟨inner, v, hsect, hlookup, hv⟩ := hfield (by decide +kernel) hgives
    rw [hsect] at hserver
    obtain ⟨haddress, hport, hlength, hseconds⟩ := of_server? hserver
  · rw [hlookup] at haddress
    exact textTaken_of_field hv haddress
  · rw [hlookup] at hport
    exact numberTaken_of_port hv hport
  · rw [hlookup] at hlength
    exact numberTaken_of_count hv hlength
  · rw [hlookup] at hseconds
    exact numberTaken_of_count hv hseconds

theorem exists_layer_of_ofLayers? {file : Option (FileFormat × Bytes)} (h : ofLayers? file environment = some c) :
    ∃ layer, ofSetting? (addLayer (addLayer (table []) layer) (overrides environment)) = some c := by
  unfold ofLayers? at h
  rcases file with _ | ⟨format, bytes⟩
  · exact ⟨[], h⟩
  · obtain ⟨layer, -, hread⟩ := Option.bind_eq_some_iff.1 h
    exact ⟨layer, hread⟩

/-- Whatever the file says, settings that are loaded follow the environment, or they are refused as settings. -/
theorem load_follows_environment (path : Option String) (environment : List (String × String)) (d : Disk) :
    (∃ fault, load path environment d = .error (.config fault)) ∨ ∃ c, load path environment d = .ok c ∧ Follows environment c := by
  rw [load]
  cases hlayers : ofLayers? (path.bind fun path => findFile path d) environment with
  | none => exact Or.inl ⟨_, rfl⟩
  | some c =>
    have hfollows : Follows environment c := by
      obtain ⟨layer, hread⟩ := exists_layer_of_ofLayers? hlayers
      obtain ⟨file, hfile⟩ := exists_addLayer_eq_table layer []
      obtain ⟨entries, hroot⟩ := exists_addLayer_eq_table (overrides environment) file
      rw [hfile, hroot] at hread
      exact follows_of_ofSetting? hroot hread
    dsimp only
    rw [checked]
    cases hfault : c.fault? with
    | none => exact Or.inr ⟨c, rfl, hfollows⟩
    | some fault => exact Or.inl ⟨fault, rfl⟩

/-- An environment with a port and a directory, beside something else. -/
def plainEnvironment : List (String × String) :=
  [("DURAMQ__SERVER__PORT", "4e3"), ("HOME", "/root"), ("DURAMQ__STORAGE__DIRECTORY", "/var/queue")]

/-- A file with another port. -/
def otherFile : String :=
  "[server]\nport = 1\n"

theorem load_follows_environment_plain :
    ∃ c, load (some "broker.toml") plainEnvironment (diskWith "broker.toml" otherFile) = .ok c ∧ c.server.port.toNat = 4000 ∧
      c.storage.directory = "/var/queue" := by
  rcases load_follows_environment (some "broker.toml") plainEnvironment (diskWith "broker.toml" otherFile) with
    ⟨fault, hrefused⟩ | ⟨c, hload, hfollows⟩
  · have hloaded : (load (some "broker.toml") plainEnvironment (diskWith "broker.toml" otherFile)).isOk = true := by decide +kernel
    rw [hrefused] at hloaded
    cases hloaded
  · have hport : Gives plainEnvironment "server" "port" "4e3" :=
      ⟨[], "DURAMQ__SERVER__PORT", plainEnvironment.drop 1, rfl, by decide +kernel, by decide +kernel⟩
    have hdirectory : Gives plainEnvironment "storage" "directory" "/var/queue" :=
      ⟨plainEnvironment.take 2, "DURAMQ__STORAGE__DIRECTORY", [], rfl, by decide +kernel, by decide +kernel⟩
    have hdecimal : Notation.Decimal "4e3".toList 4 3 := Real.decimal?_eq_some_iff.1 (by decide +kernel)
    have hnumber : Real.Denotes "4e3" (4000 : Nat) := ⟨[], _, false, _, _, rfl, .none, hdecimal, by norm_num [Notation.signed]⟩
    have hword : ¬ReadsAsOther "/var/queue" := by
      rintro (⟨b, hb⟩ | ⟨x, hx⟩)
      · cases b <;> revert hb <;> decide +kernel
      · rw [← Real.parse?_eq_some_iff] at hx
        revert hx
        have hnone : Real.parse? "/var/queue" = none := by decide +kernel
        rw [hnone]
        exact nofun
    exact ⟨c, hload, (hfollows.port _ hport).decimal _ hnumber (by decide) (Magnitude.precise_of_lt (by decide)),
      (hfollows.directory _ hdirectory).asWritten hword⟩

/-- What the environment alone makes of the settings. -/
def loaded (environment : List (String × String)) : Option BrokerConfig :=
  (load none environment (Disk.empty "home")).toOption

/-- A directory that reads as a number is spelled anew, a port need not be a whole number or a number at all, a number past 63 bits is
rounded, and of two variables for one setting the last counts. -/
theorem words_are_guessed :
    loaded [("DURAMQ__STORAGE__DIRECTORY", "007")] = some { storage := { directory := "7" } } ∧
      loaded [("DURAMQ__SERVER__BIND_ADDRESS", "TRUE")] = some { server := { bindAddress := "true" } } ∧
      loaded [("DURAMQ__SERVER__PORT", "80.4")] = some { server := { port := 80 } } ∧
      loaded [("DURAMQ__SERVER__PORT", "-5.0")] = some { server := { port := 0 } } ∧
      loaded [("DURAMQ__SERVER__IDLE_TIMEOUT_SECS", "yes")] = some { server := { idleTimeoutSeconds := 1 } } ∧
      loaded [("DURAMQ__SERVER__MAX_FRAME_LENGTH", "9223372036854775809")] =
        some { server := { maxFrameLength := 9223372036854775808 } } ∧
      loaded [("DURAMQ__STORAGE__DIRECTORY", "a"), ("duramq__storage__directory", "b")] =
        some { storage := { directory := "b" } } := by
  refine ⟨by decide +kernel, by decide +kernel, by decide +kernel, by decide +kernel, by decide +kernel, by decide +kernel, ?_⟩
  have hkey : String.ofList (pointed ("duramq__storage__directory".toList.drop variablePrefix.length)) = "storage.directory" := by
    decide +kernel
  have hentry (name word : String) (hname : name.toLower = "duramq__storage__directory") :
      environmentEntry? name word = some ("storage.directory", ofWord word) := by
    unfold environmentEntry?
    rw [hname]
    dsimp only
    rw [hkey]
    exact if_pos (by decide +kernel)
  have hoverrides : overrides [("DURAMQ__STORAGE__DIRECTORY", "a"), ("duramq__storage__directory", "b")] =
      [("storage.directory", ofWord "a"), ("storage.directory", ofWord "b")] := by
    rw [overrides, List.filterMap_cons, hentry _ _ (by decide +kernel), List.filterMap_cons, hentry _ _ (by decide +kernel),
      List.filterMap_nil]
  have hread : ofSetting? (addLayer (table []) [("storage.directory", ofWord "a"), ("storage.directory", ofWord "b")]) =
      some { storage := { directory := "b" } } := by
    decide +kernel
  have hlayers (environment : List (String × String)) :
      ofLayers? none environment = ofSetting? (addLayer (table []) (overrides environment)) := rfl
  have hfault : fault? { storage := { directory := "b" } } = none := by decide +kernel
  rw [loaded, load, Option.bind_none, hlayers, hoverrides, hread]
  dsimp only
  rw [checked, hfault]
  rfl

end QueueBroker.BrokerConfig

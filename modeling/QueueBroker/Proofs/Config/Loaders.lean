import QueueBroker.Proofs.Config.Sections
import QueueBroker.Proofs.Text.Utf8

/-!
# Two loaders of one file

`fromFile` reads a TOML file strictly: keys count as they are written, and others than those of settings are passed over. `load` reads
it as a layer: keys count in lower case, and at the top as paths. Where no key of the file can be taken both ways, which `Plain` says,
what the first loader makes of a file the second makes of it too.
-/

namespace QueueBroker

open Json.Shape Setting

variable {sect name : String} {names : List String} {entries inner : List (String × Toml)} {root : Setting} {v : Toml}

/-! ## Layers -/

namespace BrokerConfig

theorem addLayer_append (root : Setting) (before after : List (String × Setting)) :
    addLayer root (before ++ after) = addLayer (addLayer root before) after := by
  simp [addLayer]

theorem addLayer_cons (root : Setting) (key : String) (value : Setting) (layer : List (String × Setting)) :
    addLayer root ((key, value) :: layer) = addLayer (put (.ofKey key) value root) layer := rfl

/-- A layer changes no setting that none of its keys leads to. -/
theorem hasField_addLayer {layer : List (String × Setting)} {old : Option Setting} (h : HasField root sect name old)
    (hlayer : ∀ entry ∈ layer, (SettingPath.ofKey entry.1).replaces sect name = false ∧
      (SettingPath.ofKey entry.1).enters sect name = false) :
    HasField (addLayer root layer) sect name old := by
  induction layer generalizing root with
  | nil => exact h
  | cons entry layer ih =>
    rcases entry with ⟨key, value⟩
    obtain ⟨hreplaces, henters⟩ := hlayer _ List.mem_cons_self
    exact ih (h.put hreplaces henters value) fun entry hmem => hlayer entry (List.mem_cons_of_mem _ hmem)

/-- It leaves a section alone that none of its keys leads into. -/
theorem lookup_addLayer {layer : List (String × Setting)}
    (hlayer : ∀ entry ∈ layer, (SettingPath.ofKey entry.1).within sect = false) :
    (addLayer root layer).entries.lookup sect = root.entries.lookup sect := by
  induction layer generalizing root with
  | nil => rfl
  | cons entry layer ih =>
    rcases entry with ⟨key, value⟩
    rw [addLayer_cons, ih fun entry hmem => hlayer entry (List.mem_cons_of_mem _ hmem)]
    exact lookup_put_of_within (hlayer _ List.mem_cons_self) value root

end BrokerConfig

/-! ## Plain files -/

namespace Toml

/-- Whether the value of a section can be taken one way only. In a table no key differs from the name of a setting in case only, beside a
list no other key of the document leads into the section, and a date, which has parts strictly but not loosely, does not stand there. -/
def PlainSection (entries : List (String × Toml)) (sect : String) (names : List String) : Toml → Prop
  | table inner => ∀ entry ∈ inner, entry.1.toLower ∈ names → entry.1.toLower = entry.1
  | list _ => ∀ entry ∈ entries, entry.1 ≠ sect → (SettingPath.ofKey entry.1).within sect = false
  | moment _ => False
  | text _ | integer _ | real _ | boolean _ => True

instance PlainSection.decidable (entries : List (String × Toml)) (sect : String) (names : List String) :
    (v : Toml) → Decidable (PlainSection entries sect names v)
  | table inner => inferInstanceAs (Decidable (∀ entry ∈ inner, entry.1.toLower ∈ names → entry.1.toLower = entry.1))
  | list _ =>
    inferInstanceAs (Decidable (∀ entry ∈ entries, entry.1 ≠ sect → (SettingPath.ofKey entry.1).within sect = false))
  | moment _ => isFalse id
  | text _ | integer _ | real _ | boolean _ => isTrue trivial

/-- Whether the keys of a document can be taken one way only as to a section and its settings. -/
structure Plain (entries : List (String × Toml)) (sect : String) (names : List String) : Prop where
  /-- Taken as a path, no key but that of the section leads to a setting of it or takes the place of one. -/
  keys : ∀ entry ∈ entries, entry.1 ≠ sect → ∀ name ∈ names,
    (SettingPath.ofKey entry.1).replaces sect name = false ∧ (SettingPath.ofKey entry.1).enters sect name = false
  value : ∀ entry ∈ entries, entry.1 = sect → PlainSection entries sect names entry.2

instance Plain.decidable (entries : List (String × Toml)) (sect : String) (names : List String) :
    Decidable (Plain entries sect names) :=
  decidable_of_iff ((∀ entry ∈ entries, entry.1 ≠ sect → ∀ name ∈ names,
      (SettingPath.ofKey entry.1).replaces sect name = false ∧ (SettingPath.ofKey entry.1).enters sect name = false) ∧
      ∀ entry ∈ entries, entry.1 = sect → PlainSection entries sect names entry.2)
    ⟨fun h => ⟨h.1, h.2⟩, fun h => ⟨h.1, h.2⟩⟩

end Toml

namespace Setting

theorem merge_of_not_hasParts {value : Setting} (h : ¬value.HasParts) (old : Setting) : merge value old = value := by
  cases value with
  | table entries | list items => exact absurd trivial h
  | nothing | boolean b | integer n | real x | text s => rfl

/-- In a table that is merged a setting has the value that is given, if any, and else what it had. -/
theorem lookup_putAll_of_given (hgiven : Given inner name (inner.lookup name)) (hname : name.toLower = name)
    (hcases : ∀ entry ∈ inner, entry.1.toLower = name → entry.1 = name)
    (hscalar : ∀ v, inner.lookup name = some v → ¬(ofToml v).HasParts) (hroot : root.entries.lookup name = none) :
    (putAll (ofTomlEntries inner) root).entries.lookup name = (inner.lookup name).map ofToml := by
  rw [ofTomlEntries_eq_map]
  have hothers (part : List (String × Toml)) (hsub : part ⊆ inner) (hne : ∀ entry ∈ part, entry.1 ≠ name) (root : Setting) :
      (putAll (part.map fun entry => (entry.1, ofToml entry.2)) root).entries.lookup name = root.entries.lookup name := by
    refine lookup_putAll_of_ne _ root fun entry hmem hlower => ?_
    obtain ⟨entry, hentry, rfl⟩ := List.mem_map.1 hmem
    exact hne entry hentry (hcases entry (hsub hentry) hlower)
  generalize hlookup : inner.lookup name = found at hgiven hscalar
  cases hgiven with
  | absent habsent =>
    rw [hothers inner (List.Subset.refl _) habsent, hroot]
    rfl
  | @once before after v heq hne =>
    subst heq
    have hafter := hothers after (fun entry hmem => List.mem_append_right _ (List.mem_cons_of_mem _ hmem)) fun entry hmem =>
      hne entry (List.mem_append_right _ hmem)
    rw [List.map_append, putAll_append, List.map_cons, putAll, hafter, lookup_putName, if_pos hname.symm,
      merge_of_not_hasParts (hscalar v rfl)]
    rfl

/-- What a section gives whose settings are known one by one. -/
theorem fields?_of_hasField {value : String → Option Setting} (hne : names ≠ [])
    (h : ∀ name ∈ names, HasField root sect name (value name)) :
    ((root.entries.lookup sect).getD (table [])).fields? names = some (names.map value) := by
  have htable : ∃ entries, (root.entries.lookup sect).getD (table []) = table entries := by
    obtain ⟨name, hname⟩ := List.exists_mem_of_ne_nil names hne
    rcases h name hname with ⟨hnone, -⟩ | ⟨entries, hsome, -⟩
    · exact ⟨[], by rw [hnone]; rfl⟩
    · exact ⟨entries, by rw [hsome]; rfl⟩
  obtain ⟨entries, htable⟩ := htable
  rw [htable, fields?, Option.some_inj]
  refine List.map_congr_left fun name hname => ?_
  have hfield := (h name hname).lookup_getD
  rwa [htable] at hfield

end Setting

namespace BrokerConfig

/-- The settings that the entries of a file make alone. -/
def ofEntries (entries : List (String × Toml)) : Setting :=
  addLayer (table []) (ofTomlEntries entries)

/-- A section that is put as a table has the settings that are merged into it. -/
theorem hasField_put_table {layer : List (String × Setting)} {old value : Option Setting} (h : HasField root sect name old)
    (hsect : sect.toLower = sect)
    (hvalue : (putAll layer ((root.entries.lookup sect).getD (table []))).entries.lookup name = value) :
    HasField (put (.name sect) (table layer) root) sect name value := by
  have hput : (put (.name sect) (table layer) root).entries.lookup sect =
      some (putAll layer ((root.entries.lookup sect).getD (table []))) := by
    rw [put, lookup_putName, hsect, if_pos rfl]
    rfl
  have hmerged : ∃ merged, putAll layer ((root.entries.lookup sect).getD (table [])) = table merged := by
    rcases h with ⟨hnone, -⟩ | ⟨entries, hsome, -⟩
    · rw [hnone]
      exact exists_putAll_eq_table layer []
    · rw [hsome]
      exact exists_putAll_eq_table layer entries
  obtain ⟨merged, hmerged⟩ := hmerged
  rw [hmerged] at hput hvalue
  exact Or.inr ⟨merged, hput, hvalue⟩

section Plain

variable (hplain : Toml.Plain entries sect names)
include hplain

/-- Entries other than that of the section change none of its settings. -/
theorem hasField_addLayer_others {part : List (String × Toml)} (hsub : part ⊆ entries) (hne : ∀ entry ∈ part, entry.1 ≠ sect)
    (hname : name ∈ names) {old : Option Setting} (h : HasField root sect name old) :
    HasField (addLayer root (ofTomlEntries part)) sect name old := by
  refine hasField_addLayer h fun entry hmem => ?_
  rw [ofTomlEntries_eq_map] at hmem
  obtain ⟨entry, hentry, rfl⟩ := List.mem_map.1 hmem
  exact hplain.keys entry (hsub hentry) (hne entry hentry) name hname

/-- A section that the file does not have has no settings, -/
theorem hasField_of_absent (habsent : ∀ entry ∈ entries, entry.1 ≠ sect) (hname : name ∈ names) :
    HasField (ofEntries entries) sect name none :=
  hasField_addLayer_others hplain (List.Subset.refl _) habsent hname (Or.inl ⟨rfl, rfl⟩)

variable {before after : List (String × Toml)} (heq : entries = before ++ (sect, v) :: after)
  (hothers : ∀ entry ∈ before ++ after, entry.1 ≠ sect) (hkey : SettingPath.ofKey sect = .name sect)
include heq hothers hkey

omit hplain hothers in
theorem ofEntries_eq : ofEntries entries = addLayer (put (.name sect) (ofToml v) (ofEntries before)) (ofTomlEntries after) := by
  rw [heq, ofEntries, ofEntries, ofTomlEntries_eq_map, ofTomlEntries_eq_map, ofTomlEntries_eq_map, List.map_append, addLayer_append,
    List.map_cons, addLayer_cons, hkey]

/-- one that is a table has those that are given in it, -/
theorem hasField_of_table (hv : v = .table inner) (hsect : sect.toLower = sect) (hname : name ∈ names) (hlower : name.toLower = name)
    (hgiven : Given inner name (inner.lookup name)) (hscalar : ∀ v, inner.lookup name = some v → ¬(ofToml v).HasParts) :
    HasField (ofEntries entries) sect name ((inner.lookup name).map ofToml) := by
  subst hv
  have hmem : (sect, .table inner) ∈ entries := by
    rw [heq]
    exact List.mem_append_right _ List.mem_cons_self
  have hbefore : HasField (ofEntries before) sect name none :=
    hasField_addLayer_others hplain (fun entry h => heq ▸ List.mem_append_left _ h)
      (fun entry h => hothers entry (List.mem_append_left _ h)) hname (Or.inl ⟨rfl, rfl⟩)
  have hcases (entry : String × Toml) (hentry : entry ∈ inner) (hcase : entry.1.toLower = name) : entry.1 = name := by
    rw [← hcase]
    exact (hplain.value _ hmem rfl entry hentry (hcase ▸ hname)).symm
  rw [ofEntries_eq heq hkey]
  refine hasField_addLayer_others hplain (fun entry h => heq ▸ List.mem_append_right _ (List.mem_cons_of_mem _ h))
    (fun entry h => hothers entry (List.mem_append_right _ h)) hname ?_
  exact hasField_put_table hbefore hsect (lookup_putAll_of_given hgiven hlower hcases hscalar hbefore.lookup_getD)

/-- and one that is a list is that list. -/
theorem lookup_of_list {items : List Toml} (hv : v = .list items) (hsect : sect.toLower = sect) :
    (ofEntries entries).entries.lookup sect = some (.list (ofTomlItems items)) := by
  subst hv
  have hmem : (sect, .list items) ∈ entries := by
    rw [heq]
    exact List.mem_append_right _ List.mem_cons_self
  rw [ofEntries_eq heq hkey, lookup_addLayer, put, lookup_putName, hsect, if_pos rfl]
  · rfl
  · intro entry hentry
    rw [ofTomlEntries_eq_map] at hentry
    obtain ⟨other, hother, rfl⟩ := List.mem_map.1 hentry
    refine hplain.value _ hmem rfl other ?_ (hothers other (List.mem_append_right _ hother))
    rw [heq]
    exact List.mem_append_right _ (List.mem_cons_of_mem _ hother)

end Plain

/-! ## Sections that are read both ways -/

/-- A section with two readings that agree. -/
structure Agrees {α : Type} (fields : List (String × Option Json × Json.Shape)) (strict : Json → Option α) (loose : Setting → Option α)
    (default : α) : Prop where
  /-- What passes strictly counts as the same loosely. -/
  agree : ∀ (given : List (Option Toml)) (values : List Json) (v : Setting),
    TakesAll (fields.map fun field => (field.2.1, field.2.2.conform .settings)) (given.map (·.map Toml.toJson)) values →
    v.fields? (fields.map (·.1)) = some (given.map (·.map ofToml)) →
    ∃ a, strict (.object ((fields.map (·.1)).zip values)) = some a ∧ loose v = some a
  /-- Only the settings count, -/
  congr : ∀ v w : Setting, v.fields? (fields.map (·.1)) = w.fields? (fields.map (·.1)) → loose v = loose w
  /-- which are scalars, -/
  scalars : ∀ field ∈ fields, ∀ v value, field.2.2.conform .settings (Toml.toJson v) = .ok value → ¬(ofToml v).HasParts
  /-- and without any the section is the default. -/
  default : loose (table []) = some default
  names : (fields.map (·.1)).Nodup ∧ fields ≠ [] ∧ ∀ field ∈ fields, field.1.toLower = field.1

theorem takes_of_takesAll {fields : List (String × Option Json × Json.Shape)} {given : String → Option Json} {values : List Json}
    (h : TakesAll (fields.map fun field => (field.2.1, field.2.2.conform .settings)) (fields.map fun field => given field.1) values)
    {field : String × Option Json × Json.Shape} (hmem : field ∈ fields) :
    ∃ value, Takes field.2.1 (field.2.2.conform .settings) (given field.1) value := by
  induction fields generalizing values with
  | nil => cases hmem
  | cons first fields ih =>
    rw [List.map_cons, List.map_cons] at h
    cases h with
    | cons hfirst hrest =>
      rcases List.mem_cons.1 hmem with rfl | hmem
      · exact ⟨_, hfirst⟩
      · exact ih hrest hmem

section Agrees

variable {α : Type} {fields : List (String × Option Json × Json.Shape)} {title : String} {strict : Json → Option α}
  {loose : Setting → Option α} {default : α} {document value : Json} (ha : Agrees fields strict loose default)
  (hplain : Toml.Plain entries sect (fields.map (·.1))) (hkey : SettingPath.ofKey sect = .name sect) (hsect : sect.toLower = sect)
include ha hplain hkey hsect

/-- What a section of a plain file gives for its settings strictly it gives loosely. -/
theorem Agrees.fields?_eq {before after : List (String × Toml)} (heq : entries = before ++ (sect, v) :: after)
    (hothers : ∀ entry ∈ before ++ after, entry.1 ≠ sect) {given : List (Option Toml)} {values : List Json}
    (hgiven : GivenIn v (fields.map (·.1)) given)
    (htakes : TakesAll (fields.map fun field => (field.2.1, field.2.2.conform .settings)) (given.map (·.map Toml.toJson)) values) :
    (((ofEntries entries).entries.lookup sect).getD (table [])).fields? (fields.map (·.1)) = some (given.map (·.map ofToml)) := by
  cases hgiven with
  | @table inner _ hgiven =>
    have hfield (name : String) (hname : name ∈ fields.map (·.1)) :
        HasField (ofEntries entries) sect name ((inner.lookup name).map ofToml) := by
      obtain ⟨field, hfield, rfl⟩ := List.mem_map.1 hname
      refine hasField_of_table hplain heq hothers hkey rfl hsect hname (ha.names.2.2 field hfield) (hgiven _ hname) fun v hv => ?_
      rw [List.map_map, List.map_map] at htakes
      obtain ⟨value, htakes⟩ := takes_of_takesAll htakes hfield
      dsimp only [Function.comp] at htakes
      rw [hv] at htakes
      cases htakes with
      | given hcheck => exact ha.scalars field hfield v value hcheck
    rw [fields?_of_hasField (by simpa using ha.names.2.1) hfield]
    simp
  | @list items =>
    rw [lookup_of_list hplain heq hothers hkey rfl hsect, Option.getD_some, fields?, ofTomlItems_eq_map, List.map_map]
    refine congrArg some (List.ext_getElem (by simp) fun place _ _ => ?_)
    simp

/-- A section of a plain file that passes strictly is read loosely as the same. -/
theorem Agrees.orDefault_eq (hdocument : strict document = some default) (hgiven : Given entries sect (entries.lookup sect))
    (h : Takes (some document) ((Json.Shape.record title fields).conform .settings) ((entries.lookup sect).map Toml.toJson) value) :
    ∃ a, strict value = some a ∧ orDefault default loose ((ofEntries entries).entries.lookup sect) = some a := by
  have hdefault (found : Option Setting) : orDefault default loose found = loose (found.getD (table [])) := by
    cases found with
    | none => exact ha.default.symm
    | some v => rfl
  rw [hdefault]
  generalize hlookup : entries.lookup sect = found at hgiven h
  cases hgiven with
  | absent habsent =>
    cases h with
    | default hvalue =>
      obtain rfl := Option.some.inj hvalue
      refine ⟨default, hdocument, ?_⟩
      rw [← ha.default]
      refine ha.congr _ _ ?_
      rw [fields?_of_hasField (by simpa using ha.names.2.1) fun name hname => hasField_of_absent hplain habsent hname]
      rfl
  | @once before after v heq hothers =>
    cases h with
    | given hvalue =>
      have hmoment (s : String) : v ≠ .moment s := by
        rintro rfl
        refine hplain.value (sect, .moment s) ?_ rfl
        rw [heq]
        exact List.mem_append_right _ List.mem_cons_self
      obtain ⟨given, values, hgiven, rfl, htakes⟩ := exists_givenIn ha.names.1 hmoment hvalue
      exact ha.agree given values _ htakes (ha.fields?_eq hplain hkey hsect heq hothers hgiven htakes)

end Agrees

theorem server_agrees : Agrees serverFields ServerSettings.ofJson? server? {} where
  agree _ _ _ h hv := server?_of_takesAll h hv
  congr v w h := by
    change v.fields? ["bind_address", "port", "max_frame_length", "idle_timeout_secs"] = _ at h
    unfold server?
    rw [h]
    rfl
  scalars := by
    intro field hmem v value h
    simp only [serverFields, List.mem_cons, List.not_mem_nil, or_false] at hmem
    rcases hmem with rfl | rfl | rfl | rfl
    · obtain ⟨s, rfl, -⟩ := Toml.of_conform_text h
      exact id
    all_goals
      obtain ⟨n, rfl, -⟩ := Toml.of_conform_integer h
      exact id
  default := rfl
  names := by decide +kernel

theorem storage_agrees : Agrees storageFields StorageSettings.ofJson? storage? {} where
  agree _ _ _ h hv := storage?_of_takesAll h hv
  congr v w h := by
    change v.fields? ["directory", "sync_on_write"] = _ at h
    unfold storage?
    rw [h]
    rfl
  scalars := by
    intro field hmem v value h
    simp only [storageFields, List.mem_cons, List.not_mem_nil, or_false] at hmem
    rcases hmem with rfl | rfl
    · obtain ⟨s, rfl, -⟩ := Toml.of_conform_text h
      exact id
    · obtain ⟨b, rfl, -⟩ := Toml.of_conform_boolean h
      exact id
  default := rfl
  names := by decide +kernel

/-! ## Whole files -/

/-- Whether a document can be taken one way only. -/
def PlainEntries (entries : List (String × Toml)) : Prop :=
  Toml.Plain entries "server" serverNames ∧ Toml.Plain entries "storage" storageNames

instance PlainEntries.decidable (entries : List (String × Toml)) : Decidable (PlainEntries entries) :=
  inferInstanceAs (Decidable (_ ∧ _))

theorem exists_addLayer_eq_table (layer : List (String × Setting)) (entries : List (String × Setting)) :
    ∃ merged, addLayer (table entries) layer = table merged := by
  induction layer generalizing entries with
  | nil => exact ⟨entries, rfl⟩
  | cons entry layer ih =>
    rcases entry with ⟨key, value⟩
    obtain ⟨first, rest, htarget⟩ := (SettingPath.ofKey key).exists_target_eq
    rw [addLayer_cons, put_eq_alter, htarget, alter]
    exact ih _

/-- The settings of a plain document are the same loosely. -/
theorem ofSetting?_ofEntries {c : BrokerConfig} (hplain : PlainEntries entries) {value : Json}
    (hconform : shape.conform .settings (Toml.table entries).toJson = .ok value) (hvalue : ofJson? value = some c) :
    ofSetting? (ofEntries entries) = some c := by
  have hnodup : (sections.map (·.1)).Nodup := by decide
  have hmoment (s : String) : Toml.table entries ≠ .moment s := nofun
  rw [shape_eq] at hconform
  obtain ⟨given, values, hgiven, rfl, htakes⟩ := exists_givenIn hnodup hmoment hconform
  cases hgiven with
  | table hgiven =>
    obtain ⟨_, _, server, _, hfirst, rfl, hserver, htakes⟩ := htakes.exists_cons
    obtain ⟨_, _, storage, _, hsecond, rfl, hstorage, htakes⟩ := htakes.exists_cons
    obtain ⟨rfl, rfl⟩ := htakes.eq_nil
    obtain ⟨rfl, hrest⟩ := List.cons.inj hfirst
    rw [← hrest] at hsecond
    obtain ⟨rfl, -⟩ := List.cons.inj hsecond
    obtain ⟨server', hserver, hserver'⟩ := server_agrees.orDefault_eq hplain.1 (by decide +kernel) (by decide +kernel) rfl
      (hgiven "server" (by decide)) hserver
    obtain ⟨storage', hstorage, hstorage'⟩ := storage_agrees.orDefault_eq hplain.2 (by decide +kernel) (by decide +kernel) rfl
      (hgiven "storage" (by decide)) hstorage
    have hc : some (BrokerConfig.mk server' storage') = some c := by
      rw [← hvalue]
      change _ = (do some ⟨← ServerSettings.ofJson? server, ← StorageSettings.ofJson? storage⟩ : Option BrokerConfig)
      rw [hserver, hstorage]
      rfl
    have hfields : (ofEntries entries).fields? ["server", "storage"] =
        some [(ofEntries entries).entries.lookup "server", (ofEntries entries).entries.lookup "storage"] := by
      obtain ⟨merged, hroot⟩ := exists_addLayer_eq_table (ofTomlEntries entries) []
      rw [ofEntries, hroot]
      rfl
    rw [← hc]
    simp [ofSetting?, hfields, hserver', hstorage']

/-- Whether the document in a file can be taken one way only. -/
def PlainFile (bytes : Bytes) : Prop :=
  ∀ s entries, Utf8.decode bytes = .ok s → Toml.parse? s = some entries → PlainEntries entries

/-- A name has the ending that stands after its last point, unless it begins with that. -/
theorem ending?_eq {path stem ending : String} (hname : (Disk.names path).getLast? = some (stem ++ "." ++ ending)) (hstem : stem ≠ "")
    (hending : '.' ∉ ending.toList) : ending? path = some ending := by
  have hparts : (stem ++ "." ++ ending).toList.splitOn '.' = stem.toList.splitOn '.' ++ [ending.toList] := by
    have hlist : (stem ++ "." ++ ending).toList = stem.toList ++ '.' :: ending.toList := by simp
    rw [hlist, List.splitOn_append_cons_self, List.splitOn_eq_singleton hending]
  rw [ending?, hname]
  simp only [bind, Option.bind, hparts]
  split
  · rename_i last hsplit
    have hsplit : stem.toList.splitOn '.' ++ [ending.toList] = [] ++ [last] := hsplit
    exact absurd (List.append_inj' hsplit rfl).1 (List.splitOn_ne_nil _ _)
  · rename_i last hsplit
    have hsplit : stem.toList.splitOn '.' ++ [ending.toList] = [[]] ++ [last] := hsplit
    have hjoined : ['.'].intercalate (stem.toList.splitOn '.') = stem.toList := List.intercalate_splitOn '.'
    rw [(List.append_inj' hsplit rfl).1, List.intercalate_singleton] at hjoined
    exact absurd (String.toList_injective hjoined.symm) hstem
  · simp

/-- A regular file of that ending is the one that is loaded. -/
theorem findFile_eq {path ending : String} {bytes : Bytes} {format : FileFormat} {d : Disk} (hending : ending? path = some ending)
    (hformat : FileFormat.ofEnding? ending = some format) (hfile : regular? d path = some bytes) :
    findFile path d = some (format, bytes) := by
  simp [findFile, hfile, hending, hformat]

theorem contentsAt_of_regular? {path : String} {bytes : Bytes} {d : Disk} (hfile : regular? d path = some bytes) :
    d.contentsAt path = .ok bytes := by
  unfold regular? at hfile
  unfold Disk.contentsAt
  split at hfile
  · rename_i hresolve
    rw [hresolve]
    exact congrArg Except.ok (Option.some.inj hfile)
  · cases hfile

theorem eq_of_checked {read c : BrokerConfig} (h : read.checked = .ok c) : read = c := by
  rw [checked] at h
  split at h
  · cases h
  · exact Except.ok.inj h

/-- What is read from a text strictly is its document, which has the shape of settings. -/
theorem exists_of_ofToml? {s : String} {c : BrokerConfig} (h : ofToml? s = some c) :
    ∃ entries value, Toml.parse? s = some entries ∧ shape.conform .settings (Toml.table entries).toJson = .ok value ∧
      ofJson? value = some c := by
  rw [ofToml?] at h
  obtain ⟨entries, hparse, h⟩ := Option.bind_eq_some_iff.1 h
  cases hconform : shape.conform .settings (Toml.table entries).toJson with
  | error e =>
    rw [hconform] at h
    cases h
  | ok value =>
    rw [hconform] at h
    exact ⟨entries, value, hparse, hconform, h⟩

/-- What is read from a file strictly is what its text says, and breaks no rule. -/
theorem exists_of_ofFile {bytes : Bytes} {c : BrokerConfig} (h : ofFile bytes = .ok c) :
    ∃ s, Utf8.decode bytes = .ok s ∧ ofToml? s = some c ∧ c.checked = .ok c := by
  unfold ofFile at h
  split at h
  · cases h
  · rename_i s hdecode
    split at h
    · cases h
    · rename_i read hread
      obtain rfl := eq_of_checked h
      exact ⟨s, hdecode, hread, h⟩

/-- Both loaders make the same of a regular file of TOML that can be taken one way only. -/
theorem load_of_fromFile {path stem : String} {environment : List (String × String)} {d : Disk} {bytes : Bytes} {c : BrokerConfig}
    (hname : (Disk.names path).getLast? = some (stem ++ ".toml")) (hstem : stem ≠ "")
    (henvironment : ∀ entry ∈ environment, variablePrefix.isPrefixOf entry.1.toLower.toList = false)
    (hfile : regular? d path = some bytes) (hplain : PlainFile bytes) (h : fromFile path d = .ok c) :
    load (some path) environment d = .ok c := by
  have hending : ending? path = some "toml" := ending?_eq (by rwa [String.append_assoc]) hstem (by decide)
  have hfound : findFile path d = some (.toml, bytes) := findFile_eq hending (by decide) hfile
  have hoverrides : environment.filterMap (fun entry => environmentEntry? entry.1 entry.2) = [] := by
    refine List.filterMap_eq_nil_iff.2 fun entry hmem => ?_
    unfold environmentEntry?
    simp [henvironment entry hmem]
  rw [fromFile, contentsAt_of_regular? hfile] at h
  obtain ⟨s, hdecode, hread, hchecked⟩ := exists_of_ofFile h
  obtain ⟨entries, value, hparse, hconform, hvalue⟩ := exists_of_ofToml? hread
  have hentries : fileEntries? .toml bytes = some (ofTomlEntries entries) := by
    simp [fileEntries?, textEntries?, hdecode, hparse]
  have hlayers : ofLayers? (some (.toml, bytes)) environment = some c := by
    have hloose := ofSetting?_ofEntries (hplain s entries hdecode hparse) hconform hvalue
    rw [ofLayers?]
    simp only [hentries, hoverrides, Option.bind_eq_bind, Option.bind_some]
    exact hloose
  rw [load, Option.bind_some, hfound, hlayers]
  exact hchecked

/-- A disk with one file of a text. -/
def diskWith (name text : String) : Disk :=
  { Disk.empty "home" with
    nodes := (Disk.empty "home").nodes ++ [(["home", name], .file 0)]
    files := [Utf8.encode text] }

/-- A file with a port, a directory, and entries that are no settings. -/
def notedFile : String :=
  "note = 1\n[server]\nport = 4000\nmotd = \"hi\"\n[storage]\ndirectory = \"d\"\n"

theorem plainFile_encode {text : String} (h : (Toml.parse? text).all (fun entries => decide (PlainEntries entries)) = true) :
    PlainFile (Utf8.encode text) := by
  intro s entries hdecode hparse
  have htext : Utf8.decode (Utf8.encode text) = .ok text := by
    rw [Utf8.encode, Utf8.decode_flatMap, String.ofList_toList]
  rw [htext] at hdecode
  obtain rfl := Except.ok.inj hdecode
  rw [hparse] at h
  simpa using h

theorem eq_ok_of_toOption {ε α : Type} {result : Except ε α} {a : α} (h : result.toOption = some a) : result = .ok a := by
  cases result with
  | error e => cases h
  | ok b => exact congrArg Except.ok (Option.some.inj h)

theorem load_of_fromFile_notedFile :
    PlainFile (Utf8.encode notedFile) ∧
      fromFile "broker.toml" (diskWith "broker.toml" notedFile) = .ok { server := { port := 4000 }, storage := { directory := "d" } } ∧
      load (some "broker.toml") [("HOME", "/root")] (diskWith "broker.toml" notedFile) =
        .ok { server := { port := 4000 }, storage := { directory := "d" } } := by
  have hplain : PlainFile (Utf8.encode notedFile) := plainFile_encode (by decide +kernel)
  have hfile : fromFile "broker.toml" (diskWith "broker.toml" notedFile) =
      .ok { server := { port := 4000 }, storage := { directory := "d" } } :=
    eq_ok_of_toOption (by decide +kernel)
  have hname : (Disk.names "broker.toml").getLast? = some ("broker" ++ ".toml") := by decide +kernel
  exact ⟨hplain, hfile, load_of_fromFile hname (by decide) (by decide +kernel) (by decide +kernel) hplain hfile⟩

/-- What the two loaders make of a file, each for itself. -/
def bothOf (name text : String) : Option BrokerConfig × Option BrokerConfig :=
  ((fromFile name (diskWith name text)).toOption, (load (some name) [] (diskWith name text)).toOption)

/-- Of other files they make different settings: a key counts in capitals for one loader only, and so does a path; a date stands for a
section without settings for the other only, which alone reads a file whose name is nothing but the ending. -/
theorem loaders_disagree :
    bothOf "broker.toml" "[server]\nPORT = 4000\n" = (some {}, some { server := { port := 4000 } }) ∧
      bothOf "broker.toml" "\"server.port\" = 4000\n" = (some {}, some { server := { port := 4000 } }) ∧
      bothOf "broker.toml" "server = 1979-05-27\n" = (some {}, none) ∧
      bothOf ".toml" "[server]\nport = 4000\n" = (some { server := { port := 4000 } }, some {}) := by
  decide +kernel

end BrokerConfig

end QueueBroker

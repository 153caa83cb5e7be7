import Mathlib.Data.List.Basic
import QueueBroker.Config.Path

/-!
# Where values are put

A path is followed from its end when a value is put. `Setting.alter` follows the same steps from the root, and `put_eq_alter` says that
both come to the same. So what a value takes the place of, and what it leaves alone, shows in the first steps of its path: the name of a
section and that of a setting in it.
-/

namespace QueueBroker

namespace SettingPath

/-- A step on the way into settings. -/
inductive Step where
  | key (key : String)
  | place (place : Int)
deriving DecidableEq, Repr

/-- The steps of a path, from the root. -/
def steps : SettingPath → List Step
  | name key => [.key key]
  | child parent key => parent.steps ++ [.key key]
  | item parent place => parent.steps ++ [.place place]

/-- The steps to where a value is put, which is under a name in lower case. -/
def target : SettingPath → List Step
  | name key => [.key key.toLower]
  | child parent key => parent.steps ++ [.key key.toLower]
  | item parent place => parent.steps ++ [.place place]

/-- Every path begins with a name. -/
theorem exists_steps_eq (path : SettingPath) : ∃ key steps, path.steps = .key key :: steps := by
  induction path with
  | name key => exact ⟨key, [], rfl⟩
  | child parent key ih | item parent key ih =>
    obtain ⟨first, rest, h⟩ := ih
    exact ⟨first, _, by rw [steps, h, List.cons_append]⟩

theorem exists_target_eq (path : SettingPath) : ∃ key steps, path.target = .key key :: steps := by
  cases path with
  | name key => exact ⟨_, [], rfl⟩
  | child parent key | item parent key =>
    obtain ⟨first, rest, h⟩ := parent.exists_steps_eq
    exact ⟨first, _, by rw [target, h, List.cons_append]⟩

/-- Whether a value that is put by a path may take the place of a setting of a section: of the setting itself, of the section with
all that is in it, or of an item of the section, which becomes a list then. -/
def replaces (sect field : String) (path : SettingPath) : Bool :=
  match path.target with
  | [.key first] => first == sect
  | .key first :: .place _ :: _ => first == sect
  | [.key first, .key second] => first == sect && second == field
  | _ => false

/-- Whether a path leads on into a setting of a section. -/
def enters (sect field : String) (path : SettingPath) : Bool :=
  match path.target with
  | .key first :: .key second :: _ :: _ => first == sect && second == field
  | _ => false

/-- Whether a path leads to a section or into it. -/
def within (sect : String) (path : SettingPath) : Bool :=
  path.target.head? == some (.key sect)

end SettingPath

namespace Setting

open SettingPath

variable {root value : Setting} {entries : List (String × Setting)} {path : SettingPath} {key name sect field : String}
  {f : Setting → Setting}

/-! ## Entries -/

theorem lookup_cons_eq (key : String) (value : Setting) (entries : List (String × Setting)) (name : String) :
    ((key, value) :: entries).lookup name = if name = key then some value else entries.lookup name := by
  by_cases h : name = key
  · simp [h]
  · have hne : (name == key) = false := beq_eq_false_iff_ne.2 h
    simp [List.lookup_cons, hne, h]

theorem lookup_map_putEntry (key : String) (value : Setting) (entries : List (String × Setting)) (name : String) :
    (entries.map fun old => if old.1 == key then (key, value) else old).lookup name =
      if name = key then (entries.lookup key).map fun _ => value else entries.lookup name := by
  induction entries with
  | nil => simp
  | cons entry entries ih =>
    rcases entry with ⟨other, old⟩
    by_cases hother : other = key
    · subst hother
      simp only [List.map_cons, beq_self_eq_true, if_true, lookup_cons_eq, ih]
      by_cases hname : name = other <;> simp [hname]
    · have hne : (other == key) = false := beq_eq_false_iff_ne.2 hother
      simp only [List.map_cons, hne, Bool.false_eq_true, if_false, lookup_cons_eq, ih, Ne.symm hother]
      by_cases hname : name = key
      · simp [hname, Ne.symm hother]
      · simp [hname]

/-- What is found after an entry was put is that entry, or what was found before. -/
theorem lookup_putEntry (key : String) (value : Setting) (entries : List (String × Setting)) (name : String) :
    (putEntry key value entries).lookup name = if name = key then some value else entries.lookup name := by
  have hfound : entries.any (fun entry => entry.1 == key) = (entries.lookup key).isSome := by
    induction entries with
    | nil => rfl
    | cons entry entries ih =>
      rcases entry with ⟨other, old⟩
      rw [List.any_cons, lookup_cons_eq, ih]
      by_cases hother : key = other
      · simp [hother]
      · simp [hother, Ne.symm hother]
  unfold putEntry
  rw [hfound]
  cases hold : entries.lookup key with
  | some old => simp only [Option.isSome_some, if_true, lookup_map_putEntry, hold, Option.map_some]
  | none =>
    simp only [Option.isSome_none, Bool.false_eq_true, if_false, List.lookup_append, lookup_cons_eq, List.lookup_nil]
    by_cases hname : name = key
    · simp [hname, hold]
    · simp [hname]

theorem lookup_changeEntry (key : String) (f : Setting → Setting) (entries : List (String × Setting)) (name : String) :
    (changeEntry key f entries).lookup name =
      if name = key then some (f ((entries.lookup key).getD (table []))) else entries.lookup name :=
  lookup_putEntry key _ entries name

/-! ## From the root -/

/-- Change what some steps lead to, counted from the root. -/
def alter : List Step → (Setting → Setting) → Setting → Setting
  | [], f, v => f v
  | .key key :: steps, f, v => table (changeEntry key (alter steps f) v.entries)
  | .place place :: steps, f, v => list (changeItem place (alter steps f) v.items)

theorem alter_append (steps left : List Step) (f : Setting → Setting) : alter (steps ++ left) f = alter steps (alter left f) := by
  induction steps with
  | nil => rfl
  | cons step steps ih => cases step <;> exact funext fun v => by rw [List.cons_append, alter, alter, ih]

theorem change_eq_alter (path : SettingPath) (f : Setting → Setting) : change path f = alter path.steps f := by
  induction path generalizing f with
  | name key => rfl
  | child parent key ih | item parent place ih =>
    rw [steps, alter_append, ← ih]
    rfl

/-- What a value that is put under a name makes of what is there: a table is merged into it. -/
def merge (value old : Setting) : Setting :=
  match value with
  | table incoming => putAll incoming old
  | value => value

theorem putName_eq_alter (value : Setting) (key : String) : putName value key = alter [.key key.toLower] (merge value) := by
  funext root
  cases value with
  | table incoming => rw [putName]; rfl
  | nothing | boolean b | integer n | real x | text s | list items =>
    rw [putName]
    · rfl
    · exact nofun

/-- What a value that is put where a path leads makes of what is there. -/
def overlay (value : Setting) : SettingPath → Setting → Setting
  | .name _ | .child _ _ => merge value
  | .item _ _ => fun _ => value

/-- To put a value is to change what its steps lead to. -/
theorem put_eq_alter (path : SettingPath) (value : Setting) : put path value = alter path.target (value.overlay path) := by
  cases path with
  | name key => exact putName_eq_alter value key
  | child parent key =>
    funext root
    rw [put, putName_eq_alter, change_eq_alter, target, alter_append]
    rfl
  | item parent place =>
    funext root
    rw [put, change_eq_alter, target, alter_append]
    rfl

/-- What is found under a name after a change that begins with a name. -/
theorem lookup_alter (key : String) (steps : List Step) (f : Setting → Setting) (root : Setting) (name : String) :
    (alter (.key key :: steps) f root).entries.lookup name =
      if name = key then some (alter steps f ((root.entries.lookup key).getD (table []))) else root.entries.lookup name := by
  rw [alter]
  exact lookup_changeEntry key _ _ name

/-! ## Tables that are merged -/

theorem putAll_append (before after : List (String × Setting)) (root : Setting) :
    putAll (before ++ after) root = putAll after (putAll before root) := by
  induction before generalizing root with
  | nil => rw [List.nil_append, putAll]
  | cons entry before ih =>
    rcases entry with ⟨key, value⟩
    rw [List.cons_append, putAll, putAll, ih]

theorem lookup_putName (value : Setting) (key : String) (root : Setting) (name : String) :
    (putName value key root).entries.lookup name =
      if name = key.toLower then some (merge value ((root.entries.lookup key.toLower).getD (table [])))
      else root.entries.lookup name := by
  rw [putName_eq_alter, lookup_alter, alter]

/-- Merging changes nothing under a name that no incoming entry has, in whatever case. -/
theorem lookup_putAll_of_ne (entries : List (String × Setting)) (root : Setting) {name : String}
    (h : ∀ entry ∈ entries, entry.1.toLower ≠ name) : (putAll entries root).entries.lookup name = root.entries.lookup name := by
  induction entries generalizing root with
  | nil => rw [putAll]
  | cons entry entries ih =>
    rcases entry with ⟨key, value⟩
    have hkey : name ≠ key.toLower := Ne.symm (h (key, value) List.mem_cons_self)
    rw [putAll, ih _ fun entry hmem => h entry (List.mem_cons_of_mem _ hmem), lookup_putName, if_neg hkey]

theorem exists_putAll_eq_table (incoming entries : List (String × Setting)) :
    ∃ merged, putAll incoming (table entries) = table merged := by
  induction incoming generalizing entries with
  | nil => exact ⟨entries, by rw [putAll]⟩
  | cons entry incoming ih =>
    rcases entry with ⟨key, value⟩
    rw [putAll, putName_eq_alter, alter]
    exact ih _

/-! ## Settings of a section -/

/-- Whether a section is a table, or is not there yet, in which a setting has a value, or has none. -/
def HasField (root : Setting) (sect field : String) (value : Option Setting) : Prop :=
  (root.entries.lookup sect = none ∧ value = none) ∨
    ∃ entries, root.entries.lookup sect = some (table entries) ∧ entries.lookup field = value

theorem HasField.lookup_getD {old : Option Setting} (h : HasField root sect field old) :
    (((root.entries.lookup sect).getD (table [])).entries).lookup field = old := by
  rcases h with ⟨hnone, rfl⟩ | ⟨entries, hsome, hfield⟩
  · rw [hnone]
    rfl
  · rw [hsome]
    exact hfield

/-- A value put elsewhere changes nothing of this. -/
theorem HasField.put {old : Option Setting} (h : HasField root sect field old) (hreplaces : path.replaces sect field = false)
    (henters : path.enters sect field = false) (value : Setting) : HasField (put path value root) sect field old := by
  obtain ⟨first, rest, htarget⟩ := path.exists_target_eq
  rw [replaces, htarget] at hreplaces
  rw [enters, htarget] at henters
  rw [put_eq_alter, htarget, HasField, lookup_alter]
  by_cases hsect : sect = first
  · subst hsect
    rw [if_pos rfl]
    rcases rest with _ | ⟨second | place, rest⟩
    · simp at hreplaces
    · have hne : field ≠ second := by
        rintro rfl
        rcases rest with _ | ⟨step, rest⟩
        · simp at hreplaces
        · simp at henters
      refine Or.inr ⟨_, rfl, ?_⟩
      rw [lookup_changeEntry, if_neg hne]
      exact h.lookup_getD
    · simp at hreplaces
  · rw [if_neg hsect]
    exact h

/-- Whether a value has parts, so that it counts as no scalar. -/
def HasParts : Setting → Prop
  | list _ | table _ => True
  | _ => False

/-- A value put into a setting leaves something with parts there. -/
theorem exists_hasField_of_enters (henters : path.enters sect field = true) (value root : Setting) :
    ∃ v, HasField (Setting.put path value root) sect field (some v) ∧ v.HasParts := by
  obtain ⟨first, rest, htarget⟩ := path.exists_target_eq
  rw [enters, htarget] at henters
  rcases rest with _ | ⟨second | place, _ | ⟨step, rest⟩⟩
  · simp at henters
  · simp at henters
  · obtain ⟨rfl, rfl⟩ : first = sect ∧ second = field := by simpa using henters
    rw [put_eq_alter, htarget]
    refine ⟨_, Or.inr ⟨_, by rw [lookup_alter, if_pos rfl]; rfl, by rw [lookup_changeEntry, if_pos rfl]⟩, ?_⟩
    cases step <;> exact trivial
  · simp at henters
  · simp at henters

/-- A setting has the scalar value that is put there. -/
theorem hasField_put_child (value root : Setting) (sect field : String) (hvalue : ¬value.HasParts) :
    HasField (put (.child (.name sect) field) value root) sect field.toLower (some value) := by
  refine Or.inr ⟨_, by rw [put_eq_alter]; exact (lookup_alter _ _ _ _ _).trans (if_pos rfl), ?_⟩
  rw [lookup_changeEntry, if_pos rfl]
  cases value with
  | table entries | list items => exact absurd trivial hvalue
  | nothing | boolean b | integer n | real x | text s => rfl

/-- A value put outside a section leaves the section alone. -/
theorem lookup_put_of_within (h : path.within sect = false) (value root : Setting) :
    (put path value root).entries.lookup sect = root.entries.lookup sect := by
  obtain ⟨first, rest, htarget⟩ := path.exists_target_eq
  have hne : sect ≠ first := by
    rintro rfl
    simp [within, htarget] at h
  rw [put_eq_alter, htarget, lookup_alter, if_neg hne]

end Setting

end QueueBroker

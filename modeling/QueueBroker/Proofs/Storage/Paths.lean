import QueueBroker.Storage.Disk

/-!
# Where paths lead

A path that leads to a directory leads there still when the disk has more entries, and with a plain name added it leads to the
entry of that name.
-/

namespace QueueBroker.Disk

/-! ## Names in paths -/

/-- Whether a name can be that of an entry. -/
structure IsFileName (name : String) : Prop where
  ne_empty : name ≠ ""
  ne_self : name ≠ "."
  ne_parent : name ≠ ".."
  no_slash : '/' ∉ name.toList
  short : Utf8.length name ≤ maxName

/-- The names in a path are those before a slash and those after it. -/
theorem names_append_slash (a b : String) : names (a ++ "/" ++ b) = names a ++ names b := by
  have h : (a ++ "/" ++ b).toList = a.toList ++ '/' :: b.toList := by simp
  simp only [names, h, List.splitOn_append_cons_self, List.map_append, List.filter_append]

@[simp] theorem names_empty : names "" = [] := rfl

/-- A plain name is the only one in itself. -/
theorem names_of_isFileName {n : String} (h : IsFileName n) : names n = [n] := by
  rw [names, List.splitOn_eq_singleton h.no_slash]
  simp [String.ofList_toList, h.ne_empty, h.ne_self]

/-- The path of a directory that ends in a slash, as the names before that slash. -/
theorem exists_eq_append_slash {s : String} (h : s.toList.getLast? = some '/') : ∃ t : String, s = t ++ "/" := by
  obtain ⟨l, hl⟩ := List.getLast?_eq_some_iff.1 h
  refine ⟨String.ofList l, ?_⟩
  apply String.toList_injective
  simp [hl]

theorem names_join (s : String) {n : String} (h : IsFileName n) : names (join s n) = names s ++ [n] := by
  rw [join]
  split
  · rename_i he
    rw [String.isEmpty_iff.1 he, names_of_isFileName h]
    rfl
  · split
    · rename_i hl
      obtain ⟨t, rfl⟩ := exists_eq_append_slash hl
      have ht : t ++ "/" = t ++ "/" ++ "" := by simp
      rw [names_append_slash, ht, names_append_slash, names_of_isFileName h, names_empty, List.append_nil]
    · rw [names_append_slash, names_of_isFileName h]

theorem isAbsolute_append {s : String} (h : s ≠ "") (t : String) : isAbsolute (s ++ t) = isAbsolute s := by
  rw [isAbsolute, isAbsolute, String.toList_append]
  cases hs : s.toList with
  | nil => exact absurd (String.toList_injective (by simpa using hs)) h
  | cons c cs => rfl

theorem isAbsolute_of_no_slash {n : String} (h : '/' ∉ n.toList) : isAbsolute n = false := by
  rw [isAbsolute]
  cases hn : n.toList with
  | nil => rfl
  | cons c cs =>
    have hc : c ≠ '/' := fun he => h (by rw [hn, he]; exact List.mem_cons_self)
    simpa using hc

theorem isAbsolute_join (s : String) {n : String} (h : IsFileName n) : isAbsolute (join s n) = isAbsolute s := by
  rw [join]
  split
  · rename_i he
    rw [String.isEmpty_iff.1 he, isAbsolute_of_no_slash h.no_slash]
    rfl
  · rename_i he
    have hs : s ≠ "" := fun h => he (by simp [h])
    split
    · exact isAbsolute_append hs n
    · rw [String.append_assoc]
      exact isAbsolute_append hs _

theorem join_ne_empty (s : String) {n : String} (h : IsFileName n) : join s n ≠ "" := by
  intro he
  have := names_join s h
  rw [he, names_empty] at this
  simp at this

/-- Paths of plain names in a directory are as different as the names. -/
theorem join_injective {s m n : String} (hm : IsFileName m) (hn : IsFileName n) (h : join s m = join s n) : m = n := by
  have hnames := congrArg names h
  rw [names_join s hm, names_join s hn] at hnames
  exact List.singleton_inj.1 (List.append_cancel_left hnames)

/-! ## Single names -/

/-- Where one name leads: on from a place, or to a link that stands at one. -/
inductive Way where
  | on (place : Place)
  | link (place : Place) (target : String)

/-- What a name that is looked up in a directory leads to. -/
inductive Points (d : Disk) (start : Place) : String → Way → Prop where
  | up : Points d start ".." (.on start.dropLast)
  | entry {n : String} {node : Node} : n ≠ ".." → d.node? (start ++ [n]) = some node → (∀ target, node ≠ .link target) →
      Points d start n (.on (start ++ [n]))
  | link {n target : String} : n ≠ ".." → d.node? (start ++ [n]) = some (.link target) →
      Points d start n (.link (start ++ [n]) target)

/-- A name that is not too long leads somewhere from a directory. -/
structure Passes (d : Disk) (start : Place) (n : String) (way : Way) : Prop where
  directory : d.node? start = some .directory
  short : Utf8.length n ≤ maxName
  points : d.Points start n way

/-- How the names that are left are followed. -/
def Way.rest (d : Disk) (follow : Bool) (jump : Place → String → List String → Except Errno Found) (start : Place)
    (left : List String) : Way → Except Errno Found
  | on place => walkNames d follow jump place left
  | link place target => if left.isEmpty && !follow then .ok (.node place (.link target)) else jump start target left

variable {d : Disk} {follow : Bool} {jump : Place → String → List String → Except Errno Found} {start place : Place} {node : Node}
  {n : String} {ns : List String}

theorem walkNames_nil_iff : walkNames d follow jump start [] = .ok (.node place node) ↔ start = place ∧ d.node? start = some node := by
  rw [walkNames]
  cases d.node? start <;> simp

theorem Passes.walkNames_cons {way : Way} (h : d.Passes start n way) :
    walkNames d follow jump start (n :: ns) = way.rest d follow jump start ns := by
  obtain ⟨hdir, hshort, hpoints⟩ := h
  rw [walkNames, if_neg (not_not_intro hdir), if_neg (Nat.not_lt_of_le hshort)]
  cases hpoints with
  | up => rw [if_pos rfl, Way.rest]
  | link hup hnode =>
    rw [if_neg hup, hnode]
    rfl
  | @entry _ node hup hnode hlink =>
    rw [if_neg hup, hnode]
    cases node with
    | link target => exact absurd rfl (hlink target)
    | directory => rfl
    | file id => rfl
    | device dev => rfl

/-- A directory that has no entry of a name. -/
structure Lacks (d : Disk) (start : Place) (n : String) : Prop where
  directory : d.node? start = some .directory
  short : Utf8.length n ≤ maxName
  ne_parent : n ≠ ".."
  none : d.node? (start ++ [n]) = none

theorem Lacks.walkNames_singleton (h : d.Lacks start n) :
    walkNames d follow jump start [n] = .ok (.missing (start ++ [n])) := by
  obtain ⟨hdir, hshort, hup, hnone⟩ := h
  rw [walkNames, if_neg (not_not_intro hdir), if_neg (Nat.not_lt_of_le hshort), if_neg hup, hnone]
  rfl

/-- Names that lead somewhere pass the first of them, or it is the last and has no entry. -/
theorem passes_or_lacks {found : Found} (h : walkNames d follow jump start (n :: ns) = .ok found) :
    (∃ way, d.Passes start n way ∧ way.rest d follow jump start ns = .ok found) ∨
      ns = [] ∧ d.Lacks start n ∧ found = .missing (start ++ [n]) := by
  have hpassed {way : Way} (hpasses : d.Passes start n way) :
      ∃ way, d.Passes start n way ∧ way.rest d follow jump start ns = .ok found :=
    ⟨way, hpasses, hpasses.walkNames_cons.symm.trans h⟩
  rw [walkNames] at h
  by_cases hdir : d.node? start = some .directory
  · rw [if_neg (not_not_intro hdir)] at h
    by_cases hlong : maxName < Utf8.length n
    · rw [if_pos hlong] at h
      cases h
    have hshort := Nat.le_of_not_lt hlong
    rw [if_neg hlong] at h
    by_cases hup : n = ".."
    · subst hup
      exact Or.inl (hpassed ⟨hdir, hshort, .up⟩)
    rw [if_neg hup] at h
    cases hnode : d.node? (start ++ [n]) with
    | none =>
      rw [hnode] at h
      cases ns with
      | nil => exact Or.inr ⟨rfl, ⟨hdir, hshort, hup, hnode⟩, (Except.ok.inj h).symm⟩
      | cons m ms => nomatch h
    | some m =>
      cases m with
      | link target => exact Or.inl (hpassed ⟨hdir, hshort, .link hup hnode⟩)
      | directory => exact Or.inl (hpassed ⟨hdir, hshort, .entry hup hnode nofun⟩)
      | file id => exact Or.inl (hpassed ⟨hdir, hshort, .entry hup hnode nofun⟩)
      | device dev => exact Or.inl (hpassed ⟨hdir, hshort, .entry hup hnode nofun⟩)
  · rw [if_pos hdir] at h
    cases h

/-- Names that lead to an entry pass the first of them. -/
theorem exists_passes (h : walkNames d follow jump start (n :: ns) = .ok (.node place node)) :
    ∃ way, d.Passes start n way ∧ way.rest d follow jump start ns = .ok (.node place node) := by
  rcases passes_or_lacks h with hpasses | ⟨-, -, hfound⟩
  · exact hpasses
  · cases hfound

/-- A link is followed, unless it is the last name and need not be. -/
theorem Way.rest_link {target : String} (h : follow = true ∨ ns ≠ []) :
    (Way.link place target).rest d follow jump start ns = jump start target ns := by
  refine if_neg fun hlast => ?_
  rw [Bool.and_eq_true, List.isEmpty_iff, Bool.not_eq_true'] at hlast
  rcases h with h | h
  · rw [h] at hlast
    cases hlast.2
  · exact h hlast.1

/-! ## More entries -/

/-- Whether a disk has every entry of another. -/
def Extends (d d' : Disk) : Prop :=
  d'.home = d.home ∧ ∀ place node, d.node? place = some node → d'.node? place = some node

theorem Extends.refl (d : Disk) : d.Extends d :=
  ⟨rfl, fun _ _ h => h⟩

theorem Extends.trans {d d' d'' : Disk} (h : d.Extends d') (h' : d'.Extends d'') : d.Extends d'' :=
  ⟨h'.1.trans h.1, fun place node hn => h'.2 place node (h.2 place node hn)⟩

theorem Passes.mono {d d' : Disk} (h : d.Extends d') {way : Way} (hpasses : d.Passes start n way) : d'.Passes start n way := by
  obtain ⟨hdir, hshort, hpoints⟩ := hpasses
  refine ⟨h.2 _ _ hdir, hshort, ?_⟩
  cases hpoints with
  | up => exact .up
  | entry hup hnode hlink => exact .entry hup (h.2 _ _ hnode) hlink
  | link hup hnode => exact .link hup (h.2 _ _ hnode)

/-- Following names to an entry takes the same way when there are more entries. -/
theorem walkNames_mono {d d' : Disk} (h : d.Extends d') {follow : Bool}
    {jump jump' : Place → String → List String → Except Errno Found}
    (hj : ∀ at_ target left place node, jump at_ target left = .ok (.node place node) →
      jump' at_ target left = .ok (.node place node))
    {place : Place} {node : Node} (ns : List String) (start : Place)
    (hw : walkNames d follow jump start ns = .ok (.node place node)) :
    walkNames d' follow jump' start ns = .ok (.node place node) := by
  induction ns generalizing start with
  | nil =>
    obtain ⟨rfl, hnode⟩ := walkNames_nil_iff.1 hw
    exact walkNames_nil_iff.2 ⟨rfl, h.2 _ _ hnode⟩
  | cons n ns ih =>
    obtain ⟨way, hpasses, hrest⟩ := exists_passes hw
    rw [(hpasses.mono h).walkNames_cons]
    cases way with
    | on next => exact ih next hrest
    | link next target =>
      rw [Way.rest] at hrest ⊢
      split at hrest
      · rename_i hlast
        rw [if_pos hlast]
        exact hrest
      · rename_i hlast
        rw [if_neg hlast]
        exact hj _ _ _ _ _ hrest

theorem walk_mono {d d' : Disk} (h : d.Extends d') {follow : Bool} {place : Place} {node : Node} (links : Nat)
    (start : Place) (ns : List String) (hw : walk d follow links start ns = .ok (.node place node)) :
    walk d' follow links start ns = .ok (.node place node) := by
  induction links generalizing place node start ns with
  | zero =>
    rw [walk] at hw ⊢
    refine walkNames_mono h ?_ ns start hw
    intro _ _ _ _ _ hj
    nomatch hj
  | succ links ih =>
    rw [walk] at hw ⊢
    exact walkNames_mono h (fun _ _ _ _ _ hj => ih _ _ hj) ns start hw

/-! ## One more name -/

/-- What a place holds, as the end of a path. -/
def foundAt (d : Disk) (place : Place) : Found :=
  match d.node? place with
  | some node => .node place node
  | none => .missing place

/-- After names that lead to a directory, a plain name leads to its entry there, if that is no link. -/
theorem walkNames_snoc {d : Disk} {n : String} (hn : IsFileName n) {jump : Place → String → List String → Except Errno Found}
    {place : Place} (hlink : ∀ target, d.node? (place ++ [n]) ≠ some (.link target))
    (hj : ∀ at_ target left, jump at_ target left = .ok (.node place .directory) →
      jump at_ target (left ++ [n]) = .ok (d.foundAt (place ++ [n])))
    (ns : List String) (start : Place) (hw : walkNames d true jump start ns = .ok (.node place .directory)) :
    walkNames d true jump start (ns ++ [n]) = .ok (d.foundAt (place ++ [n])) := by
  induction ns generalizing start with
  | nil =>
    rw [walkNames] at hw
    cases hs : d.node? start with
    | none => rw [hs] at hw; nomatch hw
    | some m =>
      rw [hs] at hw
      obtain ⟨rfl, rfl⟩ : start = place ∧ m = .directory := by simpa using hw
      rw [List.nil_append, walkNames, if_neg (not_not_intro hs), if_neg (Nat.not_lt.2 hn.short), if_neg hn.ne_parent]
      rw [foundAt]
      cases hm : d.node? (start ++ [n]) with
      | none => rfl
      | some m =>
        cases m with
        | link target => exact absurd hm (hlink target)
        | directory => simp [walkNames, hm]
        | file id => simp [walkNames, hm]
        | device dev => simp [walkNames, hm]
  | cons m ns ih =>
    obtain ⟨way, hpasses, hrest⟩ := exists_passes hw
    rw [List.cons_append, hpasses.walkNames_cons]
    cases way with
    | on next => exact ih next hrest
    | link next target =>
      rw [Way.rest_link (Or.inl rfl)] at hrest ⊢
      exact hj _ _ _ hrest

theorem walk_snoc {d : Disk} {n : String} (hn : IsFileName n) {place : Place}
    (hlink : ∀ target, d.node? (place ++ [n]) ≠ some (.link target)) (links : Nat) (start : Place) (ns : List String)
    (hw : walk d true links start ns = .ok (.node place .directory)) :
    walk d true links start (ns ++ [n]) = .ok (d.foundAt (place ++ [n])) := by
  induction links generalizing start ns with
  | zero =>
    rw [walk] at hw ⊢
    refine walkNames_snoc hn hlink ?_ ns start hw
    intro _ _ _ hj
    nomatch hj
  | succ links ih =>
    rw [walk] at hw ⊢
    refine walkNames_snoc hn hlink ?_ ns start hw
    intro at_ target left hj
    rw [← List.append_assoc]
    exact ih _ _ hj

/-! ## Directories that are there -/

/-- Whether the path of a directory leads to a place; the empty path is that of the home directory. -/
def LeadsTo (d : Disk) (path : String) (place : Place) : Prop :=
  d.walk true maxLinks (d.origin path) (names path) = .ok (.node place .directory)

theorem LeadsTo.mono {d d' : Disk} {path : String} {place : Place} (h : d.LeadsTo path place) (hd : d.Extends d') :
    d'.LeadsTo path place := by
  have ho : d'.origin path = d.origin path := by rw [origin, origin, hd.1]
  rw [LeadsTo, ho]
  exact walk_mono hd _ _ _ h

/-- A plain name in a directory leads to its entry. -/
theorem LeadsTo.resolve_join {d : Disk} {path : String} {place : Place} (h : d.LeadsTo path place) {n : String}
    (hn : IsFileName n) (hlink : ∀ target, d.node? (place ++ [n]) ≠ some (.link target)) :
    d.resolve true (join path n) = .ok (d.foundAt (place ++ [n])) := by
  have he : ¬((join path n).isEmpty = true) := fun he => join_ne_empty path hn (String.isEmpty_iff.1 he)
  rw [resolve, if_neg he, names_join path hn, origin, isAbsolute_join path hn]
  exact walk_snoc hn hlink _ _ _ h

/-! ## Making directories -/

/-- Names that lead to an entry when links are followed lead to one also when a link at the end is not. -/
theorem walkNames_nofollow {d : Disk} {jump jump' : Place → String → List String → Except Errno Found} {place : Place}
    {node : Node}
    (hj : ∀ at_ target left, jump at_ target left = .ok (.node place node) →
      ∃ place' node', jump' at_ target left = .ok (.node place' node'))
    (ns : List String) (start : Place) (hw : walkNames d true jump start ns = .ok (.node place node)) :
    ∃ place' node', walkNames d false jump' start ns = .ok (.node place' node') := by
  induction ns generalizing start with
  | nil => exact ⟨place, node, hw⟩
  | cons n ns ih =>
    obtain ⟨way, hpasses, hrest⟩ := exists_passes hw
    rw [hpasses.walkNames_cons]
    cases way with
    | on next => exact ih next hrest
    | link next target =>
      rw [Way.rest_link (Or.inl rfl)] at hrest
      -- A link that is the last name is an entry itself.
      by_cases hlast : ns = []
      · subst hlast
        exact ⟨_, _, rfl⟩
      · rw [Way.rest_link (Or.inr hlast)]
        exact hj _ _ _ hrest

theorem walk_nofollow {d : Disk} {place : Place} {node : Node} (links : Nat) (start : Place) (ns : List String)
    (hw : walk d true links start ns = .ok (.node place node)) :
    ∃ place' node', walk d false links start ns = .ok (.node place' node') := by
  induction links generalizing start ns with
  | zero =>
    rw [walk] at hw ⊢
    refine walkNames_nofollow ?_ ns start hw
    intro _ _ _ hj
    nomatch hj
  | succ links ih =>
    rw [walk] at hw ⊢
    exact walkNames_nofollow (fun _ _ _ hj => ih _ _ hj) ns start hw

/-- No piece of a list that is split holds a separator. -/
theorem not_mem_of_mem_splitOn {a : Char} {l cs : List Char} (h : l ∈ cs.splitOn a) : a ∉ l := by
  induction cs generalizing l with
  | nil =>
    rw [List.splitOn_nil, List.mem_singleton] at h
    simp [h]
  | cons c cs ih =>
    rw [List.splitOn_cons_eq_if_modifyHead] at h
    by_cases hc : c = a
    · rw [if_pos (by simp [hc]), List.mem_cons] at h
      rcases h with rfl | h
      · exact List.not_mem_nil
      · exact ih h
    · rw [if_neg (by simp [hc])] at h
      cases hs : cs.splitOn a with
      | nil => simp [hs] at h
      | cons p ps =>
        rw [hs, List.modifyHead_cons, List.mem_cons] at h
        rcases h with rfl | h
        · have hp : a ∉ p := ih (by rw [hs]; exact List.mem_cons_self)
          simp [hp, Ne.symm hc]
        · exact ih (by rw [hs]; exact List.mem_cons_of_mem _ h)

/-- The names in a path are plain parts of it. -/
theorem of_mem_names {path n : String} (h : n ∈ names path) : n ≠ "" ∧ n ≠ "." ∧ '/' ∉ n.toList := by
  simp only [names, List.mem_filter, List.mem_map, Bool.and_eq_true, bne_iff_ne] at h
  obtain ⟨⟨cs, hcs, rfl⟩, h1, h2⟩ := h
  refine ⟨h1, h2, ?_⟩
  rw [String.toList_ofList]
  exact not_mem_of_mem_splitOn hcs

/-- Plain names between slashes are the names of the path that they make. -/
theorem names_intercalate {ns : List String} (h : ∀ n ∈ ns, n ≠ "" ∧ n ≠ "." ∧ '/' ∉ n.toList) :
    names ("/".intercalate ns) = ns := by
  cases hns : ns with
  | nil => rfl
  | cons m ms =>
    rw [← hns]
    have hne : ns.map String.toList ≠ [] := by simp [hns]
    have hsep : "/".toList = ['/'] := rfl
    rw [names, String.toList_intercalate, hsep, List.splitOn_intercalate '/' _ hne]
    · rw [List.map_map]
      have hid : ns.map (String.ofList ∘ String.toList) = ns := by simp [Function.comp_def]
      rw [hid, List.filter_eq_self]
      intro n hn
      simp [(h n hn).1, (h n hn).2.1]
    · intro l hl
      obtain ⟨n, hn, rfl⟩ := List.mem_map.1 hl
      exact (h n hn).2.2

/-- Names on the way to an entry lead to a directory. -/
theorem walkNames_prefix {d : Disk} {jump : Place → String → List String → Except Errno Found} {place : Place} {node : Node}
    {m : String} {ms : List String}
    (hj : ∀ at_ target left, jump at_ target (left ++ m :: ms) = .ok (.node place node) →
      ∃ place', jump at_ target left = .ok (.node place' .directory))
    (ns : List String) (start : Place) (hw : walkNames d true jump start (ns ++ m :: ms) = .ok (.node place node)) :
    ∃ place', walkNames d true jump start ns = .ok (.node place' .directory) := by
  induction ns generalizing start with
  | nil =>
    obtain ⟨way, hpasses, -⟩ := exists_passes hw
    exact ⟨start, walkNames_nil_iff.2 ⟨rfl, hpasses.directory⟩⟩
  | cons n ns ih =>
    obtain ⟨way, hpasses, hrest⟩ := exists_passes hw
    rw [hpasses.walkNames_cons]
    cases way with
    | on next => exact ih next hrest
    | link next target =>
      rw [Way.rest_link (Or.inl rfl)] at hrest ⊢
      exact hj _ _ _ hrest

theorem walk_prefix {d : Disk} {place : Place} {node : Node} {m : String} {ms : List String} (links : Nat) (start : Place)
    (ns : List String) (hw : walk d true links start (ns ++ m :: ms) = .ok (.node place node)) :
    ∃ place', walk d true links start ns = .ok (.node place' .directory) := by
  induction links generalizing start ns with
  | zero =>
    rw [walk] at hw ⊢
    refine walkNames_prefix ?_ ns start hw
    intro _ _ _ hj
    nomatch hj
  | succ links ih =>
    rw [walk] at hw ⊢
    refine walkNames_prefix ?_ ns start hw
    intro at_ target left hj
    rw [← List.append_assoc] at hj
    exact ih _ _ hj

/-- A path made of plain names, below the root or not. -/
def pathOf (absolute : Bool) (ns : List String) : String :=
  (if absolute then "/" else "") ++ "/".intercalate ns

variable {ns : List String} (h : ∀ n ∈ ns, n ≠ "" ∧ n ≠ "." ∧ '/' ∉ n.toList)
include h

theorem names_pathOf (absolute : Bool) : names (pathOf absolute ns) = ns := by
  cases absolute with
  | true =>
    have hs := names_append_slash "" ("/".intercalate ns)
    rw [String.empty_append, names_empty, List.nil_append, names_intercalate h] at hs
    exact hs
  | false => rw [pathOf, if_neg (by simp), String.empty_append, names_intercalate h]

theorem isAbsolute_pathOf (absolute : Bool) : isAbsolute (pathOf absolute ns) = absolute := by
  cases absolute with
  | true =>
    rw [pathOf, if_pos rfl, isAbsolute, String.toList_append]
    rfl
  | false =>
    rw [pathOf, if_neg (by simp), String.empty_append]
    cases ns with
    | nil => rfl
    | cons n ns =>
      have hn := h n List.mem_cons_self
      cases ns with
      | nil => rw [String.intercalate_singleton, isAbsolute_of_no_slash hn.2.2]
      | cons m ms =>
        rw [String.intercalate_cons_cons, String.append_assoc, isAbsolute_append hn.1, isAbsolute_of_no_slash hn.2.2]

/-- What is made of a path whose names lead to a directory: nothing. -/
theorem makeDirectory_pathOf {d : Disk} {absolute : Bool} {place : Place} (hne : ns ≠ [])
    (hw : d.walk true maxLinks (if absolute then [] else d.home) ns = .ok (.node place .directory)) :
    d.makeDirectory (pathOf absolute ns) = (.error .fileExists, d) ∧ d.isDirectory (pathOf absolute ns) = true := by
  have hpath : ¬((pathOf absolute ns).isEmpty = true) := by
    intro he
    have hn := names_pathOf h absolute
    rw [String.isEmpty_iff.1 he, names_empty] at hn
    exact hne hn.symm
  obtain ⟨place', node', hn⟩ := walk_nofollow _ _ _ hw
  constructor
  · rw [makeDirectory, resolve, if_neg hpath, names_pathOf h, origin, isAbsolute_pathOf h, hn]
  · rw [isDirectory, resolve, if_neg hpath, names_pathOf h, origin, isAbsolute_pathOf h, hw]

omit h

/-- Making a directory that is there, or some of those on the way to it, changes nothing and succeeds. -/
theorem LeadsTo.makeFirst {d : Disk} {path : String} {place : Place} (h : d.LeadsTo path place) {count : Nat}
    (hcount : count ≤ (names path).length) :
    d.makeFirst (if isAbsolute path then "/" else "") (names path) count = (.ok (), d) := by
  cases count with
  | zero => rfl
  | succ count =>
    have hplain : ∀ n ∈ (names path).take (count + 1), n ≠ "" ∧ n ≠ "." ∧ '/' ∉ n.toList :=
      fun n hn => of_mem_names (List.mem_of_mem_take hn)
    have hne : (names path).take (count + 1) ≠ [] := by
      intro he
      have hl := congrArg List.length he
      rw [List.length_take, List.length_nil] at hl
      omega
    have hway : ∃ place', d.walk true maxLinks (d.origin path) ((names path).take (count + 1)) =
        .ok (.node place' .directory) := by
      have hsplit := List.take_append_drop (count + 1) (names path)
      cases hd : (names path).drop (count + 1) with
      | nil =>
        rw [hd, List.append_nil] at hsplit
        exact ⟨place, by rw [hsplit]; exact h⟩
      | cons m ms =>
        rw [hd] at hsplit
        rw [LeadsTo, ← hsplit] at h
        exact walk_prefix _ _ _ h
    obtain ⟨place', hw⟩ := hway
    obtain ⟨hmake, hdir⟩ := makeDirectory_pathOf hplain hne hw
    rw [Disk.makeFirst]
    simp only [pathOf] at hmake hdir
    dsimp only
    rw [hmake]
    dsimp only
    rw [if_neg (by decide), if_pos hdir]

end QueueBroker.Disk

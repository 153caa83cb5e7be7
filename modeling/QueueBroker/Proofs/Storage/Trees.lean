import QueueBroker.Proofs.Storage.Folder

/-!
# New entries in a tree

In a disk that is a tree, a new file changes where a path leads only if the path led to no entry before and now leads to the new
one. `Lacks.resolve_create` says so; what is written into a file changes nothing of this.
-/

namespace QueueBroker

namespace Disk

/-- The place that is found. -/
def Found.place : Found → Place
  | node place _ => place
  | missing place => place

@[simp] theorem place_foundAt (d : Disk) (place : Place) : (d.foundAt place).place = place := by
  rw [foundAt]
  split <;> rfl

variable {d d' : Disk} {follow : Bool} {at_ place start : Place} {id : Nat} {path n : String} {ns : List String} {node : Node}
  {found : Found} {bytes : Bytes}

/-! ## Trees -/

/-- A disk whose entries stand in directories, whose home directory is there, and whose files all have contents. -/
structure IsTree (d : Disk) : Prop where
  parent : ∀ place node, d.node? place = some node → d.node? place.dropLast = some .directory
  home : d.node? d.home = some .directory
  numbered : ∀ place id, d.node? place = some (.file id) → id < d.files.length

theorem exists_lacks_of_walkNames {jump : Place → String → List String → Except Errno Found}
    (hj : ∀ start target left, jump start target left = .ok (.missing place) → ∃ start n, d.Lacks start n ∧ place = start ++ [n])
    (h : walkNames d follow jump start ns = .ok (.missing place)) : ∃ start n, d.Lacks start n ∧ place = start ++ [n] := by
  induction ns generalizing start with
  | nil =>
    rw [walkNames] at h
    cases hnode : d.node? start with
    | none => rw [hnode] at h; cases h
    | some node => rw [hnode] at h; cases h
  | cons n ns ih =>
    rcases passes_or_lacks h with ⟨way, -, hrest⟩ | ⟨-, hlacks, hfound⟩
    · cases way with
      | on next => exact ih hrest
      | link next target =>
        rw [Way.rest] at hrest
        split at hrest
        · cases hrest
        · exact hj _ _ _ hrest
    · exact ⟨start, n, hlacks, Found.missing.inj hfound⟩

/-- A path that leads to no entry leads to a directory that lacks one. -/
theorem exists_lacks (h : d.resolve follow path = .ok (.missing place)) : ∃ start n, d.Lacks start n ∧ place = start ++ [n] := by
  rw [resolve] at h
  split at h
  · cases h
  have hwalk (links : Nat) : ∀ start ns, walk d follow links start ns = .ok (.missing place) →
      ∃ start n, d.Lacks start n ∧ place = start ++ [n] := by
    induction links with
    | zero =>
      intro start ns hw
      rw [walk] at hw
      refine exists_lacks_of_walkNames ?_ hw
      intro _ _ _ hj
      cases hj
    | succ links ih =>
      intro start ns hw
      rw [walk] at hw
      exact exists_lacks_of_walkNames (fun _ _ _ hj => ih _ _ hj) hw
  exact hwalk _ _ _ h

theorem Lacks.extends_create (h : d.Lacks start n) : d.Extends (d.create (start ++ [n])).2 :=
  Disk.extends_create (by simp) h.none

theorem Lacks.node?_create (h : d.Lacks start n) (other : Place) :
    (d.create (start ++ [n])).2.node? other = if other = start ++ [n] then some (.file d.files.length) else d.node? other :=
  Disk.node?_create (by simp) h.none other

/-- A new file in a directory that lacks it. -/
theorem IsTree.create (ht : d.IsTree) (h : d.Lacks start n) : (d.create (start ++ [n])).2.IsTree where
  parent place node hnode := by
    rw [h.node?_create] at hnode
    split at hnode
    · rename_i hplace
      rw [hplace, List.dropLast_concat]
      exact h.extends_create.2 _ _ h.directory
    · exact h.extends_create.2 _ _ (ht.parent _ _ hnode)
  home := h.extends_create.2 _ _ ht.home
  numbered place id hnode := by
    have hlength : (d.create (start ++ [n])).2.files.length = d.files.length + 1 := List.length_append
    rw [h.node?_create] at hnode
    rw [hlength]
    split at hnode
    · obtain rfl := Node.file.inj (Option.some.inj hnode)
      exact Nat.lt_succ_self _
    · exact Nat.lt_succ_of_lt (ht.numbered _ _ hnode)

theorem Lacks.extends_setNode (h : d.Lacks start n) (node : Node) : d.Extends (d.setNode (start ++ [n]) node) := by
  refine ⟨rfl, fun place other hentry => ?_⟩
  rw [Disk.node?_setNode (by simp) h.none, if_neg, hentry]
  rintro rfl
  rw [h.none] at hentry
  cases hentry

/-- A new entry, other than a file, in a directory that lacks it. -/
theorem IsTree.setNode (ht : d.IsTree) (h : d.Lacks start n) (hnode : ∀ id, node ≠ .file id) : (d.setNode (start ++ [n]) node).IsTree := by
  have hsplit {place : Place} {other : Node} (hentry : (d.setNode (start ++ [n]) node).node? place = some other) :
      (place = start ++ [n] ∧ other = node) ∨ d.node? place = some other := by
    rw [Disk.node?_setNode (by simp) h.none] at hentry
    split at hentry
    · rename_i hplace
      exact Or.inl ⟨hplace, (Option.some.inj hentry).symm⟩
    · exact Or.inr hentry
  have hkept := (h.extends_setNode node).2
  refine ⟨fun place other hentry => ?_, hkept _ _ ht.home, fun place id hentry => ?_⟩
  · rcases hsplit hentry with ⟨rfl, -⟩ | hentry
    · rw [List.dropLast_concat]
      exact hkept _ _ h.directory
    · exact hkept _ _ (ht.parent _ _ hentry)
  · rcases hsplit hentry with ⟨-, heq⟩ | hentry
    · exact absurd heq.symm (hnode id)
    · exact ht.numbered place id hentry

theorem IsTree.setContent (ht : d.IsTree) (id : Nat) (bytes : Bytes) : (d.setContent id bytes).IsTree where
  parent := ht.parent
  home := ht.home
  numbered place id' hnode := by
    have hlength : (d.setContent id bytes).files.length = d.files.length := List.length_set
    rw [hlength]
    exact ht.numbered place id' hnode

theorem isTree_empty (home : String) : (empty home).IsTree := by
  have hmem {place : Place} {node : Node} (hnode : (empty home).node? place = some node) :
      place = [] ∧ node = .directory ∨ (place, node) ∈ (empty home).nodes := by
    rw [node?] at hnode
    split at hnode
    · rename_i hroot
      exact Or.inl ⟨List.isEmpty_iff.1 hroot, (Option.some.inj hnode).symm⟩
    · obtain ⟨before, after, heq, -⟩ := List.lookup_eq_some_iff.1 hnode
      exact Or.inr (heq ▸ List.mem_append_right _ List.mem_cons_self)
  have hdev : (empty home).node? ["dev"] = some .directory := by
    rw [node?, if_neg (by simp), empty, List.lookup_cons]
    split <;> rfl
  refine ⟨fun place node hnode => ?_, by simp [node?, empty], fun place id hnode => ?_⟩
  · rcases hmem hnode with ⟨rfl, -⟩ | hentry
    · rfl
    · simp only [empty, List.mem_cons, Prod.mk.injEq, List.not_mem_nil, or_false] at hentry
      obtain ⟨rfl, -⟩ | ⟨rfl, -⟩ | ⟨rfl, -⟩ | ⟨rfl, -⟩ := hentry
      · rfl
      · rfl
      · exact hdev
      · exact hdev
  · have hentry := hmem hnode
    simp [empty] at hentry

/-! ## New files -/

theorem walkNames_congr (hnodes : ∀ place, d'.node? place = d.node? place)
    {jump jump' : Place → String → List String → Except Errno Found} (hj : ∀ start target left, jump' start target left = jump start target left)
    (start : Place) (ns : List String) : walkNames d' follow jump' start ns = walkNames d follow jump start ns := by
  induction ns generalizing start with
  | nil => rw [walkNames, walkNames, hnodes]
  | cons n ns ih => simp only [walkNames, hnodes, hj, ih]

/-- Where a path leads depends on the entries and on the home directory only. -/
theorem resolve_congr (d d' : Disk) (hnodes : ∀ place, d'.node? place = d.node? place) (hhome : d'.home = d.home) (follow : Bool)
    (path : String) : d'.resolve follow path = d.resolve follow path := by
  have hwalk (links : Nat) : ∀ start ns, walk d' follow links start ns = walk d follow links start ns := by
    induction links with
    | zero =>
      intro start ns
      rw [walk, walk]
      exact walkNames_congr hnodes (fun _ _ _ => rfl) start ns
    | succ links ih =>
      intro start ns
      rw [walk, walk]
      exact walkNames_congr hnodes (fun _ _ _ => ih _ _) start ns
  rw [resolve, resolve, hwalk, origin, origin, hhome]

/-- It does not depend on what is in the files. -/
theorem resolve_setContent (d : Disk) (follow : Bool) (id : Nat) (bytes : Bytes) (path : String) :
    (d.setContent id bytes).resolve follow path = d.resolve follow path :=
  resolve_congr d (d.setContent id bytes) (fun _ => rfl) rfl follow path

/-- A name that passes when there is a new file leads to that file, or it passed before. -/
theorem Lacks.passes_create (h : d.Lacks start n) {from_ : Place} {m : String} {way : Way}
    (hpasses : (d.create (start ++ [n])).2.Passes from_ m way) :
    d.Passes from_ m way ∨ d.Lacks from_ m ∧ from_ ++ [m] = start ++ [n] ∧ way = .on (start ++ [n]) := by
  obtain ⟨hdir, hshort, hpoints⟩ := hpasses
  have hdir' : d.node? from_ = some .directory := by
    rw [h.node?_create] at hdir
    split at hdir
    · cases hdir
    · exact hdir
  cases hpoints with
  | up => exact Or.inl ⟨hdir', hshort, .up⟩
  | @entry _ node hup hnode hlink =>
    rw [h.node?_create] at hnode
    split at hnode
    · rename_i hplace
      exact Or.inr ⟨⟨hdir', hshort, hup, hplace ▸ h.none⟩, hplace, by rw [hplace]⟩
    · exact Or.inl ⟨hdir', hshort, .entry hup hnode hlink⟩
  | @link _ target hup hnode =>
    rw [h.node?_create] at hnode
    split at hnode
    · cases hnode
    · exact Or.inl ⟨hdir', hshort, .link hup hnode⟩

/-- In a tree a name leads to an entry, if not to a link. -/
theorem Passes.exists_node (ht : d.IsTree) {next : Place} (h : d.Passes start n (.on next)) : ∃ node, d.node? next = some node := by
  obtain ⟨hdir, -, hpoints⟩ := h
  cases hpoints with
  | up => exact ⟨_, ht.parent _ _ hdir⟩
  | entry _ hnode _ => exact ⟨_, hnode⟩

/-- What is missing now was missing before. -/
theorem Lacks.of_extends (h : d'.Lacks start n) (hext : d.Extends d') (hstart : ∃ node, d.node? start = some node) :
    d.Lacks start n where
  directory := by
    obtain ⟨node, hnode⟩ := hstart
    have hdir := h.directory
    rw [hext.2 _ _ hnode] at hdir
    rw [hnode, hdir]
  short := h.short
  ne_parent := h.ne_parent
  none := by
    cases hnode : d.node? (start ++ [n]) with
    | none => rfl
    | some node =>
      have hnone := h.none
      rw [hext.2 _ _ hnode] at hnone
      cases hnone

/-- What names lead to when there is a new file: that file, where they led to nothing before, or what they led to before. -/
theorem Lacks.walkNames_create (ht : d.IsTree) (h : d.Lacks start n) {jump jump' : Place → String → List String → Except Errno Found}
    (hj : ∀ from_ target left found, d.node? from_ = some .directory → jump' from_ target left = .ok found →
      (found = .node (start ++ [n]) (.file d.files.length) ∧ jump from_ target left = .ok (.missing (start ++ [n]))) ∨
        jump from_ target left = .ok found)
    {found : Found} (ns : List String) (from_ : Place) (hfrom : ∃ node, d.node? from_ = some node)
    (hw : walkNames (d.create (start ++ [n])).2 follow jump' from_ ns = .ok found) :
    (found = .node (start ++ [n]) (.file d.files.length) ∧
        walkNames d follow jump from_ ns = .ok (.missing (start ++ [n]))) ∨
      walkNames d follow jump from_ ns = .ok found := by
  induction ns generalizing from_ with
  | nil =>
    obtain ⟨node, hnode⟩ := hfrom
    rw [walkNames, h.extends_create.2 _ _ hnode] at hw
    right
    rw [walkNames, hnode]
    exact hw
  | cons m ns ih =>
    rcases passes_or_lacks hw with ⟨way, hpasses, hrest⟩ | ⟨rfl, hlacks, rfl⟩
    · rcases h.passes_create hpasses with hpassed | ⟨hlacked, hplace, rfl⟩
      · rw [hpassed.walkNames_cons]
        cases way with
        | on next => exact ih next (hpassed.exists_node ht) hrest
        | link next target =>
          rw [Way.rest] at hrest ⊢
          split at hrest
          · rename_i hlast
            rw [if_pos hlast]
            exact Or.inr hrest
          · rename_i hlast
            rw [if_neg hlast]
            exact hj _ _ _ _ hpassed.directory hrest
      · -- Nothing is in a file, so this was the last name.
        have hnew : (d.create (start ++ [n])).2.node? (start ++ [n]) = some (.file d.files.length) := by
          rw [h.node?_create, if_pos rfl]
        rw [Way.rest] at hrest
        cases ns with
        | nil =>
          rw [walkNames, hnew] at hrest
          rw [hlacked.walkNames_singleton, hplace]
          exact Or.inl ⟨(Except.ok.inj hrest).symm, rfl⟩
        | cons k ns =>
          rw [walkNames, hnew, if_pos (by simp)] at hrest
          cases hrest
    · exact Or.inr (hlacks.of_extends h.extends_create hfrom).walkNames_singleton

theorem Lacks.walk_create (ht : d.IsTree) (h : d.Lacks start n) (links : Nat) (from_ : Place) (ns : List String)
    (hfrom : d.node? from_ = some .directory) {found : Found} (hw : walk (d.create (start ++ [n])).2 follow links from_ ns = .ok found) :
    (found = .node (start ++ [n]) (.file d.files.length) ∧ walk d follow links from_ ns = .ok (.missing (start ++ [n]))) ∨
      walk d follow links from_ ns = .ok found := by
  induction links generalizing found from_ ns with
  | zero =>
    rw [walk] at hw ⊢
    refine h.walkNames_create ht ?_ ns from_ ⟨_, hfrom⟩ hw
    intro _ _ _ _ _ hj
    cases hj
  | succ links ih =>
    rw [walk] at hw ⊢
    refine h.walkNames_create ht (fun at_ target left found hdir hj => ih _ _ ?_ hj) ns from_ ⟨_, hfrom⟩ hw
    split
    · rfl
    · exact hdir

/-- What a path leads to when there is a new file: that file, where it led to nothing before, or what it led to before. -/
theorem Lacks.resolve_create (ht : d.IsTree) (h : d.Lacks start n) (hr : (d.create (start ++ [n])).2.resolve follow path = .ok found) :
    (found = .node (start ++ [n]) (.file d.files.length) ∧ d.resolve follow path = .ok (.missing (start ++ [n]))) ∨
      d.resolve follow path = .ok found := by
  rw [resolve] at hr ⊢
  split at hr
  · cases hr
  · rename_i hpath
    rw [if_neg hpath]
    refine h.walk_create ht _ _ _ ?_ hr
    rw [origin]
    split
    · rfl
    · exact ht.home

/-- Names that lead to the place of a new file lead to the file. -/
theorem Lacks.walkNames_create_self (h : d.Lacks start n) {jump jump' : Place → String → List String → Except Errno Found}
    (hj : ∀ from_ target left, jump from_ target left = .ok (.missing (start ++ [n])) →
      jump' from_ target left = .ok (.node (start ++ [n]) (.file d.files.length)))
    (ns : List String) (from_ : Place) (hw : walkNames d follow jump from_ ns = .ok (.missing (start ++ [n]))) :
    walkNames (d.create (start ++ [n])).2 follow jump' from_ ns = .ok (.node (start ++ [n]) (.file d.files.length)) := by
  induction ns generalizing from_ with
  | nil =>
    rw [walkNames] at hw
    split at hw <;> cases hw
  | cons m ns ih =>
    rcases passes_or_lacks hw with ⟨way, hpasses, hrest⟩ | ⟨rfl, hlacks, heq⟩
    · rw [(hpasses.mono h.extends_create).walkNames_cons]
      cases way with
      | on next => exact ih next hrest
      | link next target =>
        rw [Way.rest] at hrest ⊢
        split at hrest
        · cases hrest
        · rename_i hlast
          rw [if_neg hlast]
          exact hj _ _ _ hrest
    · obtain ⟨rfl, hname⟩ := List.append_inj' (Found.missing.inj heq) rfl
      obtain rfl := List.singleton_inj.1 hname
      have hnew : (d.create (start ++ [n])).2.node? (start ++ [n]) = some (.file d.files.length) := by
        rw [h.node?_create, if_pos rfl]
      have hpasses : (d.create (start ++ [n])).2.Passes start n (.on (start ++ [n])) := by
        refine ⟨h.extends_create.2 _ _ hlacks.directory, hlacks.short, .entry hlacks.ne_parent hnew ?_⟩
        intro _ hlink
        cases hlink
      rw [hpasses.walkNames_cons, Way.rest, walkNames, hnew]

/-- A path that led to the place of a new file leads to the file. -/
theorem Lacks.resolve_create_self (h : d.Lacks start n) (hr : d.resolve follow path = .ok (.missing (start ++ [n]))) :
    (d.create (start ++ [n])).2.resolve follow path = .ok (.node (start ++ [n]) (.file d.files.length)) := by
  have hwalk (links : Nat) : ∀ from_ ns, walk d follow links from_ ns = .ok (.missing (start ++ [n])) →
      walk (d.create (start ++ [n])).2 follow links from_ ns = .ok (.node (start ++ [n]) (.file d.files.length)) := by
    induction links with
    | zero =>
      intro from_ ns hw
      rw [walk] at hw ⊢
      refine h.walkNames_create_self ?_ ns from_ hw
      intro _ _ _ hj
      cases hj
    | succ links ih =>
      intro from_ ns hw
      rw [walk] at hw ⊢
      exact h.walkNames_create_self (fun _ _ _ hj => ih _ _ hj) ns from_ hw
  rw [resolve] at hr ⊢
  split at hr
  · cases hr
  · rename_i hpath
    rw [if_neg hpath]
    exact hwalk _ _ _ hr

theorem node?_of_walkNames {jump : Place → String → List String → Except Errno Found}
    (hj : ∀ start target left, jump start target left = .ok (.node place node) → d.node? place = some node)
    (h : walkNames d follow jump start ns = .ok (.node place node)) : d.node? place = some node := by
  induction ns generalizing start with
  | nil =>
    obtain ⟨rfl, hnode⟩ := walkNames_nil_iff.1 h
    exact hnode
  | cons n ns ih =>
    obtain ⟨way, hpasses, hrest⟩ := exists_passes h
    cases way with
    | on next => exact ih hrest
    | link next target =>
      rw [Way.rest] at hrest
      split at hrest
      · cases hrest
        obtain ⟨-, -, hpoints⟩ := hpasses
        cases hpoints with
        | link _ hnode => exact hnode
      · exact hj _ _ _ hrest

theorem node?_of_walk {links : Nat} (h : walk d follow links start ns = .ok (.node place node)) : d.node? place = some node := by
  induction links generalizing start ns with
  | zero =>
    rw [walk] at h
    refine node?_of_walkNames ?_ h
    intro _ _ _ hj
    cases hj
  | succ links ih =>
    rw [walk] at h
    exact node?_of_walkNames (fun _ _ _ hj => ih hj) h

/-- A path leads to what stands at a place. -/
theorem node?_of_resolve (h : d.resolve follow path = .ok (.node place node)) : d.node? place = some node := by
  rw [resolve] at h
  split at h
  · cases h
  · exact node?_of_walk h

/-- A path that leads to an entry leads there still when the disk has more entries. -/
theorem resolve_mono (h : d.Extends d') (hr : d.resolve follow path = .ok (.node place node)) :
    d'.resolve follow path = .ok (.node place node) := by
  rw [resolve] at hr ⊢
  split at hr
  · cases hr
  · rename_i hpath
    have ho : d'.origin path = d.origin path := by rw [origin, origin, h.1]
    rw [if_neg hpath, ho]
    exact walk_mono h _ _ _ hr

end Disk

end QueueBroker

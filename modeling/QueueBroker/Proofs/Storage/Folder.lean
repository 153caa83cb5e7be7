import Mathlib.Logic.Function.Basic
import QueueBroker.Proofs.Storage.Faults
import QueueBroker.Proofs.Storage.Paths

/-!
# Files of a folder

A folder is a directory as far as some of its names go. `Folder.Shows` says that a disk holds nothing but regular files under
these names, and which contents; every file operation on them is then a change of the contents under one name, and all that a
program sees of the disk.
-/

namespace QueueBroker

/-- Some names in the directory that a path leads to. -/
structure Folder where
  path : String
  place : Place
  names : String → Prop
  plain : ∀ n, names n → Disk.IsFileName n

/-- The contents of files by name; none where no file is. -/
abbrev Contents := String → Option Bytes

namespace Disk

/-- The number of the regular file with a name at a place. -/
def fileAt (d : Disk) (place : Place) (name : String) : Option Nat :=
  match d.node? (place ++ [name]) with
  | some (.file id) => some id
  | _ => none

theorem fileAt_eq_some_iff {d : Disk} {place : Place} {name : String} {id : Nat} :
    d.fileAt place name = some id ↔ d.node? (place ++ [name]) = some (.file id) := by
  rw [fileAt]
  split
  · rename_i h
    simp [h]
  · rename_i h
    exact ⟨fun he => (nomatch he), fun he => (h id he).elim⟩

theorem extends_setContent (d : Disk) (id : Nat) (bytes : Bytes) : d.Extends (d.setContent id bytes) :=
  ⟨rfl, fun _ _ h => h⟩

theorem content_setContent_self {d : Disk} {id : Nat} (h : id < d.files.length) (bytes : Bytes) :
    (d.setContent id bytes).content id = bytes := by
  simp [content, setContent, h]

theorem content_setContent_of_ne (d : Disk) {id other : Nat} (h : other ≠ id) (bytes : Bytes) :
    (d.setContent id bytes).content other = d.content other := by
  simp [content, setContent, List.getD_eq_getElem?_getD, List.getElem?_set_ne h.symm]

theorem node?_setNode {d : Disk} {place : Place} (hne : place ≠ []) (h : d.node? place = none) (node : Node) (other : Place) :
    (d.setNode place node).node? other = if other = place then some node else d.node? other := by
  have hplace : d.nodes.lookup place = none := by
    rw [node?, if_neg (by simpa using hne)] at h
    exact h
  rw [setNode, node?, node?]
  dsimp only
  by_cases ho : other = place
  · subst ho
    rw [if_neg (by simpa using hne), if_pos rfl, List.lookup_append, hplace]
    simp
  · rw [if_neg ho, List.lookup_append]
    by_cases he : other.isEmpty = true
    · rw [if_pos he, if_pos he]
    · rw [if_neg he, if_neg he]
      have hb : (other == place) = false := by simpa using ho
      simp [List.lookup_cons, hb]

theorem node?_create {d : Disk} {place : Place} (hne : place ≠ []) (h : d.node? place = none) (other : Place) :
    (d.create place).2.node? other = if other = place then some (.file d.files.length) else d.node? other :=
  node?_setNode hne h _ other

theorem extends_create {d : Disk} {place : Place} (hne : place ≠ []) (h : d.node? place = none) :
    d.Extends (d.create place).2 := by
  refine ⟨rfl, fun other node hn => ?_⟩
  rw [node?_create hne h]
  by_cases ho : other = place
  · rw [ho, h] at hn
    nomatch hn
  · rw [if_neg ho]
    exact hn

theorem content_create {d : Disk} (place : Place) {id : Nat} (h : id < d.files.length) :
    (d.create place).2.content id = d.content id := by
  simp [content, create, List.getD_eq_getElem?_getD, List.getElem?_append_left h]

theorem content_create_self (d : Disk) (place : Place) : (d.create place).2.content d.files.length = [] := by
  simp [content, create, List.getD_eq_getElem?_getD]

end Disk

namespace Folder

variable {F : Folder} {c : Contents} {d d' : Disk} {n : String} {h : Handle} {id : Nat}

/-- A disk holds regular files only under the names of a folder, each under one name, and with these contents. -/
structure Shows (F : Folder) (c : Contents) (d : Disk) : Prop where
  leads : d.LeadsTo F.path F.place
  regular : ∀ n, F.names n → ∀ node, d.node? (F.place ++ [n]) = some node → ∃ id < d.files.length, node = .file id
  apart : ∀ m n id, F.names m → F.names n → d.fileAt F.place m = some id → d.fileAt F.place n = some id → m = n
  contents : ∀ n, F.names n → (d.fileAt F.place n).map d.content = c n

/-- An open file is that of a name. -/
def Opens (F : Folder) (d : Disk) (n : String) (h : Handle) : Prop :=
  ∃ id, h = .file id ∧ d.fileAt F.place n = some id

theorem Opens.mono (ho : F.Opens d n h) (hd : d.Extends d') : F.Opens d' n h := by
  obtain ⟨id, rfl, hf⟩ := ho
  exact ⟨id, rfl, Disk.fileAt_eq_some_iff.2 (hd.2 _ _ (Disk.fileAt_eq_some_iff.1 hf))⟩

namespace Shows

variable (hs : F.Shows c d) (hn : F.names n)
include hs

include hn

theorem node?_eq : d.node? (F.place ++ [n]) = (d.fileAt F.place n).map .file := by
  rw [Disk.fileAt]
  cases hm : d.node? (F.place ++ [n]) with
  | none => rfl
  | some node =>
    obtain ⟨id, -, rfl⟩ := hs.regular n hn node hm
    rfl

theorem lt_of_fileAt (hf : d.fileAt F.place n = some id) : id < d.files.length := by
  obtain ⟨id', hlt, he⟩ := hs.regular n hn _ (Disk.fileAt_eq_some_iff.1 hf)
  rw [Node.file.injEq] at he
  exact he ▸ hlt

theorem eq_content (hf : d.fileAt F.place n = some id) : c n = some (d.content id) := by
  rw [← hs.contents n hn, hf]
  rfl

theorem eq_none_iff : c n = none ↔ d.fileAt F.place n = none := by
  rw [← hs.contents n hn, Option.map_eq_none_iff]

/-- Where the path of a file leads. -/
theorem resolve_eq : d.resolve true (Disk.join F.path n) = .ok (d.foundAt (F.place ++ [n])) := by
  refine hs.leads.resolve_join (F.plain n hn) fun target => ?_
  rw [hs.node?_eq hn]
  cases d.fileAt F.place n <;> simp

theorem contentsAt_eq {bytes : Bytes} (hc : c n = some bytes) : d.contentsAt (Disk.join F.path n) = .ok bytes := by
  rw [Disk.contentsAt, hs.resolve_eq hn, Disk.foundAt, hs.node?_eq hn]
  cases hf : d.fileAt F.place n with
  | none =>
    rw [(hs.eq_none_iff hn).2 hf] at hc
    cases hc
  | some id =>
    rw [hs.eq_content hn hf] at hc
    obtain rfl := Option.some.inj hc
    rfl

theorem pathExists_eq : d.pathExists (Disk.join F.path n) = .ok (c n).isSome := by
  rw [Disk.pathExists, hs.resolve_eq hn, Disk.foundAt, hs.node?_eq hn]
  cases hf : d.fileAt F.place n with
  | none => rw [(hs.eq_none_iff hn).2 hf]; rfl
  | some id => rw [hs.eq_content hn hf]; rfl

/-- New contents of one file. -/
theorem setContent (hf : d.fileAt F.place n = some id) (bytes : Bytes) :
    F.Shows (Function.update c n (some bytes)) (d.setContent id bytes) where
  leads := hs.leads.mono (Disk.extends_setContent d id bytes)
  regular m hm node hnode := by
    obtain ⟨i, hi, he⟩ := hs.regular m hm node hnode
    exact ⟨i, by simpa [Disk.setContent] using hi, he⟩
  apart := hs.apart
  contents m hm := by
    have hfm : (d.setContent id bytes).fileAt F.place m = d.fileAt F.place m := rfl
    rw [hfm]
    by_cases hmn : m = n
    · subst hmn
      rw [hf, Option.map_some, Disk.content_setContent_self (hs.lt_of_fileAt hm hf), Function.update_self]
    · rw [Function.update_of_ne hmn, ← hs.contents m hm]
      cases hm' : d.fileAt F.place m with
      | none => rfl
      | some i =>
        have hne : i ≠ id := fun he => hmn (hs.apart m n id hm hn (he ▸ hm') hf)
        rw [Option.map_some, Option.map_some, Disk.content_setContent_of_ne d hne]

theorem node?_eq_none (hf : d.fileAt F.place n = none) : d.node? (F.place ++ [n]) = none := by
  rw [hs.node?_eq hn, hf, Option.map_none]

theorem fileAt_create (hf : d.fileAt F.place n = none) (m : String) :
    (d.create (F.place ++ [n])).2.fileAt F.place m = if m = n then some d.files.length else d.fileAt F.place m := by
  rw [Disk.fileAt, Disk.node?_create (by simp) (hs.node?_eq_none hn hf), Disk.fileAt]
  by_cases hm : m = n
  · simp [hm]
  · simp [hm]

/-- A new file is none that another name has. -/
theorem apart_create (hf : d.fileAt F.place n = none) {a b : String} (ha : F.names a) (hb : F.names b)
    (hia : (d.create (F.place ++ [n])).2.fileAt F.place a = some id)
    (hib : (d.create (F.place ++ [n])).2.fileAt F.place b = some id) : a = b := by
  rw [hs.fileAt_create hn hf] at hia hib
  by_cases han : a = n
  · by_cases hbn : b = n
    · rw [han, hbn]
    · rw [if_pos han] at hia
      rw [if_neg hbn] at hib
      have hold := hs.lt_of_fileAt hb hib
      have hnew := Option.some.inj hia
      omega
  · rw [if_neg han] at hia
    by_cases hbn : b = n
    · rw [if_pos hbn] at hib
      have hold := hs.lt_of_fileAt ha hia
      have hnew := Option.some.inj hib
      omega
    · rw [if_neg hbn] at hib
      exact hs.apart a b id ha hb hia hib

/-- A new file under a name that had none. -/
theorem create (hf : d.fileAt F.place n = none) : F.Shows (Function.update c n (some [])) (d.create (F.place ++ [n])).2 where
  leads := hs.leads.mono (Disk.extends_create (by simp) (hs.node?_eq_none hn hf))
  regular m hm node hnode := by
    have hlen : (d.create (F.place ++ [n])).2.files.length = d.files.length + 1 := by simp [Disk.create]
    rw [Disk.node?_create (by simp) (hs.node?_eq_none hn hf)] at hnode
    rw [hlen]
    split at hnode
    · exact ⟨d.files.length, by omega, (Option.some.inj hnode).symm⟩
    · obtain ⟨i, hi, he⟩ := hs.regular m hm node hnode
      exact ⟨i, by omega, he⟩
  apart a b i ha hb hia hib := hs.apart_create hn hf ha hb hia hib
  contents m hm := by
    rw [hs.fileAt_create hn hf]
    by_cases hmn : m = n
    · rw [if_pos hmn, hmn, Function.update_self, Option.map_some, Disk.content_create_self]
    · rw [if_neg hmn, Function.update_of_ne hmn, ← hs.contents m hm]
      cases hi : d.fileAt F.place m with
      | none => rfl
      | some i => rw [Option.map_some, Option.map_some, Disk.content_create _ (hs.lt_of_fileAt hm hi)]

end Shows

/-! ## Operations -/

open FileOp

variable {faults : Prop}

/-- An answer is what the disk does, or a failure. -/
theorem answers_cases {op : FileOp} {reply : op.Reply} (h : Answers faults op d reply d') :
    (op.perform d = (reply, d') ∧ ¬op.Failed reply) ∨ (faults ∧ op.Failed reply ∧ op.Torn d d') := by
  cases h with
  | performed h1 h2 => exact Or.inl ⟨h1, h2⟩
  | failed h1 h2 h3 => exact Or.inr ⟨h1, h2, h3⟩

namespace Shows

variable (hs : F.Shows c d)
include hs

theorem attains_pathExists (hn : F.names n) :
    FileAttempt.Attains faults (FileAttempt.pathExists (Disk.join F.path n)) d fun b d' => d' = d ∧ b = (c n).isSome := by
  intro r d' h
  rcases answers_cases (Program.runs_request_iff.1 h) with ⟨hp, -⟩ | ⟨hf, he, -⟩
  · obtain ⟨rfl, rfl⟩ := Prod.mk.inj hp
    exact Or.inl ⟨_, hs.pathExists_eq hn, rfl, rfl⟩
  · exact Or.inr ⟨hf, exists_error_of_isOk_eq_false he⟩

theorem openFile_eq (hn : F.names n) : d.openFile false (Disk.join F.path n) =
    ((d.fileAt F.place n).elim (.error .noEntry) fun id => .ok (.file id), d) := by
  rw [Disk.openFile, hs.resolve_eq hn, Disk.foundAt, hs.node?_eq hn]
  cases d.fileAt F.place n with
  | none => rfl
  | some id => rfl

/-- Opening a file that is not there tells so, and is no failure. -/
theorem runs_openExisting_none (hn : F.names n) (hc : c n = none) {r : Except Errno Handle}
    (h : Program.Runs (Answers faults) (FileAttempt.openExisting (Disk.join F.path n)).run d r d') :
    (r = .error .noEntry ∧ d' = d) ∨ (faults ∧ ∃ e, r = .error e ∧ e ≠ .noEntry) := by
  rcases answers_cases (Program.runs_request_iff.1 h) with ⟨hp, -⟩ | ⟨hf, he, -⟩
  · rw [FileOp.perform, hs.openFile_eq hn, (hs.eq_none_iff hn).1 hc] at hp
    obtain ⟨rfl, rfl⟩ := Prod.mk.inj hp
    exact Or.inl ⟨rfl, rfl⟩
  · obtain ⟨e, rfl, hne⟩ := he
    exact Or.inr ⟨hf, e, rfl, hne⟩

/-- Opening a file that is there opens it or fails. -/
theorem runs_openExisting_some (hn : F.names n) {bytes : Bytes} (hc : c n = some bytes) {r : Except Errno Handle}
    (h : Program.Runs (Answers faults) (FileAttempt.openExisting (Disk.join F.path n)).run d r d') :
    (∃ file, r = .ok file ∧ d' = d ∧ F.Opens d n file) ∨ (faults ∧ (∃ e, r = .error e ∧ e ≠ .noEntry) ∧ d' = d) := by
  rcases answers_cases (Program.runs_request_iff.1 h) with ⟨hp, -⟩ | ⟨hf, he, ht⟩
  · rw [FileOp.perform, hs.openFile_eq hn] at hp
    cases hid : d.fileAt F.place n with
    | none =>
      rw [(hs.eq_none_iff hn).2 hid] at hc
      cases hc
    | some id =>
      rw [hid] at hp
      obtain ⟨rfl, rfl⟩ := Prod.mk.inj hp
      exact Or.inl ⟨_, rfl, rfl, id, rfl, hid⟩
  · obtain ⟨e, rfl, hne⟩ := he
    exact Or.inr ⟨hf, ⟨e, rfl, hne⟩, ht⟩

theorem attains_openExisting (hn : F.names n) {bytes : Bytes} (hc : c n = some bytes) :
    FileAttempt.Attains faults (FileAttempt.openExisting (Disk.join F.path n)) d fun file d' =>
      d' = d ∧ F.Opens d n file := by
  intro r d' h
  rcases hs.runs_openExisting_some hn hc h with ⟨file, rfl, hd, ho⟩ | ⟨hf, ⟨e, rfl, -⟩, -⟩
  · exact Or.inl ⟨file, rfl, hd, ho⟩
  · exact Or.inr ⟨hf, e, rfl⟩

/-- Opening a file for writing makes it if it is not there. -/
theorem perform_openAppend (hn : F.names n) :
    (∃ file, (d.openFile true (Disk.join F.path n)).1 = .ok file ∧ F.Opens (d.openFile true (Disk.join F.path n)).2 n file) ∧
      d.Extends (d.openFile true (Disk.join F.path n)).2 ∧
      F.Shows (Function.update c n (some ((c n).getD []))) (d.openFile true (Disk.join F.path n)).2 := by
  rw [Disk.openFile, hs.resolve_eq hn, Disk.foundAt, hs.node?_eq hn]
  cases hid : d.fileAt F.place n with
  | none =>
    have hc := hs.create hn hid
    have hf := (hs.fileAt_create hn hid n).trans (if_pos rfl)
    refine ⟨⟨_, rfl, _, rfl, hf⟩, ?_, ?_⟩
    · exact Disk.extends_create (by simp) (hs.node?_eq_none hn hid)
    · rw [(hs.eq_none_iff hn).2 hid]
      exact hc
  | some id =>
    refine ⟨⟨_, rfl, id, rfl, hid⟩, Disk.Extends.refl _, ?_⟩
    have hc := hs.eq_content hn hid
    rw [hc, Option.getD_some, ← hc, Function.update_eq_self]
    exact hs

theorem attains_openAppend (hn : F.names n) :
    FileAttempt.Attains faults (FileAttempt.openAppend (Disk.join F.path n)) d fun file d' =>
      F.Opens d' n file ∧ d.Extends d' ∧ F.Shows (Function.update c n (some ((c n).getD []))) d' := by
  intro r d' h
  rcases answers_cases (Program.runs_request_iff.1 h) with ⟨hp, -⟩ | ⟨hf, he, -⟩
  · have hp : d.openFile true (Disk.join F.path n) = (r, d') := hp
    obtain ⟨⟨file, hfile, ho⟩, hext, hshows⟩ := hs.perform_openAppend hn
    rw [hp] at hfile ho hext hshows
    exact Or.inl ⟨file, hfile, ho, hext, hshows⟩
  · exact Or.inr ⟨hf, exists_error_of_isOk_eq_false he⟩

theorem attains_read (hn : F.names n) (ho : F.Opens d n h) {bytes : Bytes} (hc : c n = some bytes) :
    FileAttempt.Attains faults (FileAttempt.read h) d fun read d' => d' = d ∧ read = bytes := by
  obtain ⟨id, rfl, hid⟩ := ho
  intro r d' h
  rcases answers_cases (Program.runs_request_iff.1 h) with ⟨hp, -⟩ | ⟨hf, he, -⟩
  · obtain ⟨rfl, rfl⟩ := Prod.mk.inj hp
    exact Or.inl ⟨_, rfl, rfl, Option.some.inj ((hs.eq_content hn hid).symm.trans hc)⟩
  · exact Or.inr ⟨hf, exists_error_of_isOk_eq_false he⟩

/-- Cutting a file to no more than its length leaves what is before. -/
theorem perform_truncate (hn : F.names n) (ho : F.Opens d n h) {bytes : Bytes} (hc : c n = some bytes) {length : Nat}
    (hl : length ≤ bytes.length) :
    d.Extends (d.truncate h length).2 ∧ F.Shows (Function.update c n (some (bytes.take length))) (d.truncate h length).2 := by
  obtain ⟨id, rfl, hid⟩ := ho
  have hcontent : d.content id = bytes := Option.some.inj ((hs.eq_content hn hid).symm.trans hc)
  rw [Disk.truncate, hcontent, if_neg (by omega), Nat.sub_eq_zero_of_le hl, List.replicate_zero, List.append_nil]
  exact ⟨Disk.extends_setContent _ _ _, hs.setContent hn hid _⟩

theorem attains_truncate (hn : F.names n) (ho : F.Opens d n h) {bytes : Bytes} (hc : c n = some bytes) {length : Nat}
    (hl : length ≤ bytes.length) :
    FileAttempt.Attains faults (FileAttempt.truncate h length) d fun _ d' =>
      d.Extends d' ∧ F.Shows (Function.update c n (some (bytes.take length))) d' := by
  intro r d' hr
  have hcut := hs.perform_truncate hn ho hc hl
  rcases answers_cases (Program.runs_request_iff.1 hr) with ⟨hp, hgood⟩ | ⟨hf, he, -⟩
  · have hp : d.truncate h length = (r, d') := hp
    rw [hp] at hcut
    cases r with
    | ok u => exact Or.inl ⟨u, rfl, hcut⟩
    | error e => exact absurd rfl hgood
  · exact Or.inr ⟨hf, exists_error_of_isOk_eq_false he⟩

/-- What a write leaves: the old contents and a part of the new bytes from their beginning. -/
theorem append_shows (hn : F.names n) (ho : F.Opens d n h) {old : Bytes} (hc : c n = some old) (bytes : Bytes) :
    ∃ k ≤ Disk.maxFile - old.length, F.Shows (Function.update c n (some (old ++ bytes.take k))) (d.append h bytes).2 ∧
      d.Extends (d.append h bytes).2 ∧
      ((d.append h bytes).1.isOk = true → bytes.length ≤ k ∧ (bytes ≠ [] → old.length + bytes.length ≤ Disk.maxFile)) := by
  obtain ⟨id, rfl, hid⟩ := ho
  have hcontent : d.content id = old := Option.some.inj ((hs.eq_content hn hid).symm.trans hc)
  have hbound : d.bound ≤ Disk.maxFile := by
    rw [Disk.bound]
    split
    · exact Nat.le_refl _
    · exact Nat.min_le_right _ _
  refine ⟨d.bound - old.length, Nat.sub_le_sub_right hbound _, ?_, Disk.extends_setContent _ _ _, ?_⟩
  · rw [Disk.append, hcontent]
    exact hs.setContent hn hid _
  · intro hok
    rw [Disk.append, hcontent] at hok
    by_cases hfits : bytes.length ≤ d.bound - old.length
    · refine ⟨hfits, fun hne => ?_⟩
      have := List.length_pos_iff.2 hne
      omega
    · rw [if_neg hfits] at hok
      nomatch hok

theorem runs_append (hn : F.names n) (ho : F.Opens d n h) {old : Bytes} (hc : c n = some old) {bytes : Bytes}
    {r : Except Errno Unit} (h : Program.Runs (Answers faults) (FileAttempt.append h bytes).run d r d') :
    (r = .ok () ∧ (bytes ≠ [] → old.length + bytes.length ≤ Disk.maxFile) ∧ d.Extends d' ∧
        F.Shows (Function.update c n (some (old ++ bytes))) d') ∨
      (faults ∧ (∃ e, r = .error e) ∧ d.Extends d' ∧
        ∃ k, F.Shows (Function.update c n (some (old ++ bytes.take k))) d') := by
  rcases answers_cases (Program.runs_request_iff.1 h) with ⟨hp, hok⟩ | ⟨hf, he, k, rfl⟩
  · left
    obtain ⟨k, -, hk, hext, hfit⟩ := hs.append_shows hn ho hc bytes
    have hp : d.append _ bytes = (r, d') := hp
    rw [hp] at hk hext hfit
    cases r with
    | error e => exact absurd rfl hok
    | ok u =>
      obtain ⟨hlen, hmax⟩ := hfit rfl
      rw [List.take_of_length_le hlen] at hk
      exact ⟨rfl, hmax, hext, hk⟩
  · right
    obtain ⟨j, -, hj, hext, -⟩ := hs.append_shows hn ho hc (bytes.take k)
    rw [List.take_take] at hj
    exact ⟨hf, exists_error_of_isOk_eq_false he, hext, _, hj⟩

omit hs in
theorem runs_sync (ho : F.Opens d n h) {r : Except Errno Unit}
    (h : Program.Runs (Answers faults) (FileAttempt.sync h).run d r d') :
    d' = d ∧ (r = .ok () ∨ faults ∧ ∃ e, r = .error e) := by
  obtain ⟨id, rfl, -⟩ := ho
  rcases answers_cases (Program.runs_request_iff.1 h) with ⟨hp, -⟩ | ⟨hf, he, ht⟩
  · obtain ⟨rfl, rfl⟩ := Prod.mk.inj hp
    exact ⟨rfl, Or.inl rfl⟩
  · exact ⟨ht, Or.inr ⟨hf, exists_error_of_isOk_eq_false he⟩⟩

theorem attains_makeDirectories :
    FileAttempt.Attains faults (FileAttempt.makeDirectories F.path) d fun _ d' => d' = d := by
  intro r d' h
  rcases answers_cases (Program.runs_request_iff.1 h) with ⟨hp, -⟩ | ⟨hf, he, -⟩
  · have hp : d.makeDirectories F.path = (r, d') := hp
    rw [Disk.makeDirectories, hs.leads.makeFirst (Nat.le_refl _)] at hp
    obtain ⟨rfl, rfl⟩ := Prod.mk.inj hp
    exact Or.inl ⟨_, rfl, rfl⟩
  · exact Or.inr ⟨hf, exists_error_of_isOk_eq_false he⟩

/-- A record that is written stands whole at the end of the file, one that is not with a part of it at most. -/
theorem runs_appendRecord (hn : F.names n) (ho : F.Opens d n h) {old : Bytes} (hc : c n = some old) {bytes : Bytes}
    (durable : Bool) {r : Except Errno Unit}
    (h : Program.Runs (Answers faults) (FileAttempt.appendRecord h bytes durable).run d r d') :
    (r = .ok () ∧ (bytes ≠ [] → old.length + bytes.length ≤ Disk.maxFile) ∧ d.Extends d' ∧
        F.Shows (Function.update c n (some (old ++ bytes))) d') ∨
      (faults ∧ (∃ e, r = .error e) ∧ d.Extends d' ∧
        ∃ k, F.Shows (Function.update c n (some (old ++ bytes.take k))) d') := by
  rw [FileAttempt.appendRecord, FileAttempt.runs_bind_iff] at h
  rcases h with ⟨u, d₁, happend, h⟩ | ⟨e, happend, rfl⟩
  · rcases hs.runs_append hn ho hc happend with ⟨-, hmax, hext, hs⟩ | ⟨-, ⟨e, he⟩, -⟩
    · cases durable with
      | false =>
        obtain ⟨rfl, rfl⟩ := FileAttempt.runs_pure_iff.1 h
        exact Or.inl ⟨rfl, hmax, hext, hs⟩
      | true =>
        obtain ⟨rfl, rfl | ⟨hf, he⟩⟩ := runs_sync (ho.mono hext) h
        · exact Or.inl ⟨rfl, hmax, hext, hs⟩
        · refine Or.inr ⟨hf, he, hext, bytes.length, ?_⟩
          rw [List.take_length]
          exact hs
    · cases he
  · rcases hs.runs_append hn ho hc happend with ⟨he, -⟩ | ⟨hf, -, hext, hs⟩
    · cases he
    · exact Or.inr ⟨hf, ⟨e, rfl⟩, hext, hs⟩

theorem attains_appendRecord (hn : F.names n) (ho : F.Opens d n h) {old : Bytes} (hc : c n = some old) (bytes : Bytes)
    (durable : Bool) :
    FileAttempt.Attains faults (FileAttempt.appendRecord h bytes durable) d fun _ d' =>
      d.Extends d' ∧ F.Shows (Function.update c n (some (old ++ bytes))) d' := by
  intro r d' h
  rcases hs.runs_appendRecord hn ho hc durable h with ⟨rfl, -, hshows⟩ | ⟨hf, he, -⟩
  · exact Or.inl ⟨_, rfl, hshows⟩
  · exact Or.inr ⟨hf, he⟩

/-! ## Operations that succeed -/

theorem succeeds_pathExists (hn : F.names n) :
    FileAttempt.Succeeds (FileAttempt.pathExists (Disk.join F.path n)) d (c n).isSome d :=
  Program.runs_request_iff.2 (.performed (Prod.ext (hs.pathExists_eq hn) rfl) nofun)

theorem succeeds_openExisting (hn : F.names n) (ho : F.Opens d n h) :
    FileAttempt.Succeeds (FileAttempt.openExisting (Disk.join F.path n)) d h d := by
  obtain ⟨id, rfl, hid⟩ := ho
  refine Program.runs_request_iff.2 (.performed ?_ nofun)
  rw [FileOp.perform, hs.openFile_eq hn, hid]
  rfl

/-- Opening a file for writing that is there changes nothing. -/
theorem succeeds_openAppend (hn : F.names n) (ho : F.Opens d n h) :
    FileAttempt.Succeeds (FileAttempt.openAppend (Disk.join F.path n)) d h d := by
  obtain ⟨id, rfl, hid⟩ := ho
  refine Program.runs_request_iff.2 (.performed ?_ nofun)
  rw [FileOp.perform, Disk.openFile, hs.resolve_eq hn, Disk.foundAt, hs.node?_eq hn, hid]
  rfl

theorem succeeds_read (hn : F.names n) (ho : F.Opens d n h) {bytes : Bytes} (hc : c n = some bytes) :
    FileAttempt.Succeeds (FileAttempt.read h) d bytes d := by
  obtain ⟨id, rfl, hid⟩ := ho
  obtain rfl : d.content id = bytes := Option.some.inj ((hs.eq_content hn hid).symm.trans hc)
  exact Program.runs_request_iff.2 (.performed rfl nofun)

/-! ## What operations keep -/

variable {I : Disk → Prop}

omit hs in
theorem keeps_pathExists {path : String} (h0 : I d) : FileAttempt.Keeps faults (FileAttempt.pathExists path) d I :=
  keeps_request (fun _ ht => ht) h0 h0

theorem keeps_openExisting (hn : F.names n) (h0 : I d) :
    FileAttempt.Keeps faults (FileAttempt.openExisting (Disk.join F.path n)) d I := by
  refine keeps_request (fun _ ht => ht) h0 ?_
  rw [FileOp.perform, hs.openFile_eq hn]
  exact h0

omit hs in
theorem keeps_read (h0 : I d) : FileAttempt.Keeps faults (FileAttempt.read h) d I :=
  keeps_request (fun _ ht => ht) h0 h0

omit hs in
theorem keeps_sync (h0 : I d) : FileAttempt.Keeps faults (FileAttempt.sync h) d I :=
  keeps_request (fun _ ht => ht) h0 h0

theorem keeps_truncate (hn : F.names n) (ho : F.Opens d n h) {bytes : Bytes} (hc : c n = some bytes) {length : Nat}
    (hl : length ≤ bytes.length) (h0 : I d)
    (h1 : ∀ d', d.Extends d' → F.Shows (Function.update c n (some (bytes.take length))) d' → I d') :
    FileAttempt.Keeps faults (FileAttempt.truncate h length) d I := by
  obtain ⟨hext, hshows⟩ := hs.perform_truncate hn ho hc hl
  exact keeps_request (fun _ ht => ht) h0 (h1 _ hext hshows)

/-- Opening a file for writing keeps what does not distinguish a missing file from an empty one. -/
theorem keeps_openAppend (hn : F.names n) (h0 : I d)
    (h1 : ∀ d', d.Extends d' → F.Shows (Function.update c n (some ((c n).getD []))) d' → I d') :
    FileAttempt.Keeps faults (FileAttempt.openAppend (Disk.join F.path n)) d I := by
  obtain ⟨-, hext, hshows⟩ := hs.perform_openAppend hn
  exact keeps_request (fun _ ht => ht) h0 (h1 _ hext hshows)

/-- While bytes are written, a part of them from their beginning is there, and no more than a file can hold. -/
theorem keeps_append (hn : F.names n) (ho : F.Opens d n h) {old : Bytes} (hc : c n = some old) {bytes : Bytes}
    (h1 : ∀ k d', d.Extends d' → F.Shows (Function.update c n (some (old ++ bytes.take k))) d' →
      (old ++ bytes.take k).length ≤ max old.length Disk.maxFile → I d') :
    FileAttempt.Keeps faults (FileAttempt.append h bytes) d I := by
  have hwritten (k : Nat) : I (d.append h (bytes.take k)).2 := by
    obtain ⟨j, hj, hshows, hext, -⟩ := hs.append_shows hn ho hc (bytes.take k)
    rw [List.take_take] at hshows
    refine h1 (min j k) _ hext hshows ?_
    rw [List.length_append, List.length_take]
    omega
  intro d' hcut
  rcases of_cut_request hcut with rfl | ⟨k, rfl⟩ | rfl
  · refine h1 0 _ (Disk.Extends.refl _) ?_ ?_
    · rw [List.take_zero, List.append_nil, ← hc, Function.update_eq_self]
      exact hs
    · rw [List.take_zero, List.append_nil]
      exact Nat.le_max_left _ _
  · exact hwritten k
  · have hall := hwritten bytes.length
    rwa [List.take_length] at hall

theorem keeps_appendRecord (hn : F.names n) (ho : F.Opens d n h) {old : Bytes} (hc : c n = some old) {bytes : Bytes}
    (durable : Bool)
    (h1 : ∀ k d', d.Extends d' → F.Shows (Function.update c n (some (old ++ bytes.take k))) d' →
      (old ++ bytes.take k).length ≤ max old.length Disk.maxFile → I d') :
    FileAttempt.Keeps faults (FileAttempt.appendRecord h bytes durable) d I := by
  have happend : FileAttempt.Keeps faults (FileAttempt.append h bytes) d I := hs.keeps_append hn ho hc h1
  refine happend.bind_runs fun _ d₁ hr => ?_
  cases durable with
  | false => exact FileAttempt.Keeps.pure (happend _ hr.cut)
  | true => exact keeps_sync (happend _ hr.cut)

end Shows

end Folder

end QueueBroker

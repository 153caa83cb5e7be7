import QueueBroker.Errno
import QueueBroker.Text.Utf8

/-!
# Disks

A tree of files: directories, regular files, symbolic links, and two devices. Names are looked up once, when a file is opened;
an open regular file is known by its number from then on, so it can be written to after its name is gone.
-/

namespace QueueBroker

/-- A device that behaves like a file. -/
inductive Device where
  /-- Takes everything and keeps nothing. -/
  | null
  /-- Has no space for anything. -/
  | full
deriving DecidableEq, Repr

/-- What an entry of a directory is. -/
inductive Node where
  | directory
  /-- The regular file with a number. -/
  | file (id : Nat)
  | link (target : String)
  | device (device : Device)
deriving DecidableEq, Repr

/-- An open file. -/
inductive Handle where
  | file (id : Nat)
  | device (device : Device)
deriving DecidableEq, Repr, Inhabited

/-- The place of an entry: the names on the way to it from the root. -/
abbrev Place := List String

/-- A tree of files. -/
structure Disk where
  /-- The entries below the root. -/
  nodes : List (Place × Node)
  /-- The contents of the regular files, by number. -/
  files : List Bytes
  /-- The directory that relative paths start from. -/
  home : Place
  /-- The offset that no write may pass, if one is set. -/
  limit : Option Nat
deriving Repr

namespace Disk

/-- A disk with the two devices and an empty home directory. -/
def empty (home : String) : Disk :=
  { nodes := [([home], .directory), (["dev"], .directory), (["dev", "null"], .device .null), (["dev", "full"], .device .full)]
    files := []
    home := [home]
    limit := none }

/-- What stands at a place; the root is a directory. -/
def node? (d : Disk) (place : Place) : Option Node :=
  if place.isEmpty then some .directory else d.nodes.lookup place

/-- Put a node at a place. -/
def setNode (d : Disk) (place : Place) (node : Node) : Disk :=
  { d with nodes := d.nodes ++ [(place, node)] }

/-- Take the node away from a place. -/
def removeNode (d : Disk) (place : Place) : Disk :=
  { d with nodes := d.nodes.filter fun entry => entry.1 != place }

/-! ## Paths -/

/-- Add a name to the path of a directory. -/
def join (directory name : String) : String :=
  if directory.isEmpty then name
  else if directory.toList.getLast? = some '/' then directory ++ name
  else directory ++ "/" ++ name

/-- Whether a path starts from the root. -/
def isAbsolute (path : String) : Bool :=
  path.toList.head? == some '/'

/-- The directory that a path starts from. -/
def origin (d : Disk) (path : String) : Place :=
  if isAbsolute path then [] else d.home

/-- The names in a path, without those that mean the directory itself. -/
def names (path : String) : List String :=
  ((path.toList.splitOn '/').map String.ofList).filter fun name => name != "" && name != "."

/-- The longest name of an entry, in bytes. -/
def maxName : Nat := 255

/-- How many links are followed for one path. -/
def maxLinks : Nat := 40

/-- Where a path leads: to an entry, or to a directory that has no entry of the last name. -/
inductive Found where
  | node (place : Place) (node : Node)
  | missing (place : Place)

/-- Follow names from the directory `place`. A link at the last name is followed if `follow` says so; what comes after a link
is left to `jump`, given the names of the link's target and those that are left. -/
def walkNames (d : Disk) (follow : Bool) (jump : Place → (target : String) → (left : List String) → Except Errno Found) :
    (place : Place) → List String → Except Errno Found
  | place, [] =>
    match d.node? place with
    | some node => .ok (.node place node)
    | none => .error .noEntry
  | place, name :: left =>
    if d.node? place ≠ some .directory then .error .notDirectory
    else if maxName < Utf8.length name then .error .nameTooLong
    else if name = ".." then walkNames d follow jump place.dropLast left
    else
      match d.node? (place ++ [name]) with
      | none => if left.isEmpty then .ok (.missing (place ++ [name])) else .error .noEntry
      | some (.link target) =>
        if left.isEmpty && !follow then .ok (.node (place ++ [name]) (.link target)) else jump place target left
      | some _ => walkNames d follow jump (place ++ [name]) left

/-- Follow names with at most `links` links on the way. -/
def walk (d : Disk) (follow : Bool) : (links : Nat) → Place → List String → Except Errno Found
  | 0 => walkNames d follow fun _ _ _ => .error .linkLoop
  | links + 1 => walkNames d follow fun place target left =>
      walk d follow links (if isAbsolute target then [] else place) (names target ++ left)

/-- Where a path leads. -/
def resolve (d : Disk) (follow : Bool) (path : String) : Except Errno Found :=
  if path.isEmpty then .error .noEntry
  else walk d follow maxLinks (d.origin path) (names path)

/-! ## Open files -/

/-- The contents of a regular file. -/
def content (d : Disk) (id : Nat) : Bytes :=
  d.files.getD id []

/-- Replace the contents of a regular file. -/
def setContent (d : Disk) (id : Nat) (bytes : Bytes) : Disk :=
  { d with files := d.files.set id bytes }

/-- Make an empty regular file at a place where nothing stands. -/
def create (d : Disk) (place : Place) : Handle × Disk :=
  let d' := d.setNode place (.file d.files.length)
  (.file d.files.length, { d' with files := d.files ++ [[]] })

/-- Open a file for writing; `make` says whether it is made when there is none. -/
def openFile (d : Disk) (make : Bool) (path : String) : Except Errno Handle × Disk :=
  match d.resolve true path with
  | .error e => (.error e, d)
  | .ok (.missing place) =>
    if make then
      let (h, d) := d.create place
      (.ok h, d)
    else (.error .noEntry, d)
  | .ok (.node _ (.file id)) => (.ok (.file id), d)
  | .ok (.node _ (.device device)) => (.ok (.device device), d)
  | .ok (.node _ _) => (.error .isDirectory, d)

/-- Whether a path leads to something, links followed. -/
def pathExists (d : Disk) (path : String) : Except Errno Bool :=
  match d.resolve true path with
  | .ok (.node _ _) => .ok true
  | .ok (.missing _) => .ok false
  | .error e => if e = .noEntry then .ok false else .error e

/-- The contents of an open file; devices have none. -/
def read (d : Disk) : Handle → Bytes
  | .file id => d.content id
  | .device _ => []

/-- The longest regular file, in bytes: offsets are 64-bit numbers with a sign. -/
def maxFile : Nat := UInt64.size / 2 - 1

/-- The offset that no regular file reaches past. -/
def bound (d : Disk) : Nat :=
  match d.limit with
  | none => maxFile
  | some limit => min limit maxFile

/-- Cut an open file to a length, or fill it up with zeros. Devices cannot be cut. -/
def truncate (d : Disk) (h : Handle) (length : Nat) : Except Errno Unit × Disk :=
  match h with
  | .device _ => (.error .invalid, d)
  | .file id =>
    let bytes := d.content id
    if bytes.length < length ∧ d.bound < length then (.error .tooLarge, d)
    else (.ok (), d.setContent id (bytes.take length ++ List.replicate (length - bytes.length) 0))

/-- Write at the end of an open file. Past the bound, what fits is written and the rest fails. -/
def append (d : Disk) (h : Handle) (bytes : Bytes) : Except Errno Unit × Disk :=
  match h with
  | .device .null => (.ok (), d)
  | .device .full => (if bytes.isEmpty then .ok () else .error .noSpace, d)
  | .file id =>
    let old := d.content id
    let fits := d.bound - old.length
    (if bytes.length ≤ fits then .ok () else .error .tooLarge, d.setContent id (old ++ bytes.take fits))

/-- Make sure that what was written to an open file stays written. Devices cannot. -/
def sync (_ : Disk) : Handle → Except Errno Unit
  | .file _ => .ok ()
  | .device _ => .error .invalid

/-! ## Directories -/

/-- Whether a path leads to a directory. -/
def isDirectory (d : Disk) (path : String) : Bool :=
  match d.resolve true path with
  | .ok (.node _ .directory) => true
  | _ => false

/-- Make one directory. -/
def makeDirectory (d : Disk) (path : String) : Except Errno Unit × Disk :=
  match d.resolve false path with
  | .error e => (.error e, d)
  | .ok (.node _ _) => (.error .fileExists, d)
  | .ok (.missing place) => (.ok (), d.setNode place .directory)

/-- Make the directory at the end of the first `count` names of a path, and those on the way to it. -/
def makeFirst (d : Disk) (root : String) (names : List String) : (count : Nat) → Except Errno Unit × Disk
  | 0 => (.ok (), d)
  | count + 1 =>
    let path := root ++ "/".intercalate (names.take (count + 1))
    let settle (result : Except Errno Unit × Disk) : Except Errno Unit × Disk :=
      match result with
      | (.ok _, d) => (.ok (), d)
      | (.error e, d) => if d.isDirectory path then (.ok (), d) else (.error e, d)
    match d.makeDirectory path with
    | (.error e, d') =>
      if e = .noEntry then
        match makeFirst d' root names count with
        | (.ok _, d) => settle (d.makeDirectory path)
        | failed => failed
      else settle (.error e, d')
    | made => made

/-- Make a directory and those on the way to it; that it is there already is no failure. -/
def makeDirectories (d : Disk) (path : String) : Except Errno Unit × Disk :=
  let names := names path
  d.makeFirst (if isAbsolute path then "/" else "") names names.length

/-- The entries of a directory by name, with the lengths of the regular files among them. -/
def list (d : Disk) (path : String) : Except Errno (List (String × Option Nat)) :=
  match d.resolve true path with
  | .error e => .error e
  | .ok (.missing _) => .error .noEntry
  | .ok (.node place .directory) =>
    let entries := d.nodes.filterMap fun (at_, node) =>
      match at_.getLast? with
      | some name =>
        if at_ = place ++ [name] then
          some (name, match node with
            | .file id => some (d.content id).length
            | _ => none)
        else none
      | none => none
    .ok (entries.mergeSort fun a b => decide (a.1 ≤ b.1))
  | .ok (.node _ _) => .error .notDirectory

/-- Make a link. -/
def makeLink (d : Disk) (path target : String) : Except Errno Unit × Disk :=
  match d.resolve false path with
  | .error e => (.error e, d)
  | .ok (.node _ _) => (.error .fileExists, d)
  | .ok (.missing place) => (.ok (), d.setNode place (.link target))

/-- Take away a name that is not a directory's. -/
def remove (d : Disk) (path : String) : Except Errno Unit × Disk :=
  match d.resolve false path with
  | .error e => (.error e, d)
  | .ok (.missing _) => (.error .noEntry, d)
  | .ok (.node _ .directory) => (.error .isDirectory, d)
  | .ok (.node place _) => (.ok (), d.removeNode place)

/-- The length of what a path leads to, if it leads to anything; directories count as empty. -/
def size? (d : Disk) (path : String) : Option Nat :=
  match d.resolve true path with
  | .ok (.node _ (.file id)) => some (d.content id).length
  | .ok (.node _ _) => some 0
  | _ => none

/-- The contents of the file that a path leads to. -/
def contentsAt (d : Disk) (path : String) : Except Errno Bytes :=
  match d.resolve true path with
  | .error e => .error e
  | .ok (.missing _) => .error .noEntry
  | .ok (.node _ .directory) => .error .isDirectory
  | .ok (.node _ (.file id)) => .ok (d.content id)
  | .ok (.node _ _) => .ok []

/-- Replace the contents of a file, or make one. -/
def write (d : Disk) (path : String) (bytes : Bytes) : Except Errno Unit × Disk :=
  match d.openFile true path with
  | (.error e, d) => (.error e, d)
  | (.ok h, d) =>
    match h with
    | .file id => (d.setContent id []).append h bytes
    | .device _ => d.append h bytes

end Disk

end QueueBroker

import QueueBroker.Config.Ini
import QueueBroker.Config.Json5
import QueueBroker.Config.Path
import QueueBroker.Config.Ron
import QueueBroker.Config.Settings
import QueueBroker.Config.Toml.Document
import QueueBroker.Config.Yaml.Document
import QueueBroker.Json.Reader
import QueueBroker.Storage.Disk

/-!
# Loading settings

Two ways to the settings of a broker. `BrokerConfig.fromFile` reads one TOML file, strictly. `BrokerConfig.load` takes what
several layers say, each over those before: the defaults, a file if it is there, and the environment.
-/

namespace QueueBroker

namespace Toml

mutual

/-- A value as a document. A moment is an object of its own kind, so it can stand where a struct is expected; a number that is
none has no document, but no setting is a real number, so any does. -/
def toJson : Toml → Json
  | text s => .text s
  | integer n => .number (.integer n)
  | real (.finite x) => .number (.real x)
  | real _ => .number (.real ⟨false, .zero⟩)
  | boolean b => .boolean b
  | moment s => .object [("moment", .text s)]
  | list items => .list (toJsonItems items)
  | table entries => .object (toJsonEntries entries)

/-- The items of a list as documents. -/
def toJsonItems : List Toml → List Json
  | [] => []
  | item :: items => item.toJson :: toJsonItems items

/-- The entries of a table as members. -/
def toJsonEntries : List (String × Toml) → List (String × Json)
  | [] => []
  | (key, value) :: entries => (key, value.toJson) :: toJsonEntries entries

end

end Toml

namespace BrokerConfig

/-! ## One file -/

/-- The settings of a TOML text. -/
def ofToml? (s : String) : Option BrokerConfig := do
  let entries ← Toml.parse? s
  match shape.conform .settings (Toml.table entries).toJson with
  | .ok v => ofJson? v
  | .error _ => none

/-- Accept settings that break no rule. -/
def checked (c : BrokerConfig) : Except BrokerError BrokerConfig :=
  match c.fault? with
  | some fault => .error (.config fault)
  | none => .ok c

/-- The settings in the TOML file of some bytes. -/
def ofFile (bytes : Bytes) : Except BrokerError BrokerConfig :=
  match Utf8.decode bytes with
  | .error _ => .error (.config .notText)
  | .ok s =>
    match ofToml? s with
    | none => .error (.config .unparsable)
    | some c => c.checked

/-- The settings in a TOML file. -/
def fromFile (path : String) (d : Disk) : Except BrokerError BrokerConfig :=
  match d.contentsAt path with
  | .error cause => .error (.config (.unreadable cause))
  | .ok bytes => ofFile bytes

/-! ## Layers -/

/-- How a file of settings is written. -/
inductive FileFormat where
  | toml
  | json
  | yaml
  | ini
  | ron
  | json5
deriving DecidableEq, Repr

/-- The endings of the names of files of settings. They are also tried where a file is not there under its own name. -/
def FileFormat.endings : List (String × FileFormat) :=
  [("toml", .toml), ("json", .json), ("yaml", .yaml), ("yml", .yaml), ("ini", .ini), ("ron", .ron),
    ("json5", .json5)]

/-- The format of the files whose names end in a point and `ending`. -/
def FileFormat.ofEnding? (ending : String) : Option FileFormat :=
  endings.lookup ending

/-- The last part of the name of a file after a point that does not begin the name. -/
def ending? (path : String) : Option String := do
  let name ← (Disk.names path).getLast?
  match name.toList.splitOn '.' with
  | _ :: [] => none
  | [] :: [_] => none
  | parts => parts.getLast?.map String.ofList

/-- The contents of a regular file. -/
def regular? (d : Disk) (path : String) : Option Bytes :=
  match d.resolve true path with
  | .ok (.node _ (.file id)) => some (d.content id)
  | _ => none

/-- The file that a path means: itself if it has a known ending, or, if it is not there, one with an ending added. -/
def findFile (path : String) (d : Disk) : Option (FileFormat × Bytes) :=
  match regular? d path with
  | some bytes => (ending? path).bind fun ending => (FileFormat.ofEnding? ending).map fun format => (format, bytes)
  | none => FileFormat.endings.findSome? fun (ending, format) =>
      (regular? d (path ++ "." ++ ending)).map fun bytes => (format, bytes)

/-- The files that a path may mean. -/
def candidates (path : String) : List String :=
  path :: FileFormat.endings.map fun (ending, _) => path ++ "." ++ ending

/-- The entries of a text in a format. -/
def textEntries? (format : FileFormat) (s : String) : Option (List (String × Setting)) :=
  match format with
  | .toml => (Toml.parse? s).map Setting.ofTomlEntries
  | .yaml => Yaml.parse? s
  | .ini => Ini.parse? s
  | .ron => Ron.parse? s
  | .json5 => Json5.parse? s
  | .json =>
    match (Json.parse (Utf8.encode s)).map Json.canonical with
    | .ok (.object members) => some (Setting.ofJsonMembers members)
    | _ => none

/-- The entries of a file of settings. A file that holds no text counts as none at all. -/
def fileEntries? (format : FileFormat) (bytes : Bytes) : Option (List (String × Setting)) :=
  match Utf8.decode bytes with
  | .ok s => textEntries? format s
  | .error _ => some []

/-- What the names of variables begin with. -/
def variablePrefix : List Char := "duramq__".toList

/-- A name with points where it has two underscores. -/
def pointed : List Char → List Char
  | '_' :: '_' :: cs => '.' :: pointed cs
  | c :: cs => c :: pointed cs
  | [] => []

/-- The entry that a variable of the environment gives, if it is one of a broker's. -/
def environmentEntry? (name value : String) : Option (String × Setting) :=
  let cs := name.toLower.toList
  if variablePrefix.isPrefixOf cs then
    some (String.ofList (pointed (cs.drop variablePrefix.length)), Setting.ofWord value)
  else none

/-- Settings with the entries of one more layer. -/
def addLayer (root : Setting) (entries : List (String × Setting)) : Setting :=
  entries.foldl (fun root (key, value) => Setting.put (SettingPath.ofKey key) value root) root

/-- A value that may be missing: `convert` must accept it if it is there. -/
def orDefault {α : Type} (default : α) (convert : Setting → Option α) : Option Setting → Option α
  | none => some default
  | some v => convert v

/-- A setting as the number of a port. -/
def port? (v : Setting) : Option UInt16 := do
  let n ← v.toNatural?
  if n < UInt16.size then some (.ofNat n) else none

/-- A setting as a count. -/
def count? (v : Setting) : Option UInt64 :=
  v.toNatural?.map .ofNat

/-- The settings of a listener in a table or list. -/
def server? (v : Setting) : Option ServerSettings := do
  let default : ServerSettings := {}
  match ← v.fields? ["bind_address", "port", "max_frame_length", "idle_timeout_secs"] with
  | [address, port, length, seconds] =>
    some {
      bindAddress := ← orDefault default.bindAddress Setting.toText? address
      port := ← orDefault default.port port? port
      maxFrameLength := ← orDefault default.maxFrameLength count? length
      idleTimeoutSeconds := ← orDefault default.idleTimeoutSeconds count? seconds }
  | _ => none

/-- The settings of the storage in a table or list. -/
def storage? (v : Setting) : Option StorageSettings := do
  let default : StorageSettings := {}
  match ← v.fields? ["directory", "sync_on_write"] with
  | [directory, sync] =>
    some {
      directory := ← orDefault default.directory Setting.toText? directory
      syncOnWrite := ← orDefault default.syncOnWrite Setting.toBoolean? sync }
  | _ => none

/-- The settings that layers make. -/
def ofSetting? (v : Setting) : Option BrokerConfig := do
  match ← v.fields? ["server", "storage"] with
  | [server, storage] => some ⟨← orDefault {} server? server, ← orDefault {} storage? storage⟩
  | _ => none

/-- The settings of a file, if there is one, and the environment over it. -/
def ofLayers? (file : Option (FileFormat × Bytes)) (environment : List (String × String)) : Option BrokerConfig := do
  let entries ← match file with
    | none => some []
    | some (format, bytes) => fileEntries? format bytes
  let overrides := environment.filterMap fun (name, value) => environmentEntry? name value
  ofSetting? (addLayer (addLayer (.table []) entries) overrides)

/-- Load settings: the file of a path, if one is given and there, and the environment over it. -/
def load (path : Option String) (environment : List (String × String)) (d : Disk) : Except BrokerError BrokerConfig :=
  match ofLayers? (path.bind fun path => findFile path d) environment with
  | none => .error (.config .unloadable)
  | some c => c.checked

end BrokerConfig

end QueueBroker

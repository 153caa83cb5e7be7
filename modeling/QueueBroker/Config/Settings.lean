import QueueBroker.Error
import QueueBroker.Json.Shape

/-!
# Settings

What a broker and a client are told when they are set up: the default of each setting, its document form, and the rules that
`validate` checks.
-/

namespace QueueBroker

/-- The port that a broker listens on unless told otherwise. -/
def defaultPort : UInt16 := 2011

/-- The longest frame that is taken unless told otherwise: eight mebibytes. -/
def defaultFrameLength : UInt64 := 8 * 1024 * 1024

/-- How a broker listens. -/
structure ServerSettings where
  bindAddress : String := "0.0.0.0"
  /-- Port zero stands for any free port. -/
  port : UInt16 := defaultPort
  maxFrameLength : UInt64 := defaultFrameLength
  /-- After this many seconds without a request a session ends; zero stands for never. -/
  idleTimeoutSeconds : UInt64 := 300
deriving DecidableEq, Repr

/-- Where a broker keeps its queues. -/
structure StorageSettings where
  directory : String := "./data"
  /-- Whether every record is made to stay before the next step. -/
  syncOnWrite : Bool := true
deriving DecidableEq, Repr

/-- The settings of a broker. -/
structure BrokerConfig where
  server : ServerSettings := {}
  storage : StorageSettings := {}
deriving DecidableEq, Repr

/-- The settings of a client. -/
structure ClientConfig where
  address : String := "127.0.0.1"
  port : UInt16 := defaultPort
  /-- How many seconds connecting, and each request, may take. -/
  timeoutSeconds : UInt64 := 5
  maxFrameLength : UInt64 := defaultFrameLength
deriving DecidableEq, Repr

namespace Json

/-- A whole number as a document. -/
def natural (n : Nat) : Json :=
  .number (.integer n)

namespace Shape

/-- The number of a port. -/
def port : Shape :=
  .integer 0 (UInt16.size - 1) "u16"

/-- A number of bytes. -/
def length : Shape :=
  .integer 0 (UInt64.size - 1) "usize"

/-- A number of seconds. -/
def seconds : Shape :=
  .integer 0 (UInt64.size - 1) "u64"

end Shape

end Json

namespace ServerSettings

/-- The document of the settings. -/
def toJson (s : ServerSettings) : Json :=
  .object [("bind_address", .text s.bindAddress), ("port", .natural s.port.toNat),
    ("max_frame_length", .natural s.maxFrameLength.toNat), ("idle_timeout_secs", .natural s.idleTimeoutSeconds.toNat)]

/-- What the document looks like; any setting may be left out. -/
def shape : Json.Shape :=
  let default : ServerSettings := {}
  .record "ServerSettings" [("bind_address", some (.text default.bindAddress), .text "a string"),
    ("port", some (.natural default.port.toNat), .port),
    ("max_frame_length", some (.natural default.maxFrameLength.toNat), .length),
    ("idle_timeout_secs", some (.natural default.idleTimeoutSeconds.toNat), .seconds)]

/-- The settings of a document of their shape. -/
def ofJson? : Json → Option ServerSettings
  | .object [(_, .text bindAddress), (_, .number (.integer port)), (_, .number (.integer length)),
      (_, .number (.integer seconds))] =>
    some ⟨bindAddress, .ofNat port.toNat, .ofNat length.toNat, .ofNat seconds.toNat⟩
  | _ => none

end ServerSettings

namespace StorageSettings

/-- The document of the settings. -/
def toJson (s : StorageSettings) : Json :=
  .object [("directory", .text s.directory), ("sync_on_write", .boolean s.syncOnWrite)]

/-- What the document looks like; any setting may be left out. -/
def shape : Json.Shape :=
  let default : StorageSettings := {}
  .record "StorageSettings" [("directory", some (.text default.directory), .text "path string"),
    ("sync_on_write", some (.boolean default.syncOnWrite), .boolean)]

/-- The settings of a document of their shape. -/
def ofJson? : Json → Option StorageSettings
  | .object [(_, .text directory), (_, .boolean syncOnWrite)] => some ⟨directory, syncOnWrite⟩
  | _ => none

end StorageSettings

namespace BrokerConfig

/-- The document of the settings. -/
def toJson (c : BrokerConfig) : Json :=
  .object [("server", c.server.toJson), ("storage", c.storage.toJson)]

/-- What the document looks like; each part may be left out. -/
def shape : Json.Shape :=
  .record "BrokerConfig" [("server", some (ServerSettings.toJson {}), ServerSettings.shape),
    ("storage", some (StorageSettings.toJson {}), StorageSettings.shape)]

/-- The settings of a document of their shape. -/
def ofJson? : Json → Option BrokerConfig
  | .object [(_, server), (_, storage)] => do
    some ⟨← ServerSettings.ofJson? server, ← StorageSettings.ofJson? storage⟩
  | _ => none

/-- The settings that some bytes spell. -/
def parse (bytes : Bytes) : Except Json.Failure BrokerConfig :=
  shape.decode ofJson? bytes

/-- The first rule that the settings break, if any. -/
def fault? (c : BrokerConfig) : Option ConfigFault :=
  if c.server.bindAddress.isEmpty then some .emptyBindAddress
  else if c.server.maxFrameLength = 0 then some .zeroFrameLength
  else if c.storage.directory.isEmpty then some .emptyStorage
  else none

/-- Refuse settings that break a rule. -/
def validate (c : BrokerConfig) : Except BrokerError Unit :=
  match c.fault? with
  | some fault => .error (.config fault)
  | none => .ok ()

/-- The address that a broker listens on. -/
def listenAddress (c : BrokerConfig) : String :=
  c.server.bindAddress ++ ":" ++ toString c.server.port.toNat

end BrokerConfig

namespace ClientConfig

/-- The document of the settings. -/
def toJson (c : ClientConfig) : Json :=
  .object [("address", .text c.address), ("port", .natural c.port.toNat),
    ("timeout_seconds", .natural c.timeoutSeconds.toNat), ("max_frame_length", .natural c.maxFrameLength.toNat)]

/-- What the document looks like; any setting may be left out. -/
def shape : Json.Shape :=
  let default : ClientConfig := {}
  .record "ClientConfig" [("address", some (.text default.address), .text "a string"),
    ("port", some (.natural default.port.toNat), .port),
    ("timeout_seconds", some (.natural default.timeoutSeconds.toNat), .seconds),
    ("max_frame_length", some (.natural default.maxFrameLength.toNat), .length)]

/-- The settings of a document of their shape. -/
def ofJson? : Json → Option ClientConfig
  | .object [(_, .text address), (_, .number (.integer port)), (_, .number (.integer seconds)),
      (_, .number (.integer length))] =>
    some ⟨address, .ofNat port.toNat, .ofNat seconds.toNat, .ofNat length.toNat⟩
  | _ => none

/-- The settings that some bytes spell. -/
def parse (bytes : Bytes) : Except Json.Failure ClientConfig :=
  shape.decode ofJson? bytes

/-- The first rule that the settings break, if any. -/
def fault? (c : ClientConfig) : Option ConfigFault :=
  if c.address.isEmpty then some .emptyBrokerAddress
  else if c.port = 0 then some .zeroBrokerPort
  else if c.timeoutSeconds = 0 then some .zeroTimeout
  else if c.maxFrameLength = 0 then some .zeroFrameLength
  else none

/-- Refuse settings that break a rule. -/
def validate (c : ClientConfig) : Except BrokerError Unit :=
  match c.fault? with
  | some fault => .error (.config fault)
  | none => .ok ()

/-- The address of the broker. -/
def target (c : ClientConfig) : String :=
  c.address ++ ":" ++ toString c.port.toNat

end ClientConfig

end QueueBroker

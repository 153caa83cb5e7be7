import QueueBroker.Broker.Lifecycle
import QueueBroker.Command.Client
import QueueBroker.Config.Load

/-!
# The command line of the broker

The settings come from a file and the environment, and the options of the command line count more than both. Before it listens, a
broker says what it is going to do.
-/

namespace QueueBroker

/-- A line that a broker writes while it starts. -/
inductive StartLine where
  | noConfigFile
  | listenAddress (address : String)
  | storageDirectory (directory : String)
  | syncOnWrite (sync : Bool)
  | failedToStart (e : BrokerError)

namespace StartLine

/-- What a line is about. -/
def subject : StartLine → String
  | noConfigFile => "Config file not found, using defaults"
  | listenAddress _ => "Listen address"
  | storageDirectory _ => "Storage directory"
  | syncOnWrite _ => "Sync on write"
  | failedToStart _ => "Failed to start broker"

/-- What a line says about it. -/
def detail : StartLine → String
  | noConfigFile => ""
  | listenAddress address => address
  | storageDirectory directory => directory
  | syncOnWrite sync => if sync then "true" else "false"
  | failedToStart e => e.message

/-- The whole line. -/
def text (line : StartLine) : String :=
  match line with
  | noConfigFile => line.subject
  | _ => line.subject ++ ": " ++ line.detail

end StartLine

/-- A command of the broker. -/
structure ServerCommand where
  configPath : String := "config/broker.toml"
  port : Option UInt16 := none
  bindAddress : Option String := none
  storage : Option String := none
  verbose : Bool := false
deriving DecidableEq, Repr

namespace ServerCommand

/-- The options of the broker. A path is never empty. -/
def shape : CommandShape where
  options := [⟨"config", 'c', some fun s => !s.isEmpty⟩, ⟨"port", 'p', some fun s => (ClientCommand.port? s).isSome⟩,
    ⟨"bind", 'b', some fun _ => true⟩, ⟨"storage", 's', some fun s => !s.isEmpty⟩, ⟨"verbose", 'v', none⟩]
  hasVersion := true
  maxWords := 0
  hasCommands := false

/-- Read a command. -/
def read (args : List String) : Except Refusal ServerCommand := do
  let (found, _) ← Arguments.read shape args
  let default : ServerCommand := {}
  .ok {
    configPath := (found.value? "config").getD default.configPath
    port := (found.value? "port").bind ClientCommand.port?
    bindAddress := found.value? "bind"
    storage := found.value? "storage"
    verbose := (found.value? "verbose").isSome }

/-- Settings with the options of the command over them. -/
def override (c : ServerCommand) (config : BrokerConfig) : BrokerConfig where
  server := { config.server with
    port := c.port.getD config.server.port
    bindAddress := c.bindAddress.getD config.server.bindAddress }
  storage := { config.storage with directory := c.storage.getD config.storage.directory }

/-- The lines that say what a broker is going to do. -/
def announce (config : BrokerConfig) : List StartLine :=
  [.listenAddress config.listenAddress, .storageDirectory config.storage.directory,
    .syncOnWrite config.storage.syncOnWrite]

/-- What a command makes of its settings: the lines so far, and the settings to run with. -/
def prepare (c : ServerCommand) (environment : List (String × String)) (d : Disk) :
    List StartLine × Except BrokerError BrokerConfig :=
  let found := match d.pathExists c.configPath with
    | .ok found => found
    | .error _ => false
  let lines := if found then [] else [.noConfigFile]
  match BrokerConfig.load (some c.configPath) environment d with
  | .error e => (lines, .error e)
  | .ok config => (lines ++ announce (c.override config), .ok (c.override config))

/-- A broker that was launched: the lines it wrote, the machine it ran on if it came to that, and how it failed, if it did. -/
structure Launch where
  lines : List StartLine
  host : Option Host
  result : Option CommandResult

/-- Launch a broker on a machine. That it cannot start is told in a line of its own. -/
def launch (c : ServerCommand) (environment : List (String × String)) (network : Network) (disk : Disk) : Launch :=
  match c.prepare environment disk with
  | (lines, .error e) => ⟨lines, none, some (.failure "" e)⟩
  | (lines, .ok config) =>
    match Broker.new config with
    | .error e => ⟨lines, none, some (.failure "" e)⟩
    | .ok broker =>
      let host : Host := ⟨broker, network, ⟨.start (Broker.registry config), disk⟩⟩
      match host.start with
      | (.ok _, host) => ⟨lines, some host, none⟩
      | (.error e, host) => ⟨lines ++ [.failedToStart e], some host, some ⟨1, "", ""⟩⟩

/-- The exit code of a broker that was told to end. -/
def exitCode : Except BrokerError Unit → Nat
  | .ok _ => 0
  | .error _ => 1

end ServerCommand

end QueueBroker

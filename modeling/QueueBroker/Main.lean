import QueueBroker.Command.Client
import QueueBroker.Command.Server
import QueueBroker.Machine.Link
import QueueBroker.Machine.Service

/-!
# The program

Called with `client` as its first argument the program is a client, and else a broker that serves until it is interrupted.
-/

namespace QueueBroker

namespace Main

open Machine

/-- How the program is called. -/
def help : String :=
  "Usage: queuebroker [--config FILE] [--port PORT] [--bind ADDRESS] [--storage DIRECTORY] [--verbose]\n" ++
  "       queuebroker client [--address ADDRESS] [--port PORT] [--timeout SECONDS] COMMAND\n" ++
  "Commands: send DESTINATION PAYLOAD, check DESTINATION, receive DESTINATION\n"

/-- Say why nothing is done. -/
def refuse (refusal : Refusal) : IO UInt32 := do
  match refusal with
  | .usage => (← IO.getStderr).putStr help
  | .help => (← IO.getStdout).putStr help
  | .version => (← IO.getStdout).putStr "queuebroker 0.1.0\n"
  pure (UInt32.ofNat refusal.exitCode)

/-- Print what a command leaves behind. -/
def report (result : CommandResult) : IO UInt32 := do
  (← IO.getStdout).putStr result.output
  (← IO.getStderr).putStr result.errors
  pure (UInt32.ofNat result.exitCode)

/-- Write a line to the log. -/
def log (line : String) : IO Unit := do
  let out ← IO.getStdout
  out.putStrLn line
  out.flush

/-- Split bytes at those that are zero. -/
def splitZeros (bytes : Bytes) : List Bytes :=
  bytes.splitBy fun a b => a != 0 && b != 0

/-- The variables of the environment that are text. -/
def environment : IO (List (String × String)) := do
  match ← attempt (IO.FS.readBinFile "/proc/self/environ") with
  | .error _ => pure []
  | .ok bytes =>
    pure ((splitZeros (ofByteArray bytes)).filterMap fun entry =>
      match Utf8.decode entry with
      | .error _ => none
      | .ok text =>
        match text.splitOn "=" with
        | name :: value => some (name, "=".intercalate value)
        | [] => none)

/-- A disk with copies of those of some files that are there. -/
def copyOf (paths : List String) : IO Disk := do
  let mut disk := Disk.empty "home"
  for path in paths do
    if let .ok bytes := ← attempt (IO.FS.readBinFile path) then
      let parent := "/".intercalate (path.splitOn "/").dropLast
      disk := ((disk.makeDirectories parent).2.write path (ofByteArray bytes)).2
  pure disk

/-- Run a broker until it is interrupted. -/
def serve (config : BrokerConfig) : IO UInt32 := do
  let service ← Service.new config
  match ← service.start with
  | .error e =>
    log (StartLine.failedToStart e).text
    pure 1
  | .ok _ =>
    let fault ← service.awaitEnd
    if let some fault := fault then
      log ("Listener stopped: " ++ (BrokerError.server fault).message)
    match ← service.stop with
    | .error e =>
      log ("Broker error: " ++ e.message)
      pure (UInt32.ofNat (ServerCommand.exitCode (.error e)))
    | .ok _ =>
      if fault.isSome then pure 1
      else
        log "DuraMQ Server stopped"
        pure 0

/-- Run a command of the broker. -/
def runBroker (args : List String) : IO UInt32 := do
  match ServerCommand.read args with
  | .error refusal => refuse refusal
  | .ok command =>
    let (lines, prepared) := command.prepare (← environment) (← copyOf (BrokerConfig.candidates command.configPath))
    lines.forM fun line => log line.text
    match prepared with
    | .error e => report (.failure "" e)
    | .ok config =>
      match Broker.new config with
      | .error e => report (.failure "" e)
      | .ok _ => serve config

/-- Run a command of the client. -/
def runClient (args : List String) : IO UInt32 := do
  match ClientCommand.read args with
  | .error refusal => refuse refusal
  | .ok command =>
    let link ← Link.new command.config
    report (← command.run.runM link.perform)

end Main

end QueueBroker

/-- Run the program. -/
def main (args : List String) : IO UInt32 :=
  match args with
  | "client" :: args => QueueBroker.Main.runClient args
  | args => QueueBroker.Main.runBroker args

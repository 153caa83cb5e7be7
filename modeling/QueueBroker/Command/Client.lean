import QueueBroker.Client.Connection
import QueueBroker.Command.Arguments
import QueueBroker.Number.Whole

/-!
# The command line of the client

One command connects to a broker, asks it for one thing, prints what came of it, and closes the connection.
-/

namespace QueueBroker

/-- What a command leaves behind. -/
structure CommandResult where
  exitCode : Nat
  output : String
  errors : String
deriving DecidableEq, Repr

namespace CommandResult

/-- A command that did what it should. -/
def success (output : String) : CommandResult :=
  ⟨0, output, ""⟩

/-- A command that failed, after printing something. -/
def failure (output : String) (e : BrokerError) : CommandResult :=
  ⟨1, output, "Error: " ++ e.inspect ++ "\n"⟩

end CommandResult

/-- What the client is told to do. -/
inductive ClientAction where
  | send (destination payload : String)
  | check (destination : String)
  | receive (destination : String)
deriving DecidableEq, Repr

/-- A command of the client. -/
structure ClientCommand where
  config : ClientConfig
  action : ClientAction
deriving DecidableEq, Repr

namespace ClientCommand

/-- The port that a text spells. -/
def port? (s : String) : Option UInt16 := do
  let n ← Whole.signed? s
  if 0 ≤ n ∧ n < (UInt16.size : Nat) then some (.ofNat n.toNat) else none

/-- The number of seconds that a text spells. -/
def seconds? (s : String) : Option UInt64 :=
  (Whole.unsigned? s).map .ofNat

/-- The options of the client. -/
def shape : CommandShape where
  options := [⟨"address", 'a', some fun _ => true⟩, ⟨"port", 'p', some fun s => (port? s).isSome⟩,
    ⟨"timeout", 't', some fun s => (seconds? s).isSome⟩]
  hasVersion := true
  maxWords := 0
  hasCommands := true

/-- What a single action accepts. -/
def actionShape (words : Nat) : CommandShape where
  options := []
  hasVersion := false
  maxWords := words
  hasCommands := false

/-- Read the action with a name. -/
def readAction (name : String) (args : List String) : Except Refusal ClientAction := do
  match name with
  | "send" =>
    match (← Arguments.read (actionShape 2) args).1.words with
    | [destination, payload] => .ok (.send destination payload)
    | _ => .error .usage
  | "check" =>
    match (← Arguments.read (actionShape 1) args).1.words with
    | [destination] => .ok (.check destination)
    | _ => .error .usage
  | "receive" =>
    match (← Arguments.read (actionShape 1) args).1.words with
    | [destination] => .ok (.receive destination)
    | _ => .error .usage
  | "help" => .error .help
  | _ => .error .usage

/-- Read a command. -/
def read (args : List String) : Except Refusal ClientCommand := do
  let (found, rest) ← Arguments.read shape args
  let default : ClientConfig := {}
  let config := { default with
    address := (found.value? "address").getD default.address
    port := ((found.value? "port").bind port?).getD default.port
    timeoutSeconds := ((found.value? "timeout").bind seconds?).getD default.timeoutSeconds }
  match rest with
  | [] => .error .usage
  | name :: args => do
    let action ← readAction name args
    .ok ⟨config, action⟩

/-- The payload that a word spells: a document, or else the word itself. -/
def payloadOf (word : String) : Json :=
  match Json.parse (Utf8.encode word) with
  | .ok v => v.canonical
  | .error _ => .text word

/-- Close the connection after printing something, and leave with a code. -/
def finish (output : String) (exitCode : Nat) : ClientProgram CommandResult := do
  match ← Client.close with
  | .error e => pure (.failure output e)
  | .ok _ => pure ⟨exitCode, output, ""⟩

/-- Run a command. A `receive` that finds nothing prints nothing and leaves with code two. -/
def run (c : ClientCommand) : ClientProgram CommandResult := do
  match ← Client.connect c.config with
  | .error e => pure (.failure "" e)
  | .ok _ =>
    match c.action with
    | .send destination payload =>
      match ← Client.send c.config ⟨destination, payloadOf payload⟩ with
      | .error e => pure (.failure "" e)
      | .ok _ => finish "ACK\n" 0
    | .check destination =>
      match ← Client.check c.config destination with
      | .error e => pure (.failure "" e)
      | .ok waiting => finish (if waiting then "true\n" else "false\n") 0
    | .receive destination =>
      match ← Client.receive c.config destination with
      | .error e => pure (.failure "" e)
      | .ok none => finish "" 2
      | .ok (some m) => finish (m.payload.render ++ "\n") 0

end ClientCommand

end QueueBroker

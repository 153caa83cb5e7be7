import QueueBroker.Broker.State
import QueueBroker.Errno
import QueueBroker.Json.Failure
import QueueBroker.Network

/-!
# Errors

Why an operation of the broker or of a client failed. Every category has the causes that this library finds itself, and
`reported` for words that came from elsewhere, such as the reply of another broker. The wording is in `BrokerError.detail`.
-/

namespace QueueBroker

/-- What was being done to a file when it failed. -/
inductive FileAction where
  | stat
  | read
  | reset
  | openFile
  | append
  | sync
  | create
deriving DecidableEq, Repr

/-- Why reading or writing a stream failed. -/
inductive StreamFault where
  | system (cause : Errno)
  /-- The stream ended inside a frame. -/
  | cut
  /-- Nobody is left to read what is written. -/
  | noReader
  | reported (text : String)

/-- Why settings are refused. -/
inductive ConfigFault where
  | emptyBindAddress
  | zeroFrameLength
  | emptyStorage
  | emptyBrokerAddress
  | zeroBrokerPort
  | zeroTimeout
  /-- The file could not be opened or read. -/
  | unreadable (cause : Errno)
  /-- The file holds bytes that are no text. -/
  | notText
  /-- The file does not hold settings. -/
  | unparsable
  /-- The layers of file and environment do not make settings. -/
  | unloadable
  | reported (text : String)

/-- Why the files of a queue failed. -/
inductive StorageFault where
  | file (action : FileAction) (path : String) (cause : Errno)
  /-- The record of a message would be longer than its length prefix can say. -/
  | oversized (length : Nat)
  | reported (text : String)

/-- Why a name cannot be that of a destination. -/
inductive NameFault where
  | empty
  | tooLong
  | relative
  | separator
  | checkpoint
deriving DecidableEq, Repr

/-- Which destination was refused, and why. -/
inductive DestinationFault where
  | refused (name : String) (fault : NameFault)
  | reported (text : String)

/-- Why a frame is refused. -/
inductive ProtocolFault where
  | frameTooBig
  | undecodable (failure : Json.Failure)
  /-- A reply of the wrong kind for its request. -/
  | unexpectedReply (kind op : String)
  | reported (text : String)

/-- What was asked of a component in the wrong state. -/
inductive StateFault where
  | queueClosed (name : String)
  | queueAlreadyClosed (name : String)
  | cannotStart (state : BrokerState)
  | cannotStop (state : BrokerState)
  | reported (text : String)

/-- Why a broker does not listen. -/
inductive ServerFault where
  | bind (address : String) (fault : NetworkFault)
  | accept (cause : Errno)
  | reported (text : String)

/-- Why a client has no connection. -/
inductive ConnectionFault where
  | failed (target : String) (fault : NetworkFault)
  | timedOut
  | closedByBroker
  | reported (text : String)

/-- What did not happen in time. -/
inductive TimeoutFault where
  | noRequest (seconds : Nat)
  | noReply (op : String) (seconds : Nat)
  | reported (text : String)

/-- Why an operation failed, by category. -/
inductive BrokerError where
  | stream (fault : StreamFault)
  | document (failure : Json.Failure)
  | config (fault : ConfigFault)
  | storage (fault : StorageFault)
  | destination (fault : DestinationFault)
  | protocol (fault : ProtocolFault)
  | notConnected
  | state (fault : StateFault)
  | server (fault : ServerFault)
  | connection (fault : ConnectionFault)
  | timeout (fault : TimeoutFault)

/-- An action in the words of an error message. -/
def FileAction.words : FileAction → String
  | stat => "stat"
  | read => "read"
  | reset => "reset"
  | openFile => "open"
  | append => "append to"
  | sync => "sync"
  | create => "create"

/-- A stream fault in words. -/
def StreamFault.message : StreamFault → String
  | system cause => cause.message
  | cut => "bytes remaining on stream"
  | noReader => "broken pipe"
  | reported text => text

/-- A fault of settings in words. -/
def ConfigFault.message : ConfigFault → String
  | emptyBindAddress => "Bind address cannot be empty"
  | zeroFrameLength => "Max frame length must be positive"
  | emptyStorage => "Storage directory cannot be empty"
  | emptyBrokerAddress => "Broker address cannot be empty"
  | zeroBrokerPort => "Broker port cannot be 0"
  | zeroTimeout => "Timeout must be at least one second"
  | unreadable cause => "Failed to read config file: " ++ cause.message
  | notText => "Failed to read config file: stream did not contain valid UTF-8"
  | unparsable => "Failed to parse config"
  | unloadable => "Failed to load config"
  | reported text => text

/-- A storage fault in words. -/
def StorageFault.message : StorageFault → String
  | file action path cause => "failed to " ++ action.words ++ " " ++ path ++ ": " ++ cause.message
  | oversized length => "message of " ++ toString length ++ " bytes is too large"
  | reported text => text

/-- A fault of a name in words. -/
def NameFault.message : NameFault → String
  | empty => "is empty"
  | tooLong => "is too long"
  | relative => "is a relative path"
  | separator => "contains a path separator"
  | checkpoint => "collides with checkpoint file names"

/-- A refused destination in words. -/
def DestinationFault.message : DestinationFault → String
  | refused name fault => Quoted.quote name ++ " " ++ fault.message
  | reported text => text

/-- A fault of a frame in words. -/
def ProtocolFault.message : ProtocolFault → String
  | frameTooBig => "frame size too big"
  | undecodable failure => "undecodable frame: " ++ failure.message
  | unexpectedReply kind op => "unexpected " ++ kind ++ " reply to " ++ op
  | reported text => text

/-- A wrong state in words. -/
def StateFault.message : StateFault → String
  | queueClosed name => "queue " ++ name ++ " is closed"
  | queueAlreadyClosed name => "queue " ++ name ++ " is already closed"
  | cannotStart state => "cannot start a broker that is " ++ state.name
  | cannotStop state => "cannot stop a broker that is " ++ state.name
  | reported text => text

/-- A fault of the listener in words. -/
def ServerFault.message : ServerFault → String
  | bind address fault => "Failed to bind " ++ address ++ ": " ++ fault.message
  | accept cause => "accept failed: " ++ cause.message
  | reported text => text

/-- A fault of a connection in words. -/
def ConnectionFault.message : ConnectionFault → String
  | failed target fault => "Failed to connect to " ++ target ++ ": " ++ fault.message
  | timedOut => "Connection timeout"
  | closedByBroker => "Broker closed the connection"
  | reported text => text

/-- What did not happen in time, in words. -/
def TimeoutFault.message : TimeoutFault → String
  | noRequest seconds => "no request within " ++ toString seconds ++ "s"
  | noReply op seconds => op ++ " got no reply within " ++ toString seconds ++ "s"
  | reported text => text

namespace BrokerError

/-- The name of the category. -/
def kind : BrokerError → String
  | stream _ => "Io"
  | document _ => "Document"
  | config _ => "Config"
  | storage _ => "Storage"
  | destination _ => "InvalidDestination"
  | protocol _ => "Protocol"
  | notConnected => "NotConnected"
  | state _ => "IllegalState"
  | server _ => "Server"
  | connection _ => "Connection"
  | timeout _ => "Timeout"

/-- The cause in words, without its category. -/
def detail : BrokerError → String
  | stream fault => fault.message
  | document failure => failure.message
  | config fault => fault.message
  | storage fault => fault.message
  | destination fault => fault.message
  | protocol fault => fault.message
  | notConnected => "Not connected to a broker"
  | state fault => fault.message
  | server fault => fault.message
  | connection fault => fault.message
  | timeout fault => fault.message

/-- The words that stand before the cause. -/
def category : BrokerError → String
  | stream _ => "I/O error: "
  | document _ => "Serialization error: "
  | config _ => "Configuration error: "
  | storage _ => "Storage failure: "
  | destination _ => "Invalid destination: "
  | protocol _ => "Protocol violation: "
  | notConnected => ""
  | state _ => "Illegal state: "
  | server _ => "Server error: "
  | connection _ => "Connection error: "
  | timeout _ => "Timeout: "

/-- The error in words. -/
def message (e : BrokerError) : String :=
  e.category ++ e.detail

/-- Whether an error of another layer lies under this one. -/
def hasSource : BrokerError → Bool
  | stream _ => true
  | document _ => true
  | _ => false

/-- The error as a command line shows it: its category, and its cause in quotes. -/
def inspect (e : BrokerError) : String :=
  match e with
  | notConnected => e.kind
  | _ => e.kind ++ "(" ++ Quoted.quote e.detail ++ ")"

end BrokerError

end QueueBroker

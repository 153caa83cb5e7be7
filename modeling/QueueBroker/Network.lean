import QueueBroker.Errno

/-!
# Networks

The sockets of one machine: which addresses are listened on, and whether connections get anywhere.
-/

namespace QueueBroker

/-- A socket that listens. -/
structure Listener where
  host : String
  port : UInt16
deriving DecidableEq, Repr

/-- Why a socket cannot listen or connect. -/
inductive NetworkFault where
  | system (cause : Errno)
  /-- The name of a host leads to no address. -/
  | unknownHost
deriving DecidableEq, Repr

/-- A network fault in words. -/
def NetworkFault.message : NetworkFault → String
  | system cause => cause.message
  | unknownHost => "failed to lookup address information: Temporary failure in name resolution"

/-- The sockets of a machine. -/
structure Network where
  listeners : List Listener
  /-- The next port to give to a socket that asks for any. -/
  nextPort : UInt16
  /-- Why no connection gets anywhere, if none does. -/
  barrier : Option Errno
deriving Repr

namespace Network

/-- The first of the ports that are given to sockets that ask for any. -/
def firstFreePort : UInt16 := 32768

/-- A machine without sockets. -/
def quiet (barrier : Option Errno) : Network :=
  ⟨[], firstFreePort, barrier⟩

/-- The number of an address part, if it is one. -/
def octet? (s : String) : Option Nat := do
  let cs := s.toList
  if cs.isEmpty || 3 < cs.length || !cs.all Char.isDigit then none
  else
    let n ← s.toNat?
    if n < 256 ∧ (cs.length = 1 ∨ cs.head? ≠ some '0') then some n else none

/-- The four numbers of an address. -/
def address? (host : String) : Option (List Nat) := do
  let parts ← (host.splitOn ".").mapM octet?
  if parts.length = 4 then some parts else none

/-- The address that a host has: an address stands for itself. -/
def resolve (host : String) : Except NetworkFault (List Nat) :=
  if host = "localhost" then .ok [127, 0, 0, 1]
  else
    match address? host with
    | some parts => .ok parts
    | none => .error .unknownHost

/-- Whether an address is one of this machine's own. -/
def isOwn (address : List Nat) : Bool :=
  address.head? = some 127 || address = [0, 0, 0, 0]

/-- Listen on a port of a host, or on any free one if the port is zero. -/
def listen (host : String) (port : UInt16) (n : Network) : Except NetworkFault Listener × Network :=
  match resolve host with
  | .error fault => (.error fault, n)
  | .ok address =>
    if !isOwn address then (.error (.system .addressNotAvailable), n)
    else if port = 0 then
      let listener : Listener := ⟨host, n.nextPort⟩
      (.ok listener, { n with listeners := listener :: n.listeners, nextPort := n.nextPort + 1 })
    else if n.listeners.any (·.port == port) then (.error (.system .addressInUse), n)
    else
      let listener : Listener := ⟨host, port⟩
      (.ok listener, { n with listeners := listener :: n.listeners })

/-- Stop listening. -/
def release (listener : Listener) (n : Network) : Network :=
  { n with listeners := n.listeners.erase listener }

/-- What connecting to a port of a host meets. -/
def connect (host : String) (port : UInt16) (n : Network) : Except NetworkFault Unit :=
  match resolve host, n.barrier with
  | .error fault, _ => .error fault
  | .ok _, some cause => .error (.system cause)
  | .ok _, none => if n.listeners.any (·.port == port) then .ok () else .error (.system .connectionRefused)

end Network

end QueueBroker

import QueueBroker.Machine.Files
import QueueBroker.Network
import Std.Async.DNS
import Std.Async.TCP
import Std.Async.Timer

/-!
# The sockets of this machine

Addresses are looked up, sockets are made to listen, and connections are made, each within the words of `NetworkFault`.
-/

namespace QueueBroker.Machine

open Std.Async Std.Net

/-- An address that is the part of a socket's, with a port. -/
def socketAddress (port : UInt16) : IPAddr → SocketAddress
  | .v4 address => .v4 ⟨address, port⟩
  | .v6 address => .v6 ⟨address, port⟩

/-- The first address of a host. -/
def lookUp (host : String) : IO (Except NetworkFault IPAddr) := do
  match ← attempt (DNS.getAddrInfo host "").block with
  | .error _ => pure (.error .unknownHost)
  | .ok found => pure (match found[0]? with
      | some address => .ok address
      | none => .error .unknownHost)

/-- Do something at the first address of a host. -/
def atHost {α : Type} (host : String) (port : UInt16) (act : SocketAddress → IO α) : IO (Except NetworkFault α) := do
  match ← lookUp host with
  | .error fault => pure (.error fault)
  | .ok address =>
    match ← attempt (act (socketAddress port address)) with
    | .ok a => pure (.ok a)
    | .error cause => pure (.error (.system cause))

/-- How many connections may wait to be accepted. -/
def backlog : UInt32 := 1024

/-- Listen at a port of a host. -/
def listenAt (host : String) (port : UInt16) : IO (Except NetworkFault TCP.Socket.Server) :=
  atHost host port fun address => do
    let socket ← TCP.Socket.Server.mk
    socket.bind address
    socket.listen backlog
    pure socket

/-- Connect to a port of a host. -/
def connectTo (host : String) (port : UInt16) : IO (Except NetworkFault TCP.Socket.Client) :=
  atHost host port fun address => do
    let socket ← TCP.Socket.Client.mk
    (socket.connect address).block
    pure socket

/-- The longest time that a clock is set to, in milliseconds. -/
def longestWait : Nat := UInt32.size * 256

/-- A clock that rings after some milliseconds. -/
def clock (milliseconds : Nat) : Async (Selector Unit) :=
  Selector.sleep (.ofNat (min milliseconds longestWait))

/-- How many bytes are taken from a socket at a time. -/
def portion : UInt64 := 65536

end QueueBroker.Machine

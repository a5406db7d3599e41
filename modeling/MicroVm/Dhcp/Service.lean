import MicroVm.Dhcp.V4.Responder
import MicroVm.Dhcp.V6.Responder
import MicroVm.Program

/-!
# Serving DHCP

A responder makes a socket ready that sees the traffic of one bridge only. Then it takes one
datagram after another, and sends the answer to each that has one, until the socket fails to give
it more. An answer that cannot be sent is reported and the responder goes on.

All datagrams are received into the same buffer, which so still holds the end of an earlier one
behind a shorter one that came later.
-/

namespace MicroVm.Dhcp

open MicroVm.Host MicroVm.Network

inductive SocketFamily
  | inet
  | inet6
  deriving DecidableEq, Repr

inductive SocketStep
  | create (family : SocketFamily)
  /-- Several sockets may have the address. -/
  | shareAddress
  | bindToDevice (device : String)
  | allowBroadcast
  /-- Leaves IPv4 to other sockets. -/
  | onlyInet6
  | bind (address device : String)
  | lookUpIndex (device : String)
  | joinGroup (group : Ipv6) (device : String)
  | register
  deriving DecidableEq

def SocketStep.activity : SocketStep → Activity
  | .create _ => .creatingSocket
  | .shareAddress => .settingSocketOption "SO_REUSEADDR"
  | .bindToDevice device => .bindingToDevice device
  | .allowBroadcast => .settingSocketOption "SO_BROADCAST"
  | .onlyInet6 => .settingSocketOption "IPV6_V6ONLY"
  | .bind address device => .bindingAddress address device
  | .lookUpIndex device => .lookingUpIndex device
  | .joinGroup group device => .joiningGroup group.text device
  | .register => .registeringSocket

/-! ## The socket of a responder -/

inductive SocketRequest (Address : Type)
  | prepare (step : SocketStep)
  | receive
  | send (bytes : List UInt8) (destination : Address)
  | warn (destination : Address) (text : String)

def SocketRequest.Answer {Address : Type} : SocketRequest Address → Type
  | .prepare _ => Except Failure Unit
  | .receive => Except SystemError (List UInt8 × Address)
  | .send _ _ => Except SystemError Unit
  | .warn _ _ => Unit

def Socket (Address : Type) : Interface := ⟨SocketRequest Address, SocketRequest.Answer⟩

namespace Socket

variable {Address : Type}

def prepare (step : SocketStep) : Task (Socket Address) Unit :=
  Task.within step.activity (.of (Program.perform (I := Socket Address) (.prepare step)))

def prepareAll : List SocketStep → Task (Socket Address) Unit
  | [] => return ()
  | step :: steps => do
    prepare step
    prepareAll steps

def receive (protocol : String) : Task (Socket Address) (List UInt8 × Address) :=
  Task.within (.receiving protocol)
    (.ofSystem (Program.perform (I := Socket Address) .receive))

def send (bytes : List UInt8) (destination : Address) :
    Program (Socket Address) (Except SystemError Unit) :=
  Program.perform (I := Socket Address) (.send bytes destination)

def warn (destination : Address) (text : String) : Program (Socket Address) Unit :=
  Program.perform (I := Socket Address) (.warn destination text)

end Socket

/-! ## Responders -/

def bufferSize : Nat := 1500

theorem length_take_append_drop {size : Nat} (buffer : Octets size) (datagram : List UInt8) :
    (datagram.take size ++ buffer.bytes.drop datagram.length).length = size := by
  simp only [List.length_append, List.length_take, List.length_drop, buffer.length_bytes]
  omega

/-- What a received datagram makes of a buffer: it stands in front, without what does not fit, and
behind it is what was there before. -/
def fill {size : Nat} (buffer : Octets size) (datagram : List UInt8) : Octets size :=
  ⟨datagram.take size ++ buffer.bytes.drop datagram.length,
    length_take_append_drop buffer datagram⟩

structure Responder (Address : Type) where
  protocol : String
  steps : List SocketStep
  /-- The bytes of the answer and where they go, nothing when there is no answer. -/
  answer : List UInt8 → Address → Option (List UInt8 × Address)

namespace Responder

variable {Address : Type}

def reply (responder : Responder Address) (received : List UInt8) (sender : Address) :
    Program (Socket Address) Unit :=
  match responder.answer received sender with
  | none => return ()
  | some (bytes, destination) => do
    match ← Socket.send bytes destination with
    | .ok () => return ()
    | .error error =>
      Socket.warn destination s!"failed to send {responder.protocol} reply: {error.message}"

def round (responder : Responder Address) (buffer : Octets bufferSize) :
    Task (Socket Address) (Octets bufferSize) := do
  let (datagram, sender) ← Socket.receive responder.protocol
  let buffer := fill buffer datagram
  responder.reply (buffer.bytes.take (min datagram.length bufferSize)) sender
  return buffer

def rounds (responder : Responder Address) :
    (count : Nat) → Octets bufferSize → Task (Socket Address) Unit
  | 0, _ => return ()
  | count + 1, buffer => do
    let buffer ← responder.round buffer
    responder.rounds count buffer

/-- Serves until a number of datagrams were taken or the socket fails. -/
def serve (responder : Responder Address) (count : Nat) : Task (Socket Address) Unit := do
  Socket.prepareAll responder.steps
  responder.rounds count (.zero bufferSize)

end Responder

def V4.responder (lease : Lease) : Responder V4.Endpoint where
  protocol := "DHCPv4"
  steps := [.create .inet, .shareAddress, .bindToDevice lease.bridge, .allowBroadcast,
    .bind s!"0.0.0.0:{V4.serverPort}" lease.bridge, .register]
  answer datagram _ :=
    match V4.serve lease datagram with
    | .answered destination reply => some (reply.encode, destination)
    | .dropped => none
    | .malformed _ => none

/-- An IPv6 address and a port, on one of the links of the host when it is not zero. -/
structure V6.Endpoint where
  address : Ipv6
  port : Nat
  link : Nat
  deriving DecidableEq, Repr

/-- The DHCPv6 responder of a lease, which answers the sender. -/
def V6.responder (lease : Lease) : Responder V6.Endpoint where
  protocol := "DHCPv6"
  steps := [.create .inet6, .shareAddress, .bindToDevice lease.bridge, .onlyInet6,
    .bind s!"[::]:{V6.serverPort}" lease.bridge, .lookUpIndex lease.bridge,
    .joinGroup V6.allServers lease.bridge, .register]
  answer datagram sender :=
    match V6.serve lease datagram with
    | .answered reply => some (reply.encode, sender)
    | .dropped => none
    | .malformed _ => none

inductive AnyResponder
  | v4 (responder : Responder V4.Endpoint)
  | v6 (responder : Responder V6.Endpoint)

/-- The responders that serve a lease, that for DHCPv6 only if it is wanted. -/
def respondersOf (dhcpv6 : Bool) (lease : Lease) : List AnyResponder :=
  .v4 (V4.responder lease) :: if dhcpv6 then [.v6 (V6.responder lease)] else []

end MicroVm.Dhcp

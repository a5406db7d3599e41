import MicroVm.Dhcp.V4.Wire
import MicroVm.Network.Lease

/-!
# Answering DHCPv4

A responder serves one lease. It answers the two questions of a client that looks for an address,
and only from the hardware address of the lease. The answer carries the leased address and, of
mask, gateway and name servers, those that the client asks for, in the client's order.
-/

namespace MicroVm.Dhcp.V4

open MicroVm.Network

def opRequest : UInt8 := 1

def opReply : UInt8 := 2

/-- What a client gets that asks for nothing in particular. -/
def defaultCodes : List UInt8 := [Code.subnetMask, Code.router, Code.dnsServers]

/-- The address that identifies the server: the gateway, or else the first address of the subnet
after the network itself that is not the leased one. -/
def serverId (lease : Lease) : Ipv4 :=
  match lease.gateway with
  | some gateway => gateway
  | none =>
    let first := lease.address.network.bits + 1
    if first = lease.address.address.bits then ⟨first + 1⟩ else ⟨first⟩

def optionValue? (lease : Lease) (code : UInt8) : Option (List UInt8) :=
  if code = Code.subnetMask then some lease.address.mask.bytes
  else if code = Code.router then lease.gateway.map Ipv4.bytes
  else if code = Code.dnsServers then
    if lease.dns.isEmpty then none else some (lease.dns.flatMap Ipv4.bytes)
  else none

/-- Adds an option unless there is one of its code or the lease has no value for it. -/
def addOption (lease : Lease) (options : List Entry) (code : UInt8) : List Entry :=
  if options.any fun entry ↦ entry.1 == code then options
  else
    match optionValue? lease code with
    | some value => options ++ [(code, value)]
    | none => options

def replyKind? : Kind → Option Kind
  | .discover => some .offer
  | .request => some .ack
  | _ => none

/-- The options of an answer to a client that asks for the given codes. -/
def replyOptions (lease : Lease) (kind : Kind) (requested : List UInt8) : List Entry :=
  (if requested.isEmpty then defaultCodes else requested).foldl (addOption lease) [
    (Code.messageKind, [kind.code]),
    (Code.serverId, (serverId lease).bytes),
    (Code.leaseTime, bytesOfWord32 infiniteLease)]

def replyTo (lease : Lease) (request : Packet) (kind : Kind) : Packet :=
  { request with
    op := opReply
    hops := 0
    seconds := 0
    yourAddress := lease.address.address
    serverAddress := .unspecified
    options := replyOptions lease kind request.requestedCodes }

/-- The answer to a packet, nothing when it is to be dropped. -/
def respond (lease : Lease) (request : Packet) : Option Packet :=
  if request.op = opRequest then do
    let kind ← request.kind? >>= replyKind?
    let mac ← request.clientMac?
    if mac = lease.mac then return replyTo lease request kind else none
  else none

structure Endpoint where
  address : Ipv4
  port : Nat
  deriving DecidableEq, Repr

def Endpoint.text (endpoint : Endpoint) : String := s!"{endpoint.address.text}:{endpoint.port}"

/-- Where the answer to a packet goes: to the relay, to a client that has an address, or to
everyone. -/
def destination (request : Packet) : Endpoint :=
  if request.relayAddress ≠ .unspecified then ⟨request.relayAddress, serverPort⟩
  else if request.clientAddress ≠ .unspecified then ⟨request.clientAddress, clientPort⟩
  else ⟨.broadcast, clientPort⟩

inductive Outcome
  | malformed (fault : PacketFault)
  | dropped
  | answered (destination : Endpoint) (reply : Packet)
  deriving DecidableEq

/-- What a responder does with a datagram. It keeps no state, so one datagram has no influence on
the answer to another. -/
def serve (lease : Lease) (datagram : List UInt8) : Outcome :=
  match Packet.decode datagram with
  | .error fault => .malformed fault
  | .ok request =>
    match respond lease request with
    | none => .dropped
    | some reply => .answered (destination request) reply

end MicroVm.Dhcp.V4

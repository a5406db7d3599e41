import MicroVm.Json.Record
import MicroVm.Text.Numeral
import MicroVm.Text.Split

/-!
# Port mappings

A mapping leads a port of the host to a port of the guest. Its text is
`[address:]port:port[/protocol]`, and the protocol is TCP when none is given. Any text without a
colon will do as the host address.
-/

namespace MicroVm.Network

inductive Protocol
  | tcp
  | udp
  deriving DecidableEq, Repr

def Protocol.text : Protocol → String
  | .tcp => "tcp"
  | .udp => "udp"

def Protocol.parse? (text : String) : Option Protocol :=
  if text = "tcp" then some .tcp else if text = "udp" then some .udp else none

@[ext]
structure PortMapping where
  hostAddress : Option String
  hostPort : UInt16
  guestPort : UInt16
  protocol : Protocol
  deriving DecidableEq, Repr

inductive PortMappingFault
  | badFormat (text : String)
  | unknownProtocol (text : String)
  | badHostPort (text : String)
  | badGuestPort (text : String)
  deriving DecidableEq, Repr

def PortMappingFault.message : PortMappingFault → String
  | .badFormat text => s!"invalid port mapping format: {text}"
  | .unknownProtocol text => s!"invalid protocol: {text}"
  | .badHostPort text => s!"invalid host port: {text}"
  | .badGuestPort text => s!"invalid guest port: {text}"

namespace PortMapping

/-- Reads the part of the guest: a port and perhaps a protocol. -/
def splitProtocol (text : List Char) : Except PortMappingFault (List Char × Protocol) :=
  match Text.splitOnce '/' text with
  | none => .ok (text, .tcp)
  | some (port, name) =>
    match Protocol.parse? (String.ofList name) with
    | some protocol => .ok (port, protocol)
    | none => .error (.unknownProtocol (String.ofList name))

def ofParts (hostAddress : Option String) (hostPort guest : List Char) :
    Except PortMappingFault PortMapping := do
  let (guestPort, protocol) ← splitProtocol guest
  let hostPort ← (Text.readWord16 hostPort).mapError fun _ ↦ .badHostPort (String.ofList hostPort)
  let guestPort ←
    (Text.readWord16 guestPort).mapError fun _ ↦ .badGuestPort (String.ofList guestPort)
  return { hostAddress, hostPort, guestPort, protocol }

def parse (text : List Char) : Except PortMappingFault PortMapping :=
  match Text.splitOn ':' text with
  | [hostPort, guest] => ofParts none hostPort guest
  | [address, hostPort, guest] => ofParts (some (String.ofList address)) hostPort guest
  | _ => .error (.badFormat (String.ofList text))

/-- The characters of a mapping with its protocol. -/
def chars (mapping : PortMapping) : List Char :=
  (match mapping.hostAddress with
    | some address => address.toList ++ [':']
    | none => []) ++
    Text.decimal mapping.hostPort.toNat ++ [':'] ++ Text.decimal mapping.guestPort.toNat ++ ['/'] ++
    mapping.protocol.text.toList

def toJson (mapping : PortMapping) : Json.Value :=
  .record [
    ("host_ip", .ofOption (mapping.hostAddress.map .text)),
    ("host_port", .natural mapping.hostPort.toNat),
    ("guest_port", .natural mapping.guestPort.toNat),
    ("proto", .text mapping.protocol.text)]

def portOfJson? (value : Json.Value) : Option UInt16 := (value.natural? 0xffff).map UInt16.ofNat

def ofJson? (value : Json.Value) : Option PortMapping := do
  let fields ← value.fields? ["host_ip", "host_port", "guest_port", "proto"]
  let hostAddress ← fields.nullable "host_ip" Json.Value.text?
  let hostPort ← fields.required "host_port" portOfJson?
  let guestPort ← fields.required "guest_port" portOfJson?
  let protocol ← fields.required "proto" fun value ↦ value.case? >>= Protocol.parse?
  return { hostAddress, hostPort, guestPort, protocol }

end PortMapping

end MicroVm.Network

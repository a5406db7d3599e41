import MicroVm.Network.Ipv4
import MicroVm.Network.Mac

/-!
# DHCPv4 packets

A packet has the fixed fields of BOOTP and a list of options, each a code and a value. A code may
occur more than once, and looking an option up finds its first occurrence.
-/

namespace MicroVm.Dhcp.V4

open MicroVm.Network

def serverPort : Nat := 67

def clientPort : Nat := 68

def infiniteLease : UInt32 := 0xffffffff

inductive Kind
  | discover
  | offer
  | request
  | decline
  | ack
  | nak
  | release
  | inform
  deriving DecidableEq, Repr

namespace Kind

def code : Kind → UInt8
  | .discover => 1
  | .offer => 2
  | .request => 3
  | .decline => 4
  | .ack => 5
  | .nak => 6
  | .release => 7
  | .inform => 8

def all : List Kind := [.discover, .offer, .request, .decline, .ack, .nak, .release, .inform]

def ofCode? (code : UInt8) : Option Kind := all.find? fun kind ↦ kind.code == code

def name : Kind → String
  | .discover => "Discover"
  | .offer => "Offer"
  | .request => "Request"
  | .decline => "Decline"
  | .ack => "Ack"
  | .nak => "Nak"
  | .release => "Release"
  | .inform => "Inform"

end Kind

/-! ## Codes of options -/

namespace Code

def pad : UInt8 := 0

def subnetMask : UInt8 := 1

def router : UInt8 := 3

def dnsServers : UInt8 := 6

def leaseTime : UInt8 := 51

def messageKind : UInt8 := 53

def serverId : UInt8 := 54

def parameterRequest : UInt8 := 55

def last : UInt8 := 255

end Code

abbrev Entry := UInt8 × List UInt8

structure Packet where
  op : UInt8
  hardwareKind : UInt8
  hardwareLength : UInt8
  hops : UInt8
  transaction : UInt32
  seconds : UInt16
  flags : UInt16
  clientAddress : Ipv4
  yourAddress : Ipv4
  serverAddress : Ipv4
  relayAddress : Ipv4
  hardwareAddress : Octets 16
  /-- The options in the order of the wire, without fillers and end. -/
  options : List Entry
  deriving DecidableEq, Repr

namespace Packet

def option? (packet : Packet) (code : UInt8) : Option (List UInt8) :=
  (packet.options.find? fun entry ↦ entry.1 == code).map Prod.snd

/-- The kind of the message, which its option gives as one byte. -/
def kind? (packet : Packet) : Option Kind :=
  match packet.option? Code.messageKind with
  | some [code] => Kind.ofCode? code
  | _ => none

def clientMac? (packet : Packet) : Option Mac :=
  if packet.hardwareKind = 1 ∧ packet.hardwareLength = 6 then
    (Octets.ofBytes? 6 (packet.hardwareAddress.bytes.take 6)).map Mac.mk
  else none

/-- The codes that the client asks for, in its order. -/
def requestedCodes (packet : Packet) : List UInt8 :=
  (packet.option? Code.parameterRequest).getD []

end Packet

end MicroVm.Dhcp.V4

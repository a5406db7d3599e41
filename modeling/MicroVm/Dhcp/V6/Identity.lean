import MicroVm.Network.Lease
import MicroVm.Random.ChaCha
import MicroVm.Random.SipHash

/-!
# Identities and the addresses made from them

A DHCPv6 client has an identity of any bytes. Two kinds of identity embed a link-layer address,
one after a time stamp and one without. The client gets a link-local address: the EUI-64 one when
its identity embeds an Ethernet address, and otherwise one drawn at random with the identity as
the seed, so that the same client always gets the same address.
-/

namespace MicroVm.Dhcp.V6

open MicroVm.Network

def linkLayer? : List UInt8 → Option (List UInt8)
  | 0 :: 1 :: _ :: _ :: _ :: _ :: _ :: _ :: first :: rest => some (first :: rest)
  | 0 :: 3 :: _ :: _ :: first :: rest => some (first :: rest)
  | _ => none

def eui64 (a b c d e f : UInt8) : List UInt8 := [a ^^^ 0x02, b, c, 0xff, 0xfe, d, e, f]

def interfaceId (identity : List UInt8) : List UInt8 :=
  match linkLayer? identity with
  | some [a, b, c, d, e, f] => eui64 a b c d e f
  | _ => Random.seededBytes (Random.hashWithLength identity)

def linkLocal (interfaceId : List UInt8) : Ipv6 :=
  ⟨Octets.padded 16 ([0xfe, 0x80, 0, 0, 0, 0, 0, 0] ++ interfaceId)⟩

/-- The address for the client with an identity. -/
def guestAddress (identity : List UInt8) : Ipv6 := linkLocal (interfaceId identity)

/-- The identity of the server of a lease. One bit of the hardware address is flipped, so it is
never the client's. -/
def serverIdentity (lease : Lease) : List UInt8 :=
  match lease.mac.octets.bytes with
  | first :: rest => [0, 3, 0, 1] ++ (first ^^^ 0x02) :: rest
  | [] => [0, 3, 0, 1]

end MicroVm.Dhcp.V6

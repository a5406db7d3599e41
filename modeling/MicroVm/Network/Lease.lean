import MicroVm.Network.Cidr
import MicroVm.Network.Ipv6
import MicroVm.Network.Mac

/-!
# What the guest gets of the network

A lease is the address of a container interface that the guest takes over, with all that the guest
is told about it. A redirected interface comes without an address. The guest has one network card
for each, leases first.
-/

namespace MicroVm.Network

/-- The address of a container interface, bound to the guest card that receives it. -/
structure Lease where
  interface : String
  bridge : String
  /-- The host device that the guest card is attached to. -/
  tap : String
  address : Cidr
  /-- The guest gets no default route without one. -/
  gateway : Option Ipv4
  /-- Only the client with this hardware address is answered. -/
  mac : Mac
  dns : List Ipv4
  dns6 : List Ipv6
  deriving DecidableEq, Repr

structure Passthrough where
  interface : String
  tap : String
  mac : Mac
  deriving DecidableEq, Repr

structure GuestNic where
  tap : String
  mac : Mac
  deriving DecidableEq, Repr

/-- What provisioning the network has given. -/
structure NetworkSetup where
  leases : List Lease
  passthroughs : List Passthrough
  deriving DecidableEq, Repr

namespace NetworkSetup

def empty : NetworkSetup := ⟨[], []⟩

def guestNics (setup : NetworkSetup) : List GuestNic :=
  setup.leases.map (fun lease ↦ ⟨lease.tap, lease.mac⟩) ++
    setup.passthroughs.map fun nic ↦ ⟨nic.tap, nic.mac⟩

def addresses (setup : NetworkSetup) : List Ipv4 :=
  setup.leases.map fun lease ↦ lease.address.address

end NetworkSetup

end MicroVm.Network

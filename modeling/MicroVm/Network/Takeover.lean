import MicroVm.Network.Discovery
import MicroVm.Network.Resolver

/-!
# Handing interfaces to the guest

A leased interface loses its address and gets another hardware address; a bridge joins it with the
tap of the guest, which takes over the address and the hardware address that the interface had. A
redirected interface and its tap send their traffic to one another. The first change that fails
ends it all.
-/

namespace MicroVm.Network

def changeAll : List Change → Task Links Unit
  | [] => return ()
  | change :: changes => do
    Links.change change
    changeAll changes

def requireName (name? : Option String) : Task Links String :=
  match name? with
  | some name => return name
  | none => Task.crash

/-- The changes that join an interface with the guest, after it has another hardware address. -/
def bridgeChanges (interface bridge tap : String) : List Change := [
  .createBridge bridge,
  .createTap tap,
  .setMaster interface bridge,
  .setMaster tap bridge,
  .setUp bridge,
  .setUp tap,
  .setUp interface]

/-- The changes that redirect an interface to the guest and back. -/
def redirectChanges (interface tap : String) : List Change := [
  .createTap tap,
  .setUp tap,
  .redirect interface tap,
  .redirect tap interface]

def leaseInterface (interface : String) (mac : Mac) (address : Cidr) (gateway : Option Ipv4)
    (dns : GuestDns) : Task Links Lease := do
  let tap ← requireName (tapName? interface)
  let bridge ← requireName (bridgeName? interface)
  Links.change (.removeAddress interface address)
  let bytes ← Links.randomBytes
  Links.change (.setMac interface (Mac.localOfRandom bytes))
  changeAll (bridgeChanges interface bridge tap)
  return { interface, bridge, tap, address, gateway, mac, dns := dns.v4, dns6 := dns.v6 }

def redirectInterface (interface : String) (mac : Mac) : Task Links Passthrough := do
  let tap ← requireName (tapName? interface)
  changeAll (redirectChanges interface tap)
  return { interface, tap, mac }

def takeOverOne (dns : GuestDns) (setup : NetworkSetup) : Candidate → Task Links NetworkSetup
  | .leased interface mac address gateway => do
    let lease ← Task.within (.takingOver interface)
      (leaseInterface interface mac address gateway dns)
    return { setup with leases := setup.leases ++ [lease] }
  | .redirected interface mac => do
    let nic ← Task.within (.redirecting interface) (redirectInterface interface mac)
    return { setup with passthroughs := setup.passthroughs ++ [nic] }

def takeOverFrom (dns : GuestDns) (setup : NetworkSetup) : List Candidate → Task Links NetworkSetup
  | [] => return setup
  | candidate :: candidates => do
    let setup ← takeOverOne dns setup candidate
    takeOverFrom dns setup candidates

def takeOver (dns : GuestDns) (candidates : List Candidate) : Task Links NetworkSetup :=
  takeOverFrom dns .empty candidates

end MicroVm.Network

import MicroVm.Json.Parser
import MicroVm.Json.Record
import MicroVm.Network.Cidr
import MicroVm.Network.Mac

/-!
# Links and routes

The kernel's interfaces and routes are listed as JSON. Of an interface the name, the hardware
address and the IPv4 addresses are kept, and addresses that cannot be read are left out. Of the
routes only the default gateway of a device is asked for.
-/

namespace MicroVm.Network

structure Link where
  name : String
  mac : Option Mac
  isLoopback : Bool
  addresses : List Cidr
  deriving DecidableEq, Repr

structure LinkAddress where
  family : String
  address : Option String
  prefixLength : Option Nat

structure LinkEntry where
  name : String
  kind : Option String
  hardwareAddress : Option String
  addresses : List LinkAddress

def LinkAddress.ofJson? (value : Json.Value) : Option LinkAddress := do
  let fields ← value.fields? ["family", "local", "prefixlen"]
  let family ← fields.required "family" Json.Value.text?
  let address ← fields.optional "local" Json.Value.text?
  let prefixLength ← fields.optional "prefixlen" (Json.Value.natural? 0xff)
  return { family, address, prefixLength }

/-- The IPv4 address of an entry, when it is one and can be read. -/
def LinkAddress.cidr? (entry : LinkAddress) : Option Cidr := do
  if entry.family = "inet" then
    let address ← Ipv4.parse? (← entry.address).toList
    (Cidr.of address (← entry.prefixLength)).toOption
  else none

def LinkEntry.ofJson? (value : Json.Value) : Option LinkEntry := do
  let fields ← value.fields? ["ifname", "link_type", "address", "addr_info"]
  let name ← fields.required "ifname" Json.Value.text?
  let kind ← fields.optional "link_type" Json.Value.text?
  let hardwareAddress ← fields.optional "address" Json.Value.text?
  let addresses ← fields.withDefault "addr_info" (Json.Value.items? LinkAddress.ofJson?) []
  return { name, kind, hardwareAddress, addresses }

/-- The interface that an entry describes. A loopback interface has no hardware address. -/
def LinkEntry.link (entry : LinkEntry) : Link :=
  let isLoopback := entry.kind == some "loopback"
  { name := entry.name
    mac :=
      if isLoopback then none
      else entry.hardwareAddress >>= fun text ↦ (Mac.parse text.toList).toOption
    isLoopback
    addresses := entry.addresses.filterMap LinkAddress.cidr? }

def readLinks? (text : List Char) : Option (List Link) := do
  let entries ← (← Json.parse? text).items? LinkEntry.ofJson?
  return entries.map LinkEntry.link

structure RouteEntry where
  destination : Option String
  gateway : Option String
  device : Option String

def RouteEntry.ofJson? (value : Json.Value) : Option RouteEntry := do
  let fields ← value.fields? ["dst", "gateway", "dev"]
  let destination ← fields.optional "dst" Json.Value.text?
  let gateway ← fields.optional "gateway" Json.Value.text?
  let device ← fields.optional "dev" Json.Value.text?
  return { destination, gateway, device }

def readRoutes? (text : List Char) : Option (List RouteEntry) := do
  (← Json.parse? text).items? RouteEntry.ofJson?

/-- The gateway text of a route, when it is the default route through a device. -/
def RouteEntry.defaultGateway? (device : String) (route : RouteEntry) : Option String :=
  if route.destination = some "default" ∧ route.device = some device then route.gateway else none

/-- The gateway text of the first default route through a device that has one. -/
def gatewayText? (device : String) (routes : List RouteEntry) : Option String :=
  routes.findSome? (RouteEntry.defaultGateway? device)

end MicroVm.Network

import MicroVm.Network.InterfaceMode
import MicroVm.Network.InterfaceName
import MicroVm.Network.Links

/-!
# Finding the interfaces to hand over

Container networking may still be under construction when a run starts. Discovery reads the
interfaces again and again, until there is a usable one and all those with an annotated mode are
there, or until the time is up. It changes nothing.

An interface that cannot be used is passed over with a warning and has no influence on the others.
-/

namespace MicroVm.Network

inductive Candidate
  /-- The guest leases the address. -/
  | leased (interface : String) (mac : Mac) (address : Cidr) (gateway : Option Ipv4)
  | redirected (interface : String) (mac : Mac)
  deriving DecidableEq, Repr

def Candidate.interface : Candidate → String
  | .leased interface _ _ _ => interface
  | .redirected interface _ => interface

structure DiscoveryOptions where
  modes : InterfaceModes
  pollInterval : Duration
  timeout : Duration

/-- The candidate that an interface is in a given mode. -/
def classify (mode : InterfaceMode) (link : Link) : Task Links Candidate := do
  match link.mac with
  | none => Task.fail .noHardwareAddress
  | some mac =>
    match mode with
    | .redirect => return .redirected link.name mac
    | .bridge =>
      match link.addresses with
      | [] => Task.fail .noAddress
      | address :: others =>
        if !others.isEmpty then
          Links.warn link.name "interface has several IPv4 addresses, taking the first"
        let gateway ← Task.within .readingRoute (Links.gateway link.name)
        return .leased link.name mac address gateway

def classifyAll (modes : InterfaceModes) : List Link → Program Links (List Candidate)
  | [] => return []
  | link :: links => do
    if link.isLoopback || isOwnDevice link.name then classifyAll modes links
    else
      match ← (classify (modes.modeOf link.name) link).attempt with
      | .ok candidate => return candidate :: (← classifyAll modes links)
      | .error failure =>
        Links.warn link.name ("skipping interface: " ++ failure.message)
        classifyAll modes links

def survey (modes : InterfaceModes) : Task Links (List Candidate) := do
  let links ← Task.within .listingInterfaces Links.list
  classifyAll modes links

/-- Whether candidates are enough: there is one, and all interfaces with a mode are among them. -/
def isComplete (modes : InterfaceModes) (candidates : List Candidate) : Bool :=
  !candidates.isEmpty && modes.all fun (name, _) ↦ candidates.any fun c ↦ c.interface == name

/-- Reads the interfaces until they are complete or there is no time for another reading. A run
out of `attempts` is a crash. -/
def discoverUntil (options : DiscoveryOptions) (deadline : Duration) :
    (attempts : Nat) → Task Links (List Candidate)
  | 0 => Task.crash
  | attempts + 1 => do
    match ← ExceptT.lift (survey options.modes).attempt with
    | .ok candidates =>
      if isComplete options.modes candidates then return candidates
      else again attempts
    | .error _ => again attempts
where
  again (attempts : Nat) : Task Links (List Candidate) := do
    let now ← Links.now
    if deadline < now + options.pollInterval then Task.fail (.noInterfaces options.timeout)
    else
      Links.sleep options.pollInterval
      discoverUntil options deadline attempts

/-- The attempts that the counter of a run can number. -/
def maxAttempts : Nat := UInt32.size - 1

/-- Finds the interfaces to hand over. A deadline that the clock cannot show is a crash. -/
def discover (options : DiscoveryOptions) : Task Links (List Candidate) := do
  let deadline := (← Links.now) + options.timeout
  if deadline.isShown then discoverUntil options deadline maxAttempts else Task.crash

end MicroVm.Network

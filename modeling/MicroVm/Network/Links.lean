import MicroVm.Network.Lease
import MicroVm.Network.Link
import MicroVm.Program

/-!
# Access to the container's network

What a run asks of the network: readings, which leave it as it is, and changes. Time passes here
too, because the network may be slow to appear.
-/

namespace MicroVm.Network

inductive Change
  | removeAddress (device : String) (address : Cidr)
  | setMac (device : String) (mac : Mac)
  | createTap (name : String)
  | createBridge (name : String)
  | setMaster (device master : String)
  | setUp (device : String)
  /-- Sends every frame that arrives on `source` out of `target`. -/
  | redirect (source target : String)
  deriving DecidableEq, Repr

inductive LinkRequest
  | list
  | gateway (device : String)
  | change (change : Change)
  | randomBytes
  /-- The time on a clock that only goes forward. -/
  | now
  | sleep (duration : Duration)
  /-- Tells the operator something about an interface. -/
  | warn (interface text : String)
  deriving DecidableEq, Repr

def LinkRequest.Answer : LinkRequest → Type
  | .list => Except Failure (List Link)
  | .gateway _ => Except Failure (Option Ipv4)
  | .change _ => Except Failure Unit
  | .randomBytes => Octets 6
  | .now => Duration
  | .sleep _ => Unit
  | .warn _ _ => Unit

def Links : Interface := ⟨LinkRequest, LinkRequest.Answer⟩

namespace Links

def list : Task Links (List Link) := .of (Program.perform (I := Links) .list)

def gateway (device : String) : Task Links (Option Ipv4) :=
  .of (Program.perform (I := Links) (.gateway device))

def change (change : Change) : Task Links Unit :=
  .of (Program.perform (I := Links) (.change change))

def randomBytes : Program Links (Octets 6) := Program.perform (I := Links) .randomBytes

def now : Program Links Duration := Program.perform (I := Links) .now

def sleep (duration : Duration) : Program Links Unit :=
  Program.perform (I := Links) (.sleep duration)

def warn (interface text : String) : Program Links Unit :=
  Program.perform (I := Links) (.warn interface text)

end Links

end MicroVm.Network

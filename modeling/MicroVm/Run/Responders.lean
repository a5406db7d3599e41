import MicroVm.Run.Surroundings

/-!
# The responders of a run

Once a run has its network, it starts a responder for each lease and protocol. It keeps the handles
of their tasks, and aborts all of them when the guest is gone or when it gives up.
-/

namespace MicroVm.Run

open MicroVm.Network

/-- Starts responders in tasks of their own. Gives the handles of the tasks. -/
def startAll : List Dhcp.AnyResponder → Program Surroundings (List TaskHandle)
  | [] => return []
  | responder :: responders => do
    let handle ← Surroundings.startResponder responder
    let handles ← startAll responders
    return handle :: handles

/-- The responders that serve the leases of a network. Passed interfaces have none. -/
def responders (network : NetworkSetup) (dhcpv6 : Bool) : List Dhcp.AnyResponder :=
  network.leases.flatMap (Dhcp.respondersOf dhcpv6)

def abortAll : List TaskHandle → Program Surroundings Unit
  | [] => return ()
  | handle :: handles => do
    Surroundings.abort handle
    abortAll handles

end MicroVm.Run

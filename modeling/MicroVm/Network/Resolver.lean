import MicroVm.Network.Ipv6
import MicroVm.Text.Blank

/-!
# Name servers

A resolver configuration names servers, one a line. A server on the loopback is of no use to the
guest. When the local configuration names no other, the fallback configuration is used, if it
names any server at all.
-/

namespace MicroVm.Network

def nameserver? (line : List Char) : Option IpAddress := do
  let rest ← Text.dropBeginning? "nameserver".toList (Text.trim line)
  IpAddress.parse? (Text.trim rest)

def nameservers (text : List Char) : List IpAddress := (Text.lines text).filterMap nameserver?

/-- The servers to choose from: those of the local configuration, unless all of them are on the
loopback and the fallback configuration names any. An unreadable configuration names none. -/
def chosenServers (localText fallbackText : Option (List Char)) : List IpAddress :=
  let servers := nameservers (localText.getD [])
  if servers.all IpAddress.isLoopback then
    match fallbackText.map nameservers with
    | some (server :: more) => server :: more
    | _ => servers
  else servers

def IpAddress.v4? : IpAddress → Option Ipv4
  | .v4 address => some address
  | .v6 _ => none

def IpAddress.v6? : IpAddress → Option Ipv6
  | .v4 _ => none
  | .v6 address => some address

structure GuestDns where
  v4 : List Ipv4
  v6 : List Ipv6
  deriving DecidableEq, Repr

/-- The servers that are not on the loopback, split by family. -/
def GuestDns.ofServers (servers : List IpAddress) : GuestDns :=
  let usable := servers.filter fun server ↦ !server.isLoopback
  ⟨usable.filterMap IpAddress.v4?, usable.filterMap IpAddress.v6?⟩

def guestDns (localText fallbackText : Option (List Char)) : GuestDns :=
  .ofServers (chosenServers localText fallbackText)

end MicroVm.Network

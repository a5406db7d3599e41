import MicroVm.Host.Commands
import MicroVm.Network.Links

/-!
# The network through the host's tools

The listings of `ip` are read as JSON, and changes are made by `ip` and `tc`. A redirection takes
two commands, and every other change takes one.
-/

namespace MicroVm.Network

open MicroVm.Host

def ip (arguments : List String) : Command := ⟨"ip", arguments, none⟩

def tc (arguments : List String) : Command := ⟨"tc", arguments, none⟩

def Change.commands : Change → List Command
  | .removeAddress device address => [ip ["addr", "del", address.text, "dev", device]]
  | .setMac device mac => [ip ["link", "set", "dev", device, "address", mac.text]]
  | .createTap name => [ip ["tuntap", "add", "dev", name, "mode", "tap"]]
  | .createBridge name => [ip ["link", "add", "name", name, "type", "bridge"]]
  | .setMaster device master => [ip ["link", "set", "dev", device, "master", master]]
  | .setUp device => [ip ["link", "set", "dev", device, "up"]]
  | .redirect source target => [
    tc ["qdisc", "add", "dev", source, "ingress"],
    tc ["filter", "add", "dev", source, "parent", "ffff:", "protocol", "all", "u32", "match",
      "u8", "0", "0", "action", "mirred", "egress", "redirect", "dev", target]]

def listing : Command := ip ["-j", "addr", "show"]

def defaultRoutes : Command := ip ["-j", "-4", "route", "show", "default"]

def readLinks (text : List Char) : Except Failure (List Link) :=
  match readLinks? text with
  | some links => .ok links
  | none => .error (.within .parsingLinks (.cause .malformedJson))

/-- The gateway of the first default route through a device that has one. -/
def readGateway (text : List Char) (device : String) : Except Failure (Option Ipv4) :=
  match readRoutes? text with
  | none => .error (.within .parsingRoutes (.cause .malformedJson))
  | some routes =>
    match gatewayText? device routes with
    | none => .ok none
    | some gateway =>
      match Ipv4.parse? gateway.toList with
      | some address => .ok (some address)
      | none => .error (.within (.parsingGateway gateway) (.cause .badAddress))

namespace LinkTools

def list : Task Commands (List Link) := do
  let text ← Commands.output listing
  Task.ofExcept (readLinks text)

def gateway (device : String) : Task Commands (Option Ipv4) := do
  let text ← Commands.output defaultRoutes
  Task.ofExcept (readGateway text device)

def change (change : Change) : Task Commands Unit := Commands.runAll change.commands

end LinkTools

end MicroVm.Network

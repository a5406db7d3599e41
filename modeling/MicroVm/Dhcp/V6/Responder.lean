import MicroVm.Dhcp.V6.Identity
import MicroVm.Dhcp.V6.Message

/-!
# Answering DHCPv6

A responder serves one lease and never hands out a routable address: the client gets a link-local
address, which is enough to make it take the name servers. A client whose identity embeds another
Ethernet address than that of the lease gets no answer.
-/

namespace MicroVm.Dhcp.V6

open MicroVm.Network

def infinity : UInt32 := 0xffffffff

def statusOption (code : UInt16) (message : String) : Entry :=
  (Code.status, bytesOfWord16 code ++ message.toUTF8.toList)

def notOnLink : Entry := statusOption 4 "addresses are not on link"

def noBinding : Entry := statusOption 3 "no binding"

/-- An association with both of its times and the options inside. -/
def association (id : List UInt8) (time : UInt32) (options : List Entry) : Entry :=
  (Code.association, id ++ bytesOfWord32 time ++ bytesOfWord32 time ++ encodeOptions options)

def addressOption (address : Ipv6) : Entry :=
  (Code.address, address.octets.bytes ++ bytesOfWord32 infinity ++ bytesOfWord32 infinity)

/-- The ids of the associations in a message. One that is too short counts for nothing. -/
def associationIds (message : Message) : List (List UInt8) :=
  ((message.optionsOf Code.association).filter fun value ↦ 12 ≤ value.length).map fun value ↦
    value.take 4

def isForeign (lease : Lease) (identity : List UInt8) : Bool :=
  match linkLayer? identity with
  | some address => address.length == 6 && address != lease.mac.octets.bytes
  | none => false

def grantOptions (lease : Lease) (identity : List UInt8) (request : Message) : List Entry :=
  (associationIds request).map (fun id ↦
    association id infinity [addressOption (guestAddress identity)]) ++
  if lease.dns6.isEmpty then []
  else [(Code.dnsServers, lease.dns6.flatMap fun server ↦ server.octets.bytes)]

def replyOf? (lease : Lease) (identity : List UInt8) (request : Message) :
    Kind → Option (Kind × List Entry)
  | .solicit => some (.advertise, grantOptions lease identity request)
  | .request => some (.reply, grantOptions lease identity request)
  | .renew => some (.reply, grantOptions lease identity request)
  | .rebind => some (.reply, grantOptions lease identity request)
  | .confirm => some (.reply, [notOnLink])
  | .release =>
    some (.reply, (associationIds request).map fun id ↦ association id 0 [noBinding])
  | .advertise => none
  | .reply => none

/-- The answer to a message, nothing when it is to be dropped. -/
def respond (lease : Lease) (request : Message) : Option Message := do
  let identity ← request.option? Code.clientId
  if isForeign lease identity then none
  else
    let (kind, options) ← request.kind? >>= replyOf? lease identity request
    return {
      kindCode := kind.code
      transaction := request.transaction
      options :=
        [(Code.clientId, identity), (Code.serverId, serverIdentity lease)] ++ options }

inductive Outcome
  | malformed (fault : MessageFault)
  | dropped
  | answered (reply : Message)
  deriving DecidableEq

/-- What a responder does with a datagram. An answer goes back to the sender. -/
def serve (lease : Lease) (datagram : List UInt8) : Outcome :=
  match Message.decode datagram with
  | .error fault => .malformed fault
  | .ok request =>
    match respond lease request with
    | none => .dropped
    | some reply => .answered reply

def allServers : Ipv6 := Ipv6.ofGroups [0xff02, 0, 0, 0, 0, 0, 1, 2]

end MicroVm.Dhcp.V6

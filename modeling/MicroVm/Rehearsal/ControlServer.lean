import MicroVm.Hypervisor.Control

/-!
# A control server that answers from a script

The server writes down the requests and gives the scripted replies in their order. After the last
one it accepts everything.
-/

namespace MicroVm.Rehearsal

open MicroVm.Hypervisor

structure ControlServer where
  replies : List Reply := []
  requests : List Call := []

namespace ControlServer

/-- The reply when the script is at its end. -/
def accepted : Reply := .answered 204 []

def answer : Handler Control ControlServer
  | (call : Call), server =>
    (server.replies.headD accepted,
      { replies := server.replies.tail, requests := server.requests ++ [call] })

end ControlServer

def noServer : Handler Control Unit
  | _, () => (.unreachable .notFound, ())

end MicroVm.Rehearsal

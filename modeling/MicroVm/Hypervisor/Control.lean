import MicroVm.Hypervisor.BootConfig
import MicroVm.Program
import MicroVm.Text.Utf8

/-!
# Requests to the hypervisor

A request is put at its path, and the hypervisor answers with a status and a body. The answer may
also fail to come. Only two statuses mean that the request was accepted, and only for the others the
body is read.
-/

namespace MicroVm.Hypervisor

inductive Reply
  | answered (status : Nat) (body : List UInt8)
  /-- The connection failed after the status, before the end of the body. -/
  | cutShort (status : Nat) (text : String)
  | closed
  | late
  | unreachable (error : Host.SystemError)
  deriving DecidableEq, Repr

def replyLimit : Duration := .ofSeconds 10

def Reply.result (call : Call) : Reply → Except Failure Unit
  | .answered status body =>
    if isAccepted status then .ok ()
    else .error (.cause (.refused call.path status (Text.textOfBytes body)))
  | .cutShort status text =>
    if isAccepted status then .ok () else .error (.cause (.bodyUnreadable text))
  | .closed => .error (.within (.putting call.path) (.cause .connectionClosed))
  | .late => .error (.within (.timingOut call.path replyLimit) (.cause .deadlineElapsed))
  | .unreachable error => .error (.within (.putting call.path) (.cause (.unreachable error)))

def Call.activity : Call → Activity
  | .bootSource _ => .configuringBootSource
  | .machineConfig _ => .configuringMachine
  | .drive _ => .attachingRoot
  | .networkInterface card => .attachingCard card.hostDevice card.id
  | .action .start => .startingInstance
  | .action .sendCtrlAltDel => .sendingCtrlAltDel

def Reply.outcome (call : Call) (reply : Reply) : Except Failure Unit :=
  (reply.result call).mapError (.within call.activity)

/-- The control interface of a hypervisor: a request that is waited for. -/
def Control : Interface := ⟨Call, fun _ ↦ Reply⟩

def put (call : Call) : Task Control Unit :=
  .of ((Program.perform (I := Control) call).bind fun reply ↦ .done (reply.outcome call))

def putAll : List Call → Task Control Unit
  | [] => return ()
  | call :: calls => do
    put call
    putAll calls

def BootConfig.apply (config : BootConfig) : Task Control Unit := putAll config.calls

end MicroVm.Hypervisor

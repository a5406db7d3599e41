import MicroVm.Dhcp.Service
import MicroVm.Host.Files
import MicroVm.Hypervisor.BootConfig
import MicroVm.Machine.Record
import MicroVm.Network.Links
import MicroVm.Storage.Devices

/-!
# The surroundings of a run

A run talks to the record store, to the network of its container, to the block devices and files of
the host and to the supervisor of the hypervisor. The DHCP responders serve in tasks beside the run,
which holds a handle for each of them.
-/

namespace MicroVm.Run

open MicroVm.Host MicroVm.Hypervisor MicroVm.Machine MicroVm.Network MicroVm.Storage

inductive Supervised
  | returned (result : Except Failure Unit)
  | crashed (task text : String)

/-- The result of a run that a supervisor's end stands for. -/
def Supervised.result : Supervised → Except Failure Unit
  | .returned result => result
  | .crashed task text => .error (.cause (.supervisorCrashed task text))

/-- The handle of a task that was started. -/
structure TaskHandle where
  number : Nat
  deriving DecidableEq, Repr

inductive RunRequest
  | link (request : LinkRequest)
  | device (request : DeviceRequest)
  | file (request : FileRequest)
  /-- The record of an id or a name. -/
  | load (id : String)
  | save (record : Record)
  /-- Starts a task in which a responder serves. -/
  | startResponder (responder : Dhcp.AnyResponder)
  /-- Ends a task wherever it has got to. -/
  | abort (handle : TaskHandle)
  /-- From here on, signals wait to be taken and do not end the process. -/
  | captureSignals
  | today
  /-- Runs the guest to its end. -/
  | supervise (uid : String) (config : BootConfig)

def RunRequest.Answer : RunRequest → Type
  | .link request => request.Answer
  | .device request => request.Answer
  | .file request => request.Answer
  | .load _ => Except Failure Record
  | .save _ => Except Failure Unit
  | .startResponder _ => TaskHandle
  | .abort _ => Unit
  | .captureSignals => Except Failure Unit
  | .today => Timestamp
  | .supervise _ _ => Supervised

def Surroundings : Interface := ⟨RunRequest, RunRequest.Answer⟩

namespace Surroundings

def onLinks {α : Type} (task : Task Links α) : Task Surroundings α :=
  task.expand fun request ↦ Program.perform (I := Surroundings) (.link request)

def onDevices {α : Type} (task : Task Devices α) : Task Surroundings α :=
  task.expand fun request ↦ Program.perform (I := Surroundings) (.device request)

def onFiles {α : Type} (task : Task Files α) : Task Surroundings α :=
  task.expand fun request ↦ Program.perform (I := Surroundings) (.file request)

def onDisks {α : Type} (task : Task (Devices.both Files) α) : Task Surroundings α :=
  Task.expand (I := Devices.both Files) (fun
    | .inl request => Program.perform (I := Surroundings) (.device request)
    | .inr request => Program.perform (I := Surroundings) (.file request)) task

def load (id : String) : Task Surroundings Record :=
  .of (Program.perform (I := Surroundings) (.load id))

def save (record : Record) : Task Surroundings Unit :=
  .of (Program.perform (I := Surroundings) (.save record))

def startResponder (responder : Dhcp.AnyResponder) : Program Surroundings TaskHandle :=
  Program.perform (I := Surroundings) (.startResponder responder)

def abort (handle : TaskHandle) : Program Surroundings Unit :=
  Program.perform (I := Surroundings) (.abort handle)

def captureSignals : Task Surroundings Unit :=
  .of (Program.perform (I := Surroundings) .captureSignals)

def today : Program Surroundings Timestamp := Program.perform (I := Surroundings) .today

def supervise (uid : String) (config : BootConfig) : Program Surroundings Supervised :=
  Program.perform (I := Surroundings) (.supervise uid config)

end Surroundings

end MicroVm.Run

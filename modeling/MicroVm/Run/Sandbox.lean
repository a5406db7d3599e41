import MicroVm.Hypervisor.Supervisor
import MicroVm.Machine.Store
import MicroVm.Network.LinkTools
import MicroVm.Run.Lifecycle
import MicroVm.Storage.DeviceTools
import MicroVm.Storage.Lock

/-!
# Runs in a sandbox

A run needs no more of the sandbox that it lives in than commands, files, the process of the
hypervisor, clocks, random bytes, signals and sockets for the responders. All that a run asks for
is put down to these here: the network and the block devices are driven by the host's tools, and
the records lie in the store.
-/

namespace MicroVm.Run

open MicroVm.Host MicroVm.Hypervisor MicroVm.Machine MicroVm.Network MicroVm.Storage

inductive SandboxRequest
  | command (command : Command)
  | file (request : FileRequest)
  | process (request : ProcessRequest)
  | randomBytes
  /-- The time on a clock that only goes forward. -/
  | now
  | sleep (duration : Duration)
  | warn (interface text : String)
  | today
  | captureSignals
  | startResponder (responder : Dhcp.AnyResponder)
  | abort (handle : TaskHandle)

def SandboxRequest.Answer : SandboxRequest → Type
  | .command _ => Except SystemError CommandResult
  | .file request => request.Answer
  | .process request => request.Answer
  | .randomBytes => Octets 6
  | .now => Duration
  | .sleep _ => Unit
  | .warn _ _ => Unit
  | .today => Timestamp
  | .captureSignals => Except Failure Unit
  | .startResponder _ => TaskHandle
  | .abort _ => Unit

def Sandbox : Interface := ⟨SandboxRequest, SandboxRequest.Answer⟩

namespace Sandbox

def onCommands {α : Type} (program : Program Commands α) : Program Sandbox α :=
  program.expand fun command ↦ Program.perform (I := Sandbox) (.command command)

def onFiles {α : Type} (program : Program Files α) : Program Sandbox α :=
  program.expand fun request ↦ Program.perform (I := Sandbox) (.file request)

def process : (request : ProcessRequest) → Program Sandbox request.Answer
  | .file request => Program.perform (I := Sandbox) (.file request)
  | request => Program.perform (I := Sandbox) (.process request)

def link : (request : LinkRequest) → Program Sandbox request.Answer
  | .list => onCommands LinkTools.list.attempt
  | .gateway device => onCommands (LinkTools.gateway device).attempt
  | .change change => onCommands (LinkTools.change change).attempt
  | .randomBytes => Program.perform (I := Sandbox) .randomBytes
  | .now => Program.perform (I := Sandbox) .now
  | .sleep duration => Program.perform (I := Sandbox) (.sleep duration)
  | .warn interface text => Program.perform (I := Sandbox) (.warn interface text)

def device : (request : DeviceRequest) → Program Sandbox request.Answer
  | .attachLoop file readOnly => onCommands (DeviceTools.attachLoop file readOnly).attempt
  | .detachLoop node => onCommands (DeviceTools.detachLoop node).attempt
  | .sizeSectors node => onCommands (DeviceTools.sizeSectors node).attempt
  | .createMapping name table => onCommands (DeviceTools.createMapping name table).attempt
  | .mappingExists name => onCommands (DeviceTools.mappingExists name)
  | .removeMappings names => onCommands (DeviceTools.removeMappings names).attempt
  | .checkFilesystem node => onCommands (DeviceTools.checkFilesystem node).attempt
  | .growFilesystem node => onCommands (DeviceTools.growFilesystem node).attempt
  | .deviceExists path => onFiles (Files.exists? path)
  | .isBlockDevice path => onFiles (Files.isBlockDevice path)
  | .acquireLock path => onFiles (acquireHostLock path).attempt
  | .releaseLock path => onFiles (Files.unlock path)

def request (layout : Layout) (settings : Settings) :
    (request : RunRequest) → Program Sandbox request.Answer
  | .link request => link request
  | .device request => device request
  | .file request => Program.perform (I := Sandbox) (.file request)
  | .load id => onFiles (Store.load ⟨layout.stateDirectory⟩ id).attempt
  | .save record => onFiles (Store.save ⟨layout.stateDirectory⟩ record).attempt
  | .startResponder responder => Program.perform (I := Sandbox) (.startResponder responder)
  | .abort handle => Program.perform (I := Sandbox) (.abort handle)
  | .captureSignals => Program.perform (I := Sandbox) .captureSignals
  | .today => Program.perform (I := Sandbox) .today
  | .supervise uid config => do
    let supervision := Supervision.of layout settings uid
    let result ← (supervision.supervise config).attempt.expand process
    return .returned result

end Sandbox

/-- Runs the machine of an id or a name, whose record lies in the store of the layout. -/
def runMachine (layout : Layout) (settings : Settings) (id : String) : Task Sandbox Unit := do
  Task.of (Sandbox.onFiles (Store.create ⟨layout.stateDirectory⟩).attempt)
  (Runner.run ⟨layout, settings⟩ id).expand (Sandbox.request layout settings)

end MicroVm.Run

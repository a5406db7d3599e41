import MicroVm.Hypervisor.Process
import MicroVm.Layout
import MicroVm.Settings

/-!
# Supervising the hypervisor

A supervisor starts the hypervisor, waits for its control socket, configures and starts the
instance, and then waits for the process to end. A signal during the boot ends the boot, and a boot
that fails kills the process. After the boot, signals are turned into shutdown actions. However it
ends, socket and log pipe are removed at last.
-/

namespace MicroVm.Hypervisor

open MicroVm.Host

structure Supervision where
  program : String
  socket : String
  logPipe : String
  /-- The time between the two presses of the power button. -/
  grace : Duration
  deriving DecidableEq, Repr

def Supervision.of (layout : Layout) (settings : Settings) (uid : String) : Supervision where
  program := settings.hypervisor
  socket := layout.controlSocket uid
  logPipe := layout.logPipe uid
  grace := settings.shutdownGrace

/-- The number of looks for the control socket. -/
def socketLooks : Nat := 50

def lookInterval : Duration := .ofMilliseconds 100

def socketWait : Duration := ⟨socketLooks * lookInterval.nanoseconds⟩

namespace Supervision

def removeStale (path : String) : Task Files Unit := do
  match ← ExceptT.lift (Files.remove path) with
  | .ok () => return ()
  | .error error =>
    if error.number = SystemError.notFound.number then return ()
    else Task.within (.removing path) (Task.of (.done (.error (.system error))))

/-- Makes room for socket and log pipe, and makes the pipe. -/
def prepare (s : Supervision) : Task Files Unit := do
  removeStale s.socket
  removeStale s.logPipe
  match parentPath? s.socket with
  | some parent => Task.within (.creating parent) (Files.createDirectories parent)
  | none => pure ()
  Task.within (.creatingLogPipe s.logPipe) (Files.createPipe s.logPipe)

def arguments (s : Supervision) : List String :=
  ["--api-sock", s.socket, "--log-path", s.logPipe, "--level", "Info"]

/-- Waits for the control socket, with a number of looks left. -/
def awaitSocket (s : Supervision) : (looks : Nat) → Task Process Unit
  | 0 => Task.fail (.socketMissing s.socket socketWait)
  | looks + 1 => do
    if ← ExceptT.lift (Process.onFiles (Files.exists? s.socket)) then return ()
    else
      let status ← Task.within .pollingHypervisor
        (Task.ofSystem (Program.perform (I := Process) .pollExit))
      match status with
      | some status => Task.fail (.endedBeforeSocket status)
      | none =>
        Process.pause lookInterval
        awaitSocket s looks

def start (s : Supervision) : Task Process Unit := do
  Process.files s.prepare
  Task.within (.openingLogPipe s.logPipe)
    (Task.ofSystem (Program.perform (I := Process) (.openLog s.logPipe)))
  Task.within (.spawning s.program)
    (Task.ofSystem (Program.perform (I := Process) (.spawn s.program s.arguments)))

def putAll : List Call → Task Process Unit
  | [] => return ()
  | call :: calls => do
    Process.put call
    putAll calls

def bootRunning (s : Supervision) (config : BootConfig) : Task Process Unit := do
  s.awaitSocket socketLooks
  putAll (config.calls ++ [.action .start])

/-- Kills the process, and does not mind when that fails. -/
def killQuietly : Program Process Unit := do
  let _ ← Program.perform (I := Process) .kill
  return ()

/-- Boots the guest. A boot that fails after the process was started kills it. -/
def boot (s : Supervision) (config : BootConfig) : Task Process Unit := do
  Process.checkSignal
  s.start
  match ← ExceptT.lift (s.bootRunning config).attempt with
  | .ok () => return ()
  | .error failure =>
    ExceptT.lift killQuietly
    Task.of (.done (.error failure))

def awaitEnd (s : Supervision) : Task Process Unit := do
  ExceptT.lift (Program.perform (I := Process) (.listen s.grace))
  let status ← ExceptT.lift (Program.perform (I := Process) .awaitExit)
  ExceptT.lift (Program.perform (I := Process) .stopListening)
  let status ← Task.within .waitingForHypervisor
    (Task.of (.done (status.mapError .system)))
  if status.isSuccess then return () else Task.fail (.hypervisorFailed status)

/-- Removes socket and log pipe, as far as that can be done. -/
def cleanUp (s : Supervision) : Program Files Unit := do
  let _ ← Files.remove s.socket
  let _ ← Files.remove s.logPipe
  return ()

def supervise (s : Supervision) (config : BootConfig) : Task Process Unit := do
  let result ← ExceptT.lift (Task.attempt do
    s.boot config
    s.awaitEnd)
  ExceptT.lift (Process.onFiles s.cleanUp)
  Task.ofExcept result

end Supervision

end MicroVm.Hypervisor

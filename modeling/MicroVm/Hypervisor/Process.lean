import MicroVm.Hypervisor.Control
import MicroVm.Host.Files

/-!
# The process of the hypervisor

What a supervisor asks of the host while a hypervisor runs. Signals wait in a queue until they are
taken. During the boot, whatever takes time can end because of a signal instead, and a signal that
is there goes before all else. After the boot a listener acts on the signals.
-/

namespace MicroVm.Hypervisor

open MicroVm.Host

/-- What was waited for, or the signal that came instead. -/
inductive Awaited (α : Type)
  | finished (value : α)
  | interrupted (signal : ShutdownSignal)
  deriving DecidableEq

inductive ProcessRequest
  | file (request : FileRequest)
  /-- Opens the log pipe and logs the lines that come out of it. -/
  | openLog (path : String)
  | spawn (program : String) (arguments : List String)
  /-- How the process has ended, if it has. -/
  | pollExit
  /-- Takes the first signal of the queue, if there is one. -/
  | takeSignal
  | pause (duration : Duration)
  | put (call : Call)
  | kill
  /-- Starts acting on signals, with a grace period. -/
  | listen (grace : Duration)
  | awaitExit
  | stopListening
  deriving DecidableEq

def ProcessRequest.Answer : ProcessRequest → Type
  | .file request => request.Answer
  | .openLog _ => Except SystemError Unit
  | .spawn _ _ => Except SystemError Unit
  | .pollExit => Except SystemError (Option ExitStatus)
  | .takeSignal => Option ShutdownSignal
  | .pause _ => Awaited Unit
  | .put _ => Awaited Reply
  | .kill => Except SystemError Unit
  | .listen _ => Unit
  | .awaitExit => Except SystemError ExitStatus
  | .stopListening => Unit

def Process : Interface := ⟨ProcessRequest, ProcessRequest.Answer⟩

namespace Process

def onFiles {α : Type} (program : Program Files α) : Program Process α :=
  program.expand fun request ↦ Program.perform (I := Process) (.file request)

def files {α : Type} (task : Task Files α) : Task Process α := .of (onFiles task.attempt)

/-- The result of waiting, where a signal ends the boot. -/
def ofAwaited {α : Type} : Awaited α → Task Process α
  | .finished value => return value
  | .interrupted signal => Task.fail (.signalBeforeBoot signal)

/-- Lets time pass, unless a signal comes. -/
def pause (duration : Duration) : Task Process Unit :=
  ExceptT.lift (Program.perform (I := Process) (.pause duration)) >>= ofAwaited

/-- Makes a request, unless a signal comes. -/
def put (call : Call) : Task Process Unit := do
  let reply ← ExceptT.lift (Program.perform (I := Process) (.put call)) >>= ofAwaited
  Task.ofExcept (reply.outcome call)

def checkSignal : Task Process Unit := do
  match ← ExceptT.lift (Program.perform (I := Process) .takeSignal) with
  | none => return ()
  | some signal => Task.fail (.signalBeforeBoot signal)

end Process

end MicroVm.Hypervisor

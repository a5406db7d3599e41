import MicroVm.Hypervisor.LogLine
import MicroVm.Hypervisor.Process
import MicroVm.Rehearsal.Agenda
import MicroVm.Rehearsal.ControlServer
import MicroVm.Rehearsal.FileTree
import MicroVm.Text.Split

/-!
# A hypervisor that follows a script

Once it is started, a scripted hypervisor prints its lines and opens its control socket, or exits
before that, or does nothing at all. When the instance is started, it exits, unless there are
signals to come: then it stays until it is killed.
-/

namespace MicroVm.Rehearsal

open MicroVm.Host MicroVm.Hypervisor

/-- What a hypervisor does when it is started. -/
inductive Conduct
  | opensSocket
  | exitsAtOnce
  | staysSilent
  | isMissing
  deriving DecidableEq, Repr

inductive LogLevel
  | info
  | warning
  deriving DecidableEq, Repr

structure HypervisorScript where
  conduct : Conduct := .opensSocket
  exit : ExitStatus := .exited 0
  output : String := ""
  errors : String := ""
  log : String := ""
  signalsBefore : List ShutdownSignal := []
  /-- The signals that come after the boot, one after the other. -/
  signalsAfter : List ShutdownSignal := []
  arguments : Option (List String) := none
  ended : Option ExitStatus := none
  grace : Duration := ⟨0⟩

def signalInterval : Duration := .ofMilliseconds 60

def spaced (signals : List ShutdownSignal) : List (Duration × ShutdownSignal) :=
  signals.zipIdx.map fun (signal, index) ↦ (⟨index * signalInterval.nanoseconds⟩, signal)

structure HypervisorHost where
  script : HypervisorScript := {}
  server : ControlServer := {}
  files : FileTree := {}

namespace HypervisorScript

def socket? : List String → Option String
  | "--api-sock" :: path :: _ => some path
  | _ :: arguments => socket? arguments
  | [] => none

def logged (level : LogLevel) (lines : List (List Char)) : List (LogLevel × List Char) :=
  lines.map fun line ↦ (level, logMessage line)

def lines (script : HypervisorScript) : List (LogLevel × List Char) :=
  if script.arguments.isNone then []
  else
    logged .info (Text.lines script.output.toList) ++
      logged .warning (Text.lines script.errors.toList) ++
      logged .info (Text.endedLines script.log.toList)

def ending (script : HypervisorScript) (status : ExitStatus) : HypervisorScript :=
  { script with ended := script.ended.or (some status) }

end HypervisorScript

namespace HypervisorHost

def spawn (host : HypervisorHost) (arguments : List String) : HypervisorHost :=
  let host := { host with script := { host.script with arguments := some arguments } }
  match host.script.conduct with
  | .opensSocket =>
    match HypervisorScript.socket? arguments with
    | some path => { host with files := (host.files.create path .socket).toOption.getD host.files }
    | none => host
  | .exitsAtOnce => { host with script := host.script.ending host.script.exit }
  | .staysSilent | .isMissing => host

/-- Makes a request. Starting the instance may be the end of the process. -/
def put (host : HypervisorHost) (call : Call) : Reply × HypervisorHost :=
  let (reply, server) := ControlServer.answer call host.server
  let host := { host with server }
  if call = .action .start ∧ host.script.signalsAfter = [] then
    (reply, { host with script := host.script.ending host.script.exit })
  else (reply, host)

def kill (host : HypervisorHost) : HypervisorHost :=
  { host with script := host.script.ending (.signalled killSignal) }

def target : ShutdownTarget HypervisorHost where
  press _ host :=
    let (reply, host) := host.put (.action .sendCtrlAltDel)
    (reply.outcome (.action .sendCtrlAltDel), host)
  kill _ host := (.ok (), host.kill)

/-- Lets the signals after the boot come until the process has ended. -/
def awaitEnd (host : HypervisorHost) : HypervisorHost :=
  Agenda.runSignals target (fun host ↦ host.script.ended.isSome) host.script.grace
    (spaced host.script.signalsAfter) host

/-- Answers the requests of a supervisor. A process that nothing ends counts as exited. -/
def answer : Handler Process HypervisorHost
  | .file request, host =>
    let (answer, files) := FileTree.answer request host.files
    (answer, { host with files })
  | .openLog _, host => (.ok (), host)
  | .spawn _ arguments, host =>
    if host.script.conduct = .isMissing then (.error .notFound, host)
    else (.ok (), host.spawn arguments)
  | .pollExit, host => (.ok host.script.ended, host)
  | .takeSignal, host =>
    (host.script.signalsBefore.head?,
      { host with script.signalsBefore := host.script.signalsBefore.tail })
  | .pause _, host => (.finished (), host)
  | .put call, host =>
    let (reply, host) := host.put call
    (.finished reply, host)
  | .kill, host => (.ok (), host.kill)
  | .listen grace, host => ((), { host with script.grace := grace })
  | .awaitExit, host =>
    let host := host.awaitEnd
    (.ok (host.script.ended.getD host.script.exit), host)
  | .stopListening, host => ((), host)

end HypervisorHost

end MicroVm.Rehearsal

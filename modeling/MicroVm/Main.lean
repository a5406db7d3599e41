import MicroVm.CommandLine.Invocation
import MicroVm.CommandLine.Usage
import MicroVm.Run.Sandbox

/-!
# The program

The program runs the machine that its command line names, and ends with the failure of the run if
there is one. This layer answers the requests of a run as far as the standard library reaches:
files, the monotonic clock and random bytes. Commands and the hypervisor would be processes of
their own, and here they get the answer of a host without that service. A request that has no such
answer ends the run.
-/

namespace MicroVm

open MicroVm.CommandLine MicroVm.Host MicroVm.Hypervisor MicroVm.Run

def systemError : IO.Error → SystemError
  | .noFileOrDirectory .. => .notFound
  | .alreadyExists .. => .alreadyExists
  | .inappropriateType _ code text => ⟨code.toNat, text⟩
  | .permissionDenied _ code text => ⟨code.toNat, text⟩
  | .resourceExhausted _ code text => ⟨code.toNat, text⟩
  | .invalidArgument _ code text => ⟨code.toNat, text⟩
  | .unsatisfiedConstraints code text => ⟨code.toNat, text⟩
  | .otherError code text => ⟨code.toNat, text⟩
  | _ => .notImplemented

def tried {α : Type} (action : IO α) : IO (Option (Except SystemError α)) := do
  match ← action.toBaseIO with
  | .ok value => return some (.ok value)
  | .error error => return some (.error (systemError error))

def notOffered {α : Type} : IO (Option (Except SystemError α)) :=
  return some (.error .notImplemented)

def accessRight (bits : Nat) : IO.AccessRight :=
  ⟨bits.testBit 2, bits.testBit 1, bits.testBit 0⟩

def fileRight (mode : Nat) : IO.FileRight :=
  ⟨accessRight (mode / 64), accessRight (mode / 8), accessRight mode⟩

def answerFile : (request : FileRequest) → IO (Option request.Answer)
  | .createDirectories path => tried (IO.FS.createDirAll path)
  | .fileExists path => do
    match ← (IO.FS.Handle.mk path .read).toBaseIO with
    | .ok _ => return some true
    | .error error => return some (systemError error != .notFound)
  | .isBlockDevice _ => return none
  | .readFile path => tried do return (← IO.FS.readBinFile path).toList
  | .writeFile path content => tried (IO.FS.writeBinFile path ⟨content.toArray⟩)
  | .setMode path mode => tried (IO.setAccessRights path (fileRight mode))
  | .rename source target => tried (IO.FS.rename source target)
  | .removeFile path => tried (IO.FS.removeFile path)
  | .listDirectory _ => notOffered
  | .openFile path => tried do let _ ← IO.FS.Handle.mk path .append
  | .fileLength path => tried do return (← IO.FS.readBinFile path).size
  | .resizeFile _ _ => notOffered
  | .createPipe _ => notOffered
  | .lockFile _ => notOffered
  | .unlockFile _ => return some ()

/-- Answers a request about the process of the hypervisor, which is never there. -/
def answerProcess : (request : ProcessRequest) → IO (Option request.Answer)
  | .file request => answerFile request
  | .openLog _ => notOffered
  | .spawn _ _ => notOffered
  | .pollExit => notOffered
  | .takeSignal => return some none
  | .pause duration => do
    IO.sleep (.ofNat duration.milliseconds)
    return some (.finished ())
  | .put _ => return some (.finished (.unreachable .notImplemented))
  | .kill => notOffered
  | .listen _ => return some ()
  | .awaitExit => notOffered
  | .stopListening => return some ()

def answerSandbox : (request : SandboxRequest) → IO (Option request.Answer)
  | .command _ => notOffered
  | .file request => answerFile request
  | .process request => answerProcess request
  | .randomBytes => do return Octets.ofBytes? 6 (← IO.getRandomBytes 6).toList
  | .now => do return some ⟨← IO.monoNanosNow⟩
  | .sleep duration => do
    IO.sleep (.ofNat duration.milliseconds)
    return some ()
  | .warn interface text => do
    IO.eprintln s!"WARN {interface}: {text}"
    return some ()
  | .today => return none
  | .captureSignals => return some (.error (.system .notImplemented))
  | .startResponder _ => return none
  | .abort _ => return some ()

/-- Runs a program against the host. There is no result when the program halts or asks for
something without an answer. -/
def Program.runOnHost {I : Interface} {α : Type}
    (answer : (request : I.Request) → IO (Option (I.Answer request))) : Program I α → IO (Option α)
  | .done value => return some value
  | .halt => return none
  | .ask request next => do
    match ← answer request with
    | some found => (next found).runOnHost answer
    | none => return none

def readEnvironment : List String → IO (List (String × String))
  | [] => return []
  | name :: names => do
    let others ← readEnvironment names
    match ← IO.getEnv name with
    | some text => return (name, text) :: others
    | none => return others

def variableNames : List String := dhcpv6Variable :: ValueOption.all.map ValueOption.variableName

def serve (invocation : Invocation) : IO UInt32 := do
  let layout := Layout.ofChoice invocation.baseDirectory
  let task := runMachine layout invocation.settings invocation.machine
  match ← task.attempt.runOnHost (I := Sandbox) answerSandbox with
  | some (.ok ()) => return 0
  | some (.error failure) =>
    IO.eprintln s!"Error: {failure.message}"
    return 1
  | none =>
    IO.eprintln "Error: the run cannot go on here"
    return 1

def runCommandLine (arguments : List String) : IO UInt32 := do
  let environment ← readEnvironment variableNames
  match Invocation.read arguments fun name ↦ environment.lookup name with
  | .ok invocation => serve invocation
  | .error refusal =>
    if refusal.isWish then
      IO.println refusal.message
      return 0
    else
      IO.eprintln refusal.message
      return 2

end MicroVm

def main (arguments : List String) : IO UInt32 := MicroVm.runCommandLine arguments

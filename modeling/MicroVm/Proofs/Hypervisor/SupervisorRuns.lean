import Mathlib.Data.List.Basic
import MicroVm.Hypervisor.Supervisor
import MicroVm.Proofs.Program.Requests

/-!
# Runs of a supervisor

A supervisor takes the signal that waits, if there is one, makes room and starts the process, looks
for the control socket, and makes its requests one after the other. The first thing that fails, and
a signal that comes instead of what is waited for, end the boot. A boot that ends after the start
of the process kills it. Only after all requests were accepted are signals listened to and the end
of the process waited for. Every run takes one of these courses, whatever is answered in it.
-/

namespace MicroVm.Hypervisor

open MicroVm.Host

/-! ## Single requests -/

section Requests

variable {α β : Type} {history : History Process} {result : Option (Except Failure β)}

/-- A task that begins with a request goes on from its answer. -/
theorem isRun_request_bind_iff {request : ProcessRequest} {next : request.Answer → Task Process β} :
    ((liftM (Program.perform (I := Process) request) : Task Process request.Answer) >>=
        next).attempt.IsRun history result ↔
      ∃ answer rest, history = ⟨request, answer⟩ :: rest ∧
        (next answer).attempt.IsRun rest result :=
  Task.isRun_request_bind_iff fun _ _ ↦ Program.isRun_perform_iff

end Requests

/-! ## What the supervisor looks for and asks for -/

namespace Supervision

/-- What is seen while the control socket is waited for, by the number of looks left. -/
inductive Looks (s : Supervision) : ℕ → History Process → Except Failure Unit → Prop
  | missing : Looks s 0 [] (.error (.cause (.socketMissing s.socket socketWait)))
  | found (looks : ℕ) : Looks s (looks + 1) [⟨.file (.fileExists s.socket), true⟩] (.ok ())
  | unpolled (looks : ℕ) (error : SystemError) : Looks s (looks + 1)
      [⟨.file (.fileExists s.socket), false⟩, ⟨.pollExit, Except.error error⟩]
      (.error (.within .pollingHypervisor (.system error)))
  | ended (looks : ℕ) (status : ExitStatus) : Looks s (looks + 1)
      [⟨.file (.fileExists s.socket), false⟩, ⟨.pollExit, Except.ok (some status)⟩]
      (.error (.cause (.endedBeforeSocket status)))
  | interrupted (looks : ℕ) (signal : ShutdownSignal) : Looks s (looks + 1)
      [⟨.file (.fileExists s.socket), false⟩, ⟨.pollExit, Except.ok none⟩,
        ⟨.pause lookInterval, Awaited.interrupted signal⟩]
      (.error (.cause (.signalBeforeBoot signal)))
  | again {looks : ℕ} {history : History Process} {result : Except Failure Unit}
      (later : Looks s looks history result) : Looks s (looks + 1)
      (⟨.file (.fileExists s.socket), false⟩ :: ⟨.pollExit, Except.ok none⟩ ::
        ⟨.pause lookInterval, Awaited.finished ()⟩ :: history) result

/-- What is asked for and answered while calls are made, each after the one before was accepted. -/
inductive Puts : List Call → History Process → Except Failure Unit → Prop
  | nil : Puts [] [] (.ok ())
  | accepted {call : Call} {calls : List Call} {reply : Reply} {history : History Process}
      {result : Except Failure Unit} (haccepted : reply.outcome call = .ok ())
      (later : Puts calls history result) :
      Puts (call :: calls) (⟨.put call, Awaited.finished reply⟩ :: history) result
  | refused {call : Call} (calls : List Call) {reply : Reply} {failure : Failure}
      (hrefused : reply.outcome call = .error failure) :
      Puts (call :: calls) [⟨.put call, Awaited.finished reply⟩] (.error failure)
  | interrupted (call : Call) (calls : List Call) (signal : ShutdownSignal) :
      Puts (call :: calls) [⟨.put call, Awaited.interrupted signal⟩]
        (.error (.cause (.signalBeforeBoot signal)))

variable {s : Supervision} {history : History Process} {result : Option (Except Failure Unit)}

/-- Events beside the boot: work on files, and a process that was not started. -/
inductive IsAside : Event Process → Prop
  | file {request : FileRequest} (answer : request.Answer)
      (hlook : ∀ path, request ≠ .fileExists path) : IsAside ⟨.file request, answer⟩
  | openLog (path : String) (answer : Except SystemError Unit) : IsAside ⟨.openLog path, answer⟩
  | unspawned (program : String) (arguments : List String) (error : SystemError) :
      IsAside ⟨.spawn program arguments, Except.error error⟩

/-- An event on the files as one of a supervisor. -/
def fileEvent (event : Event Files) : Event Process := ⟨.file event.request, event.answer⟩

theorem isRun_onFiles_iff {α : Type} {program : Program Files α} {result : Option α} :
    (Process.onFiles program).IsRun history result ↔
      ∃ asked, history = asked.map fileEvent ∧ program.IsRun asked result :=
  Program.isRun_expand_iff fun _ _ _ ↦ Program.isRun_perform_iff

/-- What is done for the start of the process. -/
inductive Starts (s : Supervision) : History Process → Except Failure Unit → Prop
  | failed {history : History Process} (failure : Failure)
      (haside : ∀ event ∈ history, IsAside event) : Starts s history (.error failure)
  | started {history : History Process} (haside : ∀ event ∈ history, IsAside event) :
      Starts s (history ++ [⟨.spawn s.program s.arguments, Except.ok ()⟩]) (.ok ())

/-- The calls that boot a guest, in order. -/
def bootCalls (config : BootConfig) : List Call := config.calls ++ [.action .start]

/-- What is done once the process runs. -/
inductive RunsUp (s : Supervision) (config : BootConfig) :
    History Process → Except Failure Unit → Prop
  | socketless {looked : History Process} {failure : Failure}
      (hlooks : s.Looks socketLooks looked (.error failure)) :
      RunsUp s config looked (.error failure)
  | asked {looked asked : History Process} {result : Except Failure Unit}
      (hlooks : s.Looks socketLooks looked (.ok ()))
      (hputs : Puts (bootCalls config) asked result) :
      RunsUp s config (looked ++ asked) result

/-- What is done to boot a guest. -/
inductive Boots (s : Supervision) (config : BootConfig) :
    History Process → Except Failure Unit → Prop
  | interrupted (signal : ShutdownSignal) :
      Boots s config [⟨.takeSignal, some signal⟩] (.error (.cause (.signalBeforeBoot signal)))
  | unstarted {begun : History Process} {failure : Failure}
      (hstart : s.Starts begun (.error failure)) :
      Boots s config (⟨.takeSignal, none⟩ :: begun) (.error failure)
  | failed {begun up : History Process} {failure : Failure} (hstart : s.Starts begun (.ok ()))
      (hup : s.RunsUp config up (.error failure)) (killed : Except SystemError Unit) :
      Boots s config (⟨.takeSignal, none⟩ :: (begun ++ (up ++ [⟨.kill, killed⟩])))
        (.error failure)
  | booted {begun up : History Process} (hstart : s.Starts begun (.ok ()))
      (hup : s.RunsUp config up (.ok ())) :
      Boots s config (⟨.takeSignal, none⟩ :: (begun ++ up)) (.ok ())

end Supervision

end MicroVm.Hypervisor

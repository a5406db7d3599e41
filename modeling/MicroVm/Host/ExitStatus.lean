/-!
# How processes end

A process exits with a code or is ended by a signal.
-/

namespace MicroVm.Host

inductive ExitStatus
  | exited (code : Nat)
  | signalled (number : Nat)
  deriving DecidableEq, Repr

def killSignal : Nat := 9

def signalNames : List (Nat × String) := [
  (1, "SIGHUP"), (2, "SIGINT"), (3, "SIGQUIT"), (4, "SIGILL"), (5, "SIGTRAP"), (6, "SIGABRT"),
  (7, "SIGBUS"), (8, "SIGFPE"), (9, "SIGKILL"), (10, "SIGUSR1"), (11, "SIGSEGV"),
  (12, "SIGUSR2"), (13, "SIGPIPE"), (14, "SIGALRM"), (15, "SIGTERM"), (16, "SIGSTKFLT"),
  (24, "SIGXCPU"), (25, "SIGXFSZ"), (26, "SIGVTALRM"), (27, "SIGPROF"), (29, "SIGIO"),
  (30, "SIGPWR"), (31, "SIGSYS")]

namespace ExitStatus

def isSuccess (status : ExitStatus) : Bool := status == .exited 0

def code? : ExitStatus → Option Nat
  | .exited code => some code
  | .signalled _ => none

def text : ExitStatus → String
  | .exited code => s!"exit status: {code}"
  | .signalled number =>
    match signalNames.lookup number with
    | some name => s!"signal: {number} ({name})"
    | none => s!"signal: {number}"

end ExitStatus

end MicroVm.Host

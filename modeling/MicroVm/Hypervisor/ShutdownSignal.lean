/-!
# Signals that end a run

Three signals ask for the end of a run. Two of them leave the guest time, and the third does not.
-/

namespace MicroVm.Hypervisor

inductive ShutdownSignal
  | interrupt
  | terminate
  | quit
  deriving DecidableEq, Repr

def ShutdownSignal.text : ShutdownSignal → String
  | .interrupt => "Interrupt"
  | .terminate => "Terminate"
  | .quit => "Quit"

end MicroVm.Hypervisor

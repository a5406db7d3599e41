import MicroVm.Program

/-!
# Shutting the guest down

A first signal presses the power button of the guest and, after a grace period, presses it again.
If the second press is still accepted, the guest has ignored the first one, and the hypervisor is
killed. The signal to quit kills at once. Signals are acted on independently of one another, so a
signal to quit cuts the grace period of another one short.
-/

namespace MicroVm.Hypervisor

inductive ShutdownRequest
  /-- Presses the power button. It fails once the hypervisor no longer answers. -/
  | pressButton
  | kill
  | sleep (duration : Duration)
  deriving DecidableEq, Repr

def ShutdownRequest.Answer : ShutdownRequest → Type
  | .pressButton => Except Failure Unit
  | .kill => Except Failure Unit
  | .sleep _ => Unit

def Shutdown : Interface := ⟨ShutdownRequest, ShutdownRequest.Answer⟩

namespace Shutdown

def pressButton : Program Shutdown (Except Failure Unit) :=
  Program.perform (I := Shutdown) .pressButton

def kill : Program Shutdown (Except Failure Unit) := Program.perform (I := Shutdown) .kill

def sleep (duration : Duration) : Program Shutdown Unit :=
  Program.perform (I := Shutdown) (.sleep duration)

end Shutdown

def handleSignal (signal : ShutdownSignal) (grace : Duration) :
    Program Shutdown (Except Failure Unit) :=
  match signal with
  | .quit => Shutdown.kill
  | _ => do
    let _ ← Shutdown.pressButton
    Shutdown.sleep grace
    match ← Shutdown.pressButton with
    | .ok () => Shutdown.kill
    | .error _ => return .ok ()

end MicroVm.Hypervisor

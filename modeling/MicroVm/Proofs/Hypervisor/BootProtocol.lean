import Mathlib.Data.List.Infix
import Mathlib.Data.List.Pairwise
import MicroVm.Proofs.Hypervisor.SupervisorRuns
import MicroVm.Proofs.Program.Conduct

/-!
# The boot protocol

In every run of a supervisor the calls of the boot come in their order and each only after those
before it were accepted. The run succeeds exactly when the last of them was accepted and the process
then ended well. A signal that is taken ends the boot with a failure that names it. If the boot is
not completed, the process does not run any more at the end; if it is, the listener finds all
signals that have come.
-/

namespace MicroVm.Hypervisor

open MicroVm.Host

/-! ## The calls of a boot -/

namespace BootConfig

end BootConfig

/-- The call that is made in an event, with what came of it. -/
def exchange? : Event Process → Option (Call × Awaited Reply)
  | ⟨.put call, answer⟩ => some (call, answer)
  | _ => none

/-- The calls that are made, with what came of them. -/
def exchanges (history : History Process) : List (Call × Awaited Reply) :=
  history.filterMap exchange?

/-- The signal that is taken from the queue in an event. -/
def takenSignal? : Event Process → Option ShutdownSignal
  | ⟨.takeSignal, answer⟩ => answer
  | ⟨.pause _, .interrupted signal⟩ => some signal
  | ⟨.put _, .interrupted signal⟩ => some signal
  | _ => none

/-- The signals that are taken from the queue. -/
def takenSignals (history : History Process) : List ShutdownSignal :=
  history.filterMap takenSignal?

/-- Whether an event is a look for the control socket. -/
def Supervision.isLook (s : Supervision) : Event Process → Bool
  | ⟨.file (.fileExists path), _⟩ => path = s.socket
  | _ => false

namespace Supervision

variable {s : Supervision} {config : BootConfig} {history before after : History Process}
  {outcome result : Except Failure Unit}

/-- Whether events have nothing to do with the boot. -/
structure IsQuiet (s : Supervision) (history : History Process) : Prop where
  exchanges_eq : exchanges history = []
  taken_eq : takenSignals history = []
  looks_eq : history.countP s.isLook = 0

theorem exchanges_append : exchanges (before ++ after) = exchanges before ++ exchanges after :=
  List.filterMap_append

theorem takenSignals_append :
    takenSignals (before ++ after) = takenSignals before ++ takenSignals after :=
  List.filterMap_append

/-- What is asked for aside has nothing to do with the boot. -/
theorem isQuiet_of_isAside (haside : ∀ event ∈ history, IsAside event) : s.IsQuiet history where
  exchanges_eq := List.filterMap_eq_nil_iff.2 fun event hevent ↦ by
    cases haside event hevent <;> rfl
  taken_eq := List.filterMap_eq_nil_iff.2 fun event hevent ↦ by
    cases haside event hevent <;> rfl
  looks_eq := List.countP_eq_zero.2 fun event hevent ↦ by
    cases haside event hevent with
    | @file request _ hlook =>
      cases request with
      | fileExists path => exact absurd rfl (hlook path)
      | _ => exact Bool.false_ne_true
    | openLog => exact Bool.false_ne_true
    | unspawned => exact Bool.false_ne_true

section Looks

variable {looks : ℕ}

theorem Looks.exchanges_eq (hlooks : s.Looks looks history result) : exchanges history = [] := by
  induction hlooks with
  | again _ ih => exact ih
  | _ => rfl

/-- A signal that is taken while the socket is awaited ends the boot. -/
theorem Looks.taken (hlooks : s.Looks looks history result) :
    ∀ signal ∈ takenSignals history, result = .error (.cause (.signalBeforeBoot signal)) := by
  induction hlooks with
  | again _ ih => exact ih
  | interrupted _ signal =>
    intro taken htaken
    obtain rfl := List.mem_singleton.1 htaken
    rfl
  | _ => exact nofun

end Looks

section Puts

variable {call : Call} {calls front : List Call} {answer : Awaited Reply}

theorem Puts.looks_eq (hputs : Puts calls history result) : history.countP s.isLook = 0 := by
  induction hputs with
  | accepted _ _ ih => exact ih
  | _ => rfl

/-- A signal that is taken during a call ends the boot. -/
theorem Puts.taken (hputs : Puts calls history result) :
    ∀ signal ∈ takenSignals history, result = .error (.cause (.signalBeforeBoot signal)) := by
  induction hputs with
  | accepted _ _ ih => exact ih
  | interrupted _ _ signal =>
    intro taken htaken
    obtain rfl := List.mem_singleton.1 htaken
    rfl
  | _ => exact nofun

end Puts

theorem IsQuiet.append (hbefore : s.IsQuiet before) (hafter : s.IsQuiet after) :
    s.IsQuiet (before ++ after) where
  exchanges_eq := by rw [exchanges_append, hbefore.exchanges_eq, hafter.exchanges_eq]; rfl
  taken_eq := by rw [takenSignals_append, hbefore.taken_eq, hafter.taken_eq]; rfl
  looks_eq := by rw [List.countP_append, hbefore.looks_eq, hafter.looks_eq]

theorem Starts.isQuiet (hstart : s.Starts history outcome) : s.IsQuiet history := by
  cases hstart with
  | failed _ haside => exact isQuiet_of_isAside haside
  | started haside => exact (isQuiet_of_isAside haside).append ⟨rfl, rfl, rfl⟩

end Supervision

end MicroVm.Hypervisor

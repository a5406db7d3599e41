import MicroVm.Rehearsal.Agenda

/-!
# A guest that dies by itself

A guest accepts the power button until it is dead, except for presses that fail as planned. It dies
at a time of its own, or by the first kill that succeeds.
-/

namespace MicroVm.Rehearsal

open MicroVm.Hypervisor

inductive ShutdownAct
  | press
  | kill
  deriving DecidableEq, Repr

structure ShutdownEntry where
  time : Duration
  act : ShutdownAct
  succeeded : Bool
  deriving DecidableEq, Repr

structure PatientGuest where
  /-- The time at which the guest dies by itself. -/
  diesAt : Option Duration := none
  /-- The numbers of the presses that fail, from one on. -/
  failingPresses : List Nat := []
  /-- The message with which every kill fails. -/
  killFault : Option String := none
  presses : Nat := 0
  isKilled : Bool := false
  now : Duration := ⟨0⟩
  log : List ShutdownEntry := []

namespace PatientGuest

def livesAt (guest : PatientGuest) (time : Duration) : Bool :=
  !guest.isKilled && match guest.diesAt with
    | none => true
    | some death => decide (time < death)

def noAnswer : Failure := .cause (.reported "connection refused")

def press (time : Duration) (guest : PatientGuest) : Except Failure Unit × PatientGuest :=
  let number := guest.presses + 1
  let succeeds := guest.livesAt time && !guest.failingPresses.contains number
  (if succeeds then .ok () else .error noAnswer,
    { guest with presses := number, log := guest.log ++ [⟨time, .press, succeeds⟩] })

def kill (time : Duration) (guest : PatientGuest) : Except Failure Unit × PatientGuest :=
  match guest.killFault with
  | some text =>
    (.error (.cause (.reported text)),
      { guest with log := guest.log ++ [⟨time, .kill, false⟩] })
  | none =>
    (.ok (), { guest with isKilled := true, log := guest.log ++ [⟨time, .kill, true⟩] })

def target : ShutdownTarget PatientGuest := ⟨press, kill⟩

def answer : Handler Shutdown PatientGuest
  | .pressButton, guest => guest.press guest.now
  | .kill, guest => guest.kill guest.now
  | .sleep duration, guest => ((), { guest with now := guest.now + duration })

def afterSignals (guest : PatientGuest) (grace : Duration)
    (signals : List (Duration × ShutdownSignal)) : PatientGuest :=
  Agenda.runSignals target (fun _ ↦ false) grace signals guest

end PatientGuest

end MicroVm.Rehearsal

import MicroVm.Hypervisor.Escalation

/-!
# Shutdown programs in virtual time

Every signal starts a program of its own, and each program sleeps until its time has come. An
agenda holds the programs by the time at which they go on. Programs that go on at the same time do
so in the order in which they were put there. Time passes only from one entry of the agenda to
the next.
-/

namespace MicroVm.Rehearsal

open MicroVm.Hypervisor

abbrev ShutdownProgram := Program Shutdown (Except Failure Unit)

/-- The programs that are to go on, each with its time, the earliest first. -/
abbrev Agenda := List (Duration × ShutdownProgram)

/-- What is to be shut down, as far as it takes no time. -/
structure ShutdownTarget (σ : Type) where
  press : Duration → σ → Except Failure Unit × σ
  kill : Duration → σ → Except Failure Unit × σ

namespace Agenda

/-- Puts a program at its time, after those that are there for the same time. -/
def insert (time : Duration) (program : ShutdownProgram) : Agenda → Agenda
  | [] => [(time, program)]
  | entry :: agenda =>
    if time < entry.1 then (time, program) :: entry :: agenda
    else entry :: insert time program agenda

def ofSignals (grace : Duration) (signals : List (Duration × ShutdownSignal)) : Agenda :=
  signals.foldl (fun agenda (time, signal) ↦ insert time (handleSignal signal grace) agenda) []

/-- Runs a program until it sleeps. Gives what is left of it and the time at which it goes on. -/
def advance {σ : Type} (target : ShutdownTarget σ) (time : Duration) :
    ShutdownProgram → σ → Option (Duration × ShutdownProgram) × σ
  | .done _, state => (none, state)
  | .halt, state => (none, state)
  | .ask ShutdownRequest.pressButton next, state =>
    let (answer, state) := target.press time state
    advance target time (next answer) state
  | .ask ShutdownRequest.kill next, state =>
    let (answer, state) := target.kill time state
    advance target time (next answer) state
  | .ask (ShutdownRequest.sleep duration) next, state => (some (time + duration, next ()), state)

/-- Lets a number of programs go on, unless it is over before. -/
def run {σ : Type} (target : ShutdownTarget σ) (isOver : σ → Bool) :
    (turns : Nat) → Agenda → σ → σ
  | 0, _, state => state
  | _, [], state => state
  | turns + 1, (time, program) :: agenda, state =>
    if isOver state then state
    else
      match advance target time program state with
      | (none, state) => run target isOver turns agenda state
      | (some (time, program), state) => run target isOver turns (insert time program agenda) state

/-- How often the program of a signal goes on, at most: at its start and after its sleep. -/
def turnsOfSignal : Nat := 2

def runSignals {σ : Type} (target : ShutdownTarget σ) (isOver : σ → Bool) (grace : Duration)
    (signals : List (Duration × ShutdownSignal)) (state : σ) : σ :=
  run target isOver (turnsOfSignal * signals.length) (ofSignals grace signals) state

end Agenda

end MicroVm.Rehearsal

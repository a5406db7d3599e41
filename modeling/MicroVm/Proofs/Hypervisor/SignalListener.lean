import Mathlib.Data.List.Basic
import Mathlib.Logic.Function.Basic
import MicroVm.Proofs.Time.DurationOrder
import MicroVm.Rehearsal.PatientGuest

/-!
# Listening to signals

A listener receives the signals that come and starts a task for each. The tasks act on one target,
in any order where several are ready, and a task that sleeps is ready again at its time. Requests
and kills take no time, and time does not pass over anything that is due. What the target answers
is up to the target.

Whatever happens to the other tasks, the task of a signal acts at its own times: a signal to quit
kills when it comes, and any other presses the button when it comes and once more after the grace
period, and kills then if that second press is accepted.
-/

namespace MicroVm.Hypervisor

open MicroVm.Rehearsal

/-! ## The parts of a shutdown -/

/-- The part of a shutdown after the grace period. -/
def secondPress : ShutdownProgram := do
  match ← Shutdown.pressButton with
  | .ok () => Shutdown.kill
  | .error _ => return .ok ()

theorem handleSignal_of_ne_quit {signal : ShutdownSignal} (hsignal : signal ≠ .quit)
    (grace : Duration) :
    handleSignal signal grace = .ask .pressButton fun _ ↦ .ask (.sleep grace) fun _ ↦
      secondPress := by
  cases signal with
  | interrupt => rfl
  | terminate => rfl
  | quit => exact absurd rfl hsignal

/-! ## The listener and its tasks -/

/-- How a target behaves: at a time and in a state, which answer an act may get and which state may
come after it. -/
abbrev TargetConduct (σ : Type) := Duration → ShutdownAct → σ → Except Failure Unit → σ → Prop

/-- Signals with the times at which they come. -/
abbrev Schedule := List (Duration × ShutdownSignal)

/-- A task: when it goes on, and what is left of it. -/
structure ShutdownTask where
  due : Duration
  rest : ShutdownProgram

/-- An act with the place in the schedule of the signal that it is done for. -/
structure Acted where
  source : ℕ
  entry : ShutdownEntry
  deriving DecidableEq

/-- A listener at work. -/
structure Listening (σ : Type) where
  now : Duration
  target : σ
  /-- The tasks of the signals that were received. -/
  task : ℕ → Option ShutdownTask
  /-- All acts in order. -/
  log : List Acted

/-- What a task does next to the target, and how it goes on. -/
inductive Acts : ShutdownProgram → ShutdownAct → (Except Failure Unit → ShutdownProgram) → Prop
  | press (next : Except Failure Unit → ShutdownProgram) : Acts (.ask .pressButton next) .press next
  | kill (next : Except Failure Unit → ShutdownProgram) : Acts (.ask .kill next) .kill next

/-- How long a task sleeps next, and how it goes on. -/
inductive Sleeps : ShutdownProgram → Duration → ShutdownProgram → Prop
  | sleep (duration : Duration) (next : Unit → ShutdownProgram) :
      Sleeps (.ask (.sleep duration) next) duration (next ())

/-- Whether a task has anything left to do. -/
def IsAsking : ShutdownProgram → Prop
  | .ask _ _ => True
  | _ => False

namespace Listening

variable {σ : Type}

/-- A listener before the first signal. -/
def initial (target : σ) : Listening σ := ⟨⟨0⟩, target, fun _ ↦ none, []⟩

/-- The listener after a task was put in the place of another one. -/
def setTask (state : Listening σ) (i : ℕ) (task : ShutdownTask) : Listening σ :=
  { state with task := Function.update state.task i (some task) }

/-- The listener after an act. -/
def act (state : Listening σ) (i : ℕ) (act : ShutdownAct) (succeeded : Bool) (after : σ) :
    Listening σ :=
  { state with target := after, log := state.log ++ [⟨i, state.now, act, succeeded⟩] }

/-- One step: a signal is received, a task that is ready acts or goes to sleep, or time passes. -/
inductive Step (conduct : TargetConduct σ) (grace : Duration) (schedule : Schedule) :
    Listening σ → Listening σ → Prop
  | receive {state : Listening σ} {i : ℕ} {time : Duration} {signal : ShutdownSignal}
      (scheduled : schedule[i]? = some (time, signal)) (unknown : state.task i = none)
      (ready : time ≤ state.now) :
      Step conduct grace schedule state (state.setTask i ⟨state.now, handleSignal signal grace⟩)
  | act {state : Listening σ} {i : ℕ} {due : Duration} {rest : ShutdownProgram}
      {act : ShutdownAct} {next : Except Failure Unit → ShutdownProgram}
      {answer : Except Failure Unit} {after : σ} (underway : state.task i = some ⟨due, rest⟩)
      (ready : due ≤ state.now) (acts : Acts rest act next)
      (answers : conduct state.now act state.target answer after) :
      Step conduct grace schedule state
        ((state.act i act answer.isOk after).setTask i ⟨due, next answer⟩)
  | sleep {state : Listening σ} {i : ℕ} {due duration : Duration} {rest next : ShutdownProgram}
      (underway : state.task i = some ⟨due, rest⟩) (ready : due ≤ state.now)
      (sleeps : Sleeps rest duration next) :
      Step conduct grace schedule state (state.setTask i ⟨state.now + duration, next⟩)
  | pass {state : Listening σ} {later : Duration} (passes : state.now < later)
      (coming : ∀ i time signal, schedule[i]? = some (time, signal) → state.task i = none →
        later ≤ time)
      (underway : ∀ i due rest, state.task i = some ⟨due, rest⟩ → IsAsking rest → later ≤ due) :
      Step conduct grace schedule state { state with now := later }

@[simp]
theorem task_setTask_self {state : Listening σ} {i : ℕ} (task : ShutdownTask) :
    (state.setTask i task).task i = some task := by
  simp [setTask]

theorem task_setTask_of_ne {state : Listening σ} {i j : ℕ} (hne : j ≠ i) (task : ShutdownTask) :
    (state.setTask i task).task j = state.task j := by
  simp [setTask, hne]

/-- Whether a state can be reached by steps. -/
inductive Reaches (conduct : TargetConduct σ) (grace : Duration) (schedule : Schedule)
    (start : Listening σ) : Listening σ → Prop
  | start : Reaches conduct grace schedule start start
  | step {state after : Listening σ} (earlier : Reaches conduct grace schedule start state)
      (last : Step conduct grace schedule state after) : Reaches conduct grace schedule start after

theorem Reaches.trans {conduct : TargetConduct σ} {grace : Duration} {schedule : Schedule}
    {start middle state : Listening σ} (hearlier : Reaches conduct grace schedule start middle)
    (hlater : Reaches conduct grace schedule middle state) :
    Reaches conduct grace schedule start state := by
  induction hlater with
  | start => exact hearlier
  | step _ last ih => exact ih.step last

/-- Whether all signals were received and no task has anything left to do. -/
def IsOver (schedule : Schedule) (state : Listening σ) : Prop :=
  ∀ i < schedule.length, ∃ due rest, state.task i = some ⟨due, rest⟩ ∧ ¬ IsAsking rest

/-- Whether there is something left to do for a signal, and when. -/
inductive IsPending (schedule : Schedule) (state : Listening σ) (i : ℕ) : Duration → Prop
  | coming {time : Duration} {signal : ShutdownSignal}
      (scheduled : schedule[i]? = some (time, signal)) (unknown : state.task i = none) :
      IsPending schedule state i time
  | underway {due : Duration} {rest : ShutdownProgram} (task : state.task i = some ⟨due, rest⟩)
      (asking : IsAsking rest) : IsPending schedule state i due

/-! ## The acts of one signal -/

/-- What was done for one signal, in order. -/
def entriesOf (i : ℕ) (log : List Acted) : List ShutdownEntry :=
  (log.filter fun acted ↦ acted.source = i).map Acted.entry

theorem mem_entriesOf_iff {i : ℕ} {log : List Acted} {entry : ShutdownEntry} :
    entry ∈ entriesOf i log ↔ ⟨i, entry⟩ ∈ log := by
  simp only [entriesOf, List.mem_map, List.mem_filter, decide_eq_true_eq]
  constructor
  · rintro ⟨acted, ⟨hacted, rfl⟩, rfl⟩
    exact hacted
  · intro hacted
    exact ⟨_, ⟨hacted, rfl⟩, rfl⟩

theorem entriesOf_concat_self (i : ℕ) (log : List Acted) (entry : ShutdownEntry) :
    entriesOf i (log ++ [⟨i, entry⟩]) = entriesOf i log ++ [entry] := by
  simp [entriesOf]

theorem entriesOf_concat_of_ne {i j : ℕ} (hne : j ≠ i) (log : List Acted) (entry : ShutdownEntry) :
    entriesOf i (log ++ [⟨j, entry⟩]) = entriesOf i log := by
  simp [entriesOf, hne]

/-- What a signal that comes at a time leads to. -/
inductive Course (grace time : Duration) : ShutdownSignal → List ShutdownEntry → Prop
  | quit (killed : Bool) : Course grace time .quit [⟨time, .kill, killed⟩]
  | refused {signal : ShutdownSignal} (patient : signal ≠ .quit) (first : Bool) :
      Course grace time signal [⟨time, .press, first⟩, ⟨time + grace, .press, false⟩]
  | accepted {signal : ShutdownSignal} (patient : signal ≠ .quit) (first killed : Bool) :
      Course grace time signal [⟨time, .press, first⟩, ⟨time + grace, .press, true⟩,
        ⟨time + grace, .kill, killed⟩]

/-- How far a signal that comes at a time has led at another one: its task, and what was done. -/
inductive Stage (grace time : Duration) (signal : ShutdownSignal) :
    Duration → Option ShutdownTask → List ShutdownEntry → Prop
  | coming {now : Duration} (early : now ≤ time) : Stage grace time signal now none []
  | received : Stage grace time signal time (some ⟨time, handleSignal signal grace⟩) []
  | pressed (patient : signal ≠ .quit) (first : Bool) :
      Stage grace time signal time (some ⟨time, .ask (.sleep grace) fun _ ↦ secondPress⟩)
        [⟨time, .press, first⟩]
  | sleeping {now : Duration} (patient : signal ≠ .quit) (first : Bool)
      (early : now ≤ time + grace) :
      Stage grace time signal now (some ⟨time + grace, secondPress⟩) [⟨time, .press, first⟩]
  | ignored (patient : signal ≠ .quit) (first : Bool) :
      Stage grace time signal (time + grace) (some ⟨time + grace, .ask .kill .done⟩)
        [⟨time, .press, first⟩, ⟨time + grace, .press, true⟩]
  | finished {now due : Duration} {entries : List ShutdownEntry}
      (course : Course grace time signal entries) (result : Except Failure Unit) :
      Stage grace time signal now (some ⟨due, .done result⟩) entries

section Stages

variable {grace time now later due : Duration} {signal : ShutdownSignal}
  {task : Option ShutdownTask} {entries : List ShutdownEntry} {rest : ShutdownProgram}
  {act : ShutdownAct} {next : Except Failure Unit → ShutdownProgram}

/-- Receiving a signal begins its task at the time at which it comes. -/
theorem Stage.receive (hstage : Stage grace time signal now none entries) (hready : time ≤ now) :
    Stage grace time signal now (some ⟨now, handleSignal signal grace⟩) entries := by
  cases hstage with
  | coming early =>
    obtain rfl := le_antisymm early hready
    exact .received

/-- What is done next is the next act of the course, at its time. -/
theorem Stage.of_acts (hstage : Stage grace time signal now (some ⟨due, rest⟩) entries)
    (hready : due ≤ now) (hacts : Acts rest act next) (answer : Except Failure Unit) :
    Stage grace time signal now (some ⟨due, next answer⟩)
      (entries ++ [⟨now, act, answer.isOk⟩]) := by
  cases hstage with
  | received =>
    by_cases hquit : signal = .quit
    · subst hquit
      cases hacts
      exact .finished (.quit _) _
    · rw [handleSignal_of_ne_quit hquit] at hacts
      cases hacts
      exact .pressed hquit _
  | pressed => cases hacts
  | sleeping patient first early =>
    obtain rfl := le_antisymm early hready
    cases hacts
    cases answer with
    | ok => exact .ignored patient first
    | error failure => exact .finished (.refused patient first) _
  | ignored patient first =>
    cases hacts
    exact .finished (.accepted patient first _) _
  | finished => cases hacts

/-- A task that goes to sleep is ready again at the end of the grace period. -/
theorem Stage.of_sleeps {duration : Duration} {next : ShutdownProgram}
    (hstage : Stage grace time signal now (some ⟨due, rest⟩) entries)
    (hsleeps : Sleeps rest duration next) :
    Stage grace time signal now (some ⟨now + duration, next⟩) entries := by
  cases hstage with
  | received =>
    by_cases hquit : signal = .quit
    · subst hquit
      cases hsleeps
    · rw [handleSignal_of_ne_quit hquit] at hsleeps
      cases hsleeps
  | pressed patient first =>
    cases hsleeps
    exact .sleeping patient first (Duration.le_add _ _)
  | sleeping => cases hsleeps
  | ignored => cases hsleeps
  | finished => cases hsleeps

theorem isAsking_handleSignal : IsAsking (handleSignal signal grace) := by
  cases signal <;> trivial

/-- Time that does not pass over what is due leaves a signal where it is. -/
theorem Stage.of_pass (hstage : Stage grace time signal now task entries)
    (hpasses : now < later) (hcoming : task = none → later ≤ time)
    (hunderway : ∀ due rest, task = some ⟨due, rest⟩ → IsAsking rest → later ≤ due) :
    Stage grace time signal later task entries := by
  cases hstage with
  | coming => exact .coming (hcoming rfl)
  | received => exact absurd (hunderway _ _ rfl isAsking_handleSignal) hpasses.not_ge
  | pressed => exact absurd (hunderway _ _ rfl trivial) hpasses.not_ge
  | sleeping patient first => exact .sleeping patient first (hunderway _ _ rfl trivial)
  | ignored => exact absurd (hunderway _ _ rfl trivial) hpasses.not_ge
  | finished course result => exact .finished course result

/-- What was done so far is the beginning of a whole course. -/
theorem Stage.exists_course (hstage : Stage grace time signal now task entries) :
    ∃ whole, Course grace time signal whole ∧ entries <+: whole := by
  have hsome : ∃ whole, Course grace time signal whole := by
    by_cases hquit : signal = .quit
    · subst hquit
      exact ⟨_, .quit true⟩
    · exact ⟨_, .refused hquit true⟩
  cases hstage with
  | coming =>
    obtain ⟨whole, hwhole⟩ := hsome
    exact ⟨whole, hwhole, List.nil_prefix⟩
  | received =>
    obtain ⟨whole, hwhole⟩ := hsome
    exact ⟨whole, hwhole, List.nil_prefix⟩
  | pressed patient first => exact ⟨_, .refused patient first, List.prefix_append [_] _⟩
  | sleeping patient first => exact ⟨_, .refused patient first, List.prefix_append [_] _⟩
  | ignored patient first =>
    exact ⟨_, .accepted patient first true, List.prefix_append [_, _] [_]⟩
  | finished course => exact ⟨entries, course, List.prefix_rfl⟩

/-- The time of the last act that a signal leads to. -/
def deadline (grace : Duration) (arrival : Duration × ShutdownSignal) : Duration :=
  if arrival.2 = .quit then arrival.1 else arrival.1 + grace

theorem le_deadline (grace time : Duration) (signal : ShutdownSignal) :
    time ≤ deadline grace (time, signal) := by
  unfold deadline
  split
  · exact le_refl time
  · exact Duration.le_add time grace

theorem deadline_of_ne_quit (hsignal : signal ≠ .quit) :
    deadline grace (time, signal) = time + grace := if_neg hsignal

/-- After its deadline a signal has led to all of its course. -/
theorem Stage.course_of_late (hstage : Stage grace time signal now task entries)
    (hlate : deadline grace (time, signal) < now) : Course grace time signal entries := by
  have htime : time < now := lt_of_le_of_lt (le_deadline grace time signal) hlate
  cases hstage with
  | coming early => exact absurd htime early.not_gt
  | received => exact absurd htime (lt_irrefl _)
  | pressed => exact absurd htime (lt_irrefl _)
  | sleeping patient _ early =>
    rw [deadline_of_ne_quit patient] at hlate
    exact absurd hlate early.not_gt
  | ignored patient =>
    rw [deadline_of_ne_quit patient] at hlate
    exact absurd hlate (lt_irrefl _)
  | finished course => exact course

/-- A signal whose task has nothing left to do has led to all of its course. -/
theorem Stage.course_of_over (hstage : Stage grace time signal now (some ⟨due, rest⟩) entries)
    (hover : ¬ IsAsking rest) : Course grace time signal entries := by
  cases hstage with
  | received => exact absurd isAsking_handleSignal hover
  | pressed => exact absurd trivial hover
  | sleeping => exact absurd trivial hover
  | ignored => exact absurd trivial hover
  | finished course => exact course

end Stages

/-! ## All signals -/

section Runs

variable {conduct : TargetConduct σ} {grace time : Duration} {schedule : Schedule}
  {start state after : Listening σ} {signal : ShutdownSignal} {i : ℕ}

/-- Whether each signal of a schedule has led as far as it should, and nothing else was done. -/
structure IsOnTime (grace : Duration) (schedule : Schedule) (state : Listening σ) : Prop where
  stage : ∀ i time signal, schedule[i]? = some (time, signal) →
    Stage grace time signal state.now (state.task i) (entriesOf i state.log)
  unscheduled : ∀ i, schedule[i]? = none → state.task i = none
  sources : ∀ acted ∈ state.log, acted.source < schedule.length

theorem isOnTime_initial (target : σ) : IsOnTime grace schedule (initial target) where
  stage _ _ _ _ := .coming (Nat.zero_le _)
  unscheduled _ _ := rfl
  sources := nofun

/-- The task of one signal goes on, and the others stay as they are. -/
theorem IsOnTime.update {task : ShutdownTask} (honTime : IsOnTime grace schedule state)
    (hscheduled : schedule[i]? = some (time, signal)) (hnow : after.now = state.now)
    (htask : after.task = Function.update state.task i (some task))
    (hothers : ∀ j, j ≠ i → entriesOf j after.log = entriesOf j state.log)
    (hsources : ∀ acted ∈ after.log, acted.source < schedule.length)
    (hstage : Stage grace time signal state.now (some task) (entriesOf i after.log)) :
    IsOnTime grace schedule after where
  stage j otherTime otherSignal hj := by
    rw [hnow, htask]
    by_cases hne : j = i
    · subst hne
      rw [Function.update_self]
      obtain ⟨rfl, rfl⟩ := Prod.mk.inj (Option.some.inj (hscheduled.symm.trans hj))
      exact hstage
    · rw [Function.update_of_ne hne, hothers j hne]
      exact honTime.stage j otherTime otherSignal hj
  unscheduled j hj := by
    have hne : j ≠ i := by
      rintro rfl
      rw [hscheduled] at hj
      cases hj
    rw [htask, Function.update_of_ne hne]
    exact honTime.unscheduled j hj
  sources := hsources

/-- Only signals of the schedule have tasks. -/
theorem IsOnTime.exists_scheduled (honTime : IsOnTime grace schedule state) {task : ShutdownTask}
    (htask : state.task i = some task) : ∃ time signal, schedule[i]? = some (time, signal) := by
  cases hscheduled : schedule[i]? with
  | none =>
    rw [honTime.unscheduled i hscheduled] at htask
    cases htask
  | some arrival => exact ⟨arrival.1, arrival.2, rfl⟩

/-- Time can pass over nothing that is left to do. -/
theorem IsOnTime.reaches_pass {later : Duration} (honTime : IsOnTime grace schedule state)
    (hpasses : state.now ≤ later)
    (hdue : ∀ i < schedule.length, ∀ due, IsPending schedule state i due → later ≤ due) :
    Reaches conduct grace schedule state { state with now := later } := by
  obtain hsame | hbefore := eq_or_lt_of_le hpasses
  · exact hsame ▸ .start
  · refine Reaches.start.step (.pass hbefore ?_ ?_)
    · intro i time signal hscheduled hunknown
      obtain ⟨hi, -⟩ := List.getElem?_eq_some_iff.1 hscheduled
      exact hdue i hi time (.coming hscheduled hunknown)
    · intro i due rest htask hasking
      obtain ⟨time, signal, hscheduled⟩ := honTime.exists_scheduled htask
      obtain ⟨hi, -⟩ := List.getElem?_eq_some_iff.1 hscheduled
      exact hdue i hi due (.underway htask hasking)

theorem IsOnTime.step (honTime : IsOnTime grace schedule state)
    (hstep : Step conduct grace schedule state after) : IsOnTime grace schedule after := by
  cases hstep with
  | receive scheduled unknown ready =>
    have hstage := honTime.stage _ _ _ scheduled
    rw [unknown] at hstage
    exact honTime.update scheduled rfl rfl (fun _ _ ↦ rfl) honTime.sources (hstage.receive ready)
  | @act i _ _ _ _ answer _ underway ready acts answers =>
    obtain ⟨time, signal, hscheduled⟩ := honTime.exists_scheduled underway
    have hstage := honTime.stage i time signal hscheduled
    rw [underway] at hstage
    refine honTime.update hscheduled rfl rfl (fun j hne ↦ entriesOf_concat_of_ne hne.symm _ _) ?_ ?_
    · obtain ⟨hbound, -⟩ := List.getElem?_eq_some_iff.1 hscheduled
      exact List.forall_mem_append.2 ⟨honTime.sources, List.forall_mem_singleton.2 hbound⟩
    · have hacted := hstage.of_acts ready acts answer
      rwa [← entriesOf_concat_self] at hacted
  | @sleep i _ _ _ _ underway ready sleeps =>
    obtain ⟨time, signal, hscheduled⟩ := honTime.exists_scheduled underway
    have hstage := honTime.stage i time signal hscheduled
    rw [underway] at hstage
    exact honTime.update hscheduled rfl rfl (fun _ _ ↦ rfl) honTime.sources
      (hstage.of_sleeps sleeps)
  | pass passes coming underway =>
    refine ⟨fun i time signal hscheduled ↦ ?_, honTime.unscheduled, honTime.sources⟩
    exact (honTime.stage i time signal hscheduled).of_pass passes (coming i time signal hscheduled)
      (underway i)

theorem IsOnTime.reaches (honTime : IsOnTime grace schedule start)
    (hreaches : Reaches conduct grace schedule start state) : IsOnTime grace schedule state := by
  induction hreaches with
  | start => exact honTime
  | step _ last ih => exact ih.step last

/-- Every signal leads as far as it should, whatever the target and the other tasks do. -/
theorem isOnTime_of_reaches {target : σ}
    (hreaches : Reaches conduct grace schedule (initial target) state) :
    IsOnTime grace schedule state :=
  (isOnTime_initial target).reaches hreaches

end Runs

end Listening

end MicroVm.Hypervisor

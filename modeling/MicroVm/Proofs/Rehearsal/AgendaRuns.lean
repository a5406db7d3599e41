import Mathlib.Algebra.GroupWithZero.Nat
import Mathlib.Data.List.Induction
import Mathlib.Data.List.Perm.Basic
import MicroVm.Proofs.Hypervisor.SignalListener

/-!
# Agendas as listeners

An agenda runs the tasks of a listener in one order: the earliest first, and those of one time in
the order in which they were put there. So what signals do to a target by an agenda is what they do
in one of the executions of a listener, which ends when the agenda is empty.
-/

namespace MicroVm.Rehearsal

open MicroVm.Hypervisor MicroVm.Hypervisor.Listening

variable {σ : Type}

/-- A target as it behaves. -/
def ShutdownTarget.conduct (target : ShutdownTarget σ) : TargetConduct σ
  | time, .press, state, answer, after => (answer, after) = target.press time state
  | time, .kill, state, answer, after => (answer, after) = target.kill time state

namespace Agenda

/-! ## How long programs last -/

/-- Whether a program ends after a number of turns, whatever it is answered. -/
inductive Lasts : ℕ → ShutdownProgram → Prop
  | done (turns : ℕ) (result : Except Failure Unit) : Lasts (turns + 1) (.done result)
  | press {turns : ℕ} {next : Except Failure Unit → ShutdownProgram}
      (later : ∀ answer, Lasts turns (next answer)) : Lasts turns (.ask .pressButton next)
  | kill {turns : ℕ} {next : Except Failure Unit → ShutdownProgram}
      (later : ∀ answer, Lasts turns (next answer)) : Lasts turns (.ask .kill next)
  | sleep {turns : ℕ} (duration : Duration) {next : Unit → ShutdownProgram}
      (later : Lasts turns (next ())) : Lasts (turns + 1) (.ask (.sleep duration) next)

theorem lasts_secondPress : Lasts 1 secondPress := by
  refine .press fun answer ↦ ?_
  cases answer with
  | ok => exact .kill fun answer ↦ .done 0 answer
  | error => exact .done 0 _

/-- The program of a signal ends within its turns. -/
theorem lasts_handleSignal (signal : ShutdownSignal) (grace : Duration) :
    Lasts turnsOfSignal (handleSignal signal grace) := by
  by_cases hquit : signal = .quit
  · subst hquit
    exact .kill fun answer ↦ .done 1 answer
  · rw [handleSignal_of_ne_quit hquit]
    exact .press fun _ ↦ .sleep grace lasts_secondPress

/-! ## One turn -/

section Turns

variable {target : ShutdownTarget σ} {grace : Duration} {schedule : Schedule}
  {start state : Listening σ} {i : ℕ} {due : Duration} {program : ShutdownProgram} {turns : ℕ}

/-- Whether a state is followed by another one in which a task has had its turn. -/
structure TakesTurn (target : ShutdownTarget σ) (grace : Duration) (schedule : Schedule)
    (start state : Listening σ) (i : ℕ) (turns : ℕ)
    (outcome : Option (Duration × ShutdownProgram) × σ) (after : Listening σ) : Prop where
  reaches : Reaches target.conduct grace schedule start after
  now : after.now = state.now
  target : after.target = outcome.2
  others : ∀ j, j ≠ i → after.task j = state.task j
  rest : ∃ due rest, after.task i = some ⟨due, rest⟩ ∧
    (outcome.1 = none ∧ ¬ IsAsking rest ∨
      outcome.1 = some (due, rest) ∧ state.now ≤ due ∧ ∃ left, turns = left + 1 ∧ Lasts left rest)

/-- A turn may begin with a step of its task. -/
theorem TakesTurn.begin {middle after : Listening σ}
    {outcome : Option (Duration × ShutdownProgram) × σ}
    (hturn : TakesTurn target grace schedule start middle i turns outcome after)
    (hnow : middle.now = state.now) (hothers : ∀ j, j ≠ i → middle.task j = state.task j) :
    TakesTurn target grace schedule start state i turns outcome after where
  reaches := hturn.reaches
  now := hturn.now.trans hnow
  target := hturn.target
  others j hne := (hturn.others j hne).trans (hothers j hne)
  rest := hnow ▸ hturn.rest

theorem exists_takesTurn (hreaches : Reaches target.conduct grace schedule start state)
    (htask : state.task i = some ⟨due, program⟩) (hready : due ≤ state.now)
    (hlasts : Lasts turns program) :
    ∃ after, TakesTurn target grace schedule start state i turns
      (advance target state.now program state.target) after := by
  induction hlasts generalizing state with
  | done turns result =>
    exact ⟨state, hreaches, rfl, rfl, fun _ _ ↦ rfl, due, _, htask, .inl ⟨rfl, id⟩⟩
  | press _ ih =>
    have hlater := hreaches.step (.act htask hready (.press _) rfl)
    obtain ⟨after, hturn⟩ := ih _ hlater (task_setTask_self _) hready
    exact ⟨after, hturn.begin rfl fun j hne ↦ task_setTask_of_ne hne _⟩
  | kill _ ih =>
    have hlater := hreaches.step (.act htask hready (.kill _) rfl)
    obtain ⟨after, hturn⟩ := ih _ hlater (task_setTask_self _) hready
    exact ⟨after, hturn.begin rfl fun j hne ↦ task_setTask_of_ne hne _⟩
  | sleep duration hlater =>
    exact ⟨_, hreaches.step (.sleep htask hready (.sleep duration _)), rfl, rfl,
      fun j hne ↦ task_setTask_of_ne hne _, _, _, task_setTask_self _,
      .inr ⟨rfl, Duration.le_add _ _, _, rfl, hlater⟩⟩

end Turns

/-! ## Whole agendas -/

/-- An agenda with what its first program leaves, if it leaves anything. -/
def putBack : Option (Duration × ShutdownProgram) → Agenda → Agenda
  | none, agenda => agenda
  | some (time, program), agenda => insert time program agenda

/-- The first program of an agenda goes on until it sleeps. -/
theorem run_cons (target : ShutdownTarget σ) (turns : ℕ) (time : Duration)
    (program : ShutdownProgram) (agenda : Agenda) (state : σ) :
    run target (fun _ ↦ false) (turns + 1) ((time, program) :: agenda) state =
      run target (fun _ ↦ false) turns (putBack (advance target time program state).1 agenda)
        (advance target time program state).2 := by
  simp only [run]
  obtain ⟨_ | ⟨due, rest⟩, later⟩ := advance target time program state
  · rfl
  · rfl

/-- An entry of an agenda, with the signal that it is for and the number of turns it lasts. -/
structure Row where
  source : ℕ
  time : Duration
  program : ShutdownProgram
  turns : ℕ

/-- The entry of a row. -/
def Row.entry (row : Row) : Duration × ShutdownProgram := (row.time, row.program)

/-- Puts a row at its time, after those that are there for the same time. -/
def insertRow (row : Row) : List Row → List Row
  | [] => [row]
  | other :: rows =>
    if row.time < other.time then row :: other :: rows else other :: insertRow row rows

section Rows

variable {row : Row} {rows : List Row}

theorem map_insertRow :
    (insertRow row rows).map Row.entry = insert row.time row.program (rows.map Row.entry) := by
  induction rows with
  | nil => rfl
  | cons other rows ih =>
    have hwhole : insert row.time row.program ((other :: rows).map Row.entry) =
        if row.time < other.time then row.entry :: other.entry :: rows.map Row.entry
        else other.entry :: insert row.time row.program (rows.map Row.entry) := rfl
    rw [insertRow, hwhole]
    split
    · rfl
    · rw [List.map_cons, ih]

/-- Inserting a row adds it to those that are there. -/
theorem perm_insertRow : (insertRow row rows).Perm (row :: rows) := by
  induction rows with
  | nil => exact .refl _
  | cons other rows ih =>
    rw [insertRow]
    split
    · exact .refl _
    · exact (ih.cons other).trans (.swap row other rows)

/-- The rows stay in the order of their times. -/
theorem sorted_insertRow (hsorted : rows.Pairwise fun earlier later ↦ earlier.time ≤ later.time) :
    (insertRow row rows).Pairwise fun earlier later ↦ earlier.time ≤ later.time := by
  induction rows with
  | nil => exact List.pairwise_singleton _ row
  | cons other rows ih =>
    obtain ⟨hother, hrows⟩ := List.pairwise_cons.1 hsorted
    rw [insertRow]
    split
    · next hbefore =>
      refine .cons (fun later hlater ↦ ?_) hsorted
      obtain rfl | hlater := List.mem_cons.1 hlater
      · exact le_of_lt hbefore
      · exact le_trans (le_of_lt hbefore) (hother later hlater)
    · next hafter =>
      refine .cons (fun later hlater ↦ ?_) (ih hrows)
      obtain rfl | hlater := List.mem_cons.1 (perm_insertRow.mem_iff.1 hlater)
      · exact not_lt.1 hafter
      · exact hother later hlater

end Rows

/-- Whether a signal has a row for all that is left to do for it. -/
inductive Row.Waits (grace : Duration) (schedule : Schedule) (state : Listening σ)
    (row : Row) : Prop
  | coming {signal : ShutdownSignal} (unknown : state.task row.source = none)
      (scheduled : schedule[row.source]? = some (row.time, signal))
      (program : row.program = handleSignal signal grace)
  | sleeping (task : state.task row.source = some ⟨row.time, row.program⟩)

/-- Whether rows hold all that is left to do, and no more than a number of turns. -/
structure IsPlan (grace : Duration) (schedule : Schedule) (state : Listening σ) (rows : List Row)
    (turns : ℕ) : Prop where
  nodup : (rows.map Row.source).Nodup
  later : ∀ row ∈ rows, state.now ≤ row.time
  waits : ∀ row ∈ rows, row.Waits grace schedule state
  lasts : ∀ row ∈ rows, Lasts row.turns row.program
  turns_le : (rows.map Row.turns).sum ≤ turns
  others : ∀ i < schedule.length, i ∉ rows.map Row.source →
    ∃ due rest, state.task i = some ⟨due, rest⟩ ∧ ¬ IsAsking rest

theorem Lasts.pos {turns : ℕ} {program : ShutdownProgram} (hlasts : Lasts turns program) :
    0 < turns := by
  induction hlasts with
  | done turns => exact Nat.succ_pos turns
  | press _ ih => exact ih (.ok ())
  | kill _ ih => exact ih (.ok ())
  | sleep => exact Nat.succ_pos _

section Plans

variable {target : ShutdownTarget σ} {grace : Duration} {schedule : Schedule} {first : σ}
  {state after : Listening σ} {rows : List Row} {row : Row} {turns : ℕ}

theorem IsPlan.perm {others : List Row} (hplan : IsPlan grace schedule state rows turns)
    (hperm : others.Perm rows) : IsPlan grace schedule state others turns where
  nodup := (hperm.map Row.source).nodup_iff.2 hplan.nodup
  later row hrow := hplan.later row (hperm.mem_iff.1 hrow)
  waits row hrow := hplan.waits row (hperm.mem_iff.1 hrow)
  lasts row hrow := hplan.lasts row (hperm.mem_iff.1 hrow)
  turns_le := (hperm.map Row.turns).sum_nat ▸ hplan.turns_le
  others i hi hnot := hplan.others i hi fun hmem ↦ hnot ((hperm.map Row.source).mem_iff.2 hmem)

/-- What is left to do has a row at its time. -/
theorem IsPlan.exists_row (hplan : IsPlan grace schedule state rows turns) {i : ℕ} {due : Duration}
    (hi : i < schedule.length) (hpending : IsPending schedule state i due) :
    ∃ row ∈ rows, row.time = due := by
  have hmem : i ∈ rows.map Row.source := by
    by_contra hnot
    obtain ⟨due, rest, htask, hrest⟩ := hplan.others i hi hnot
    cases hpending with
    | coming _ unknown =>
      rw [unknown] at htask
      cases htask
    | underway task asking =>
      rw [task] at htask
      cases htask
      exact hrest asking
  obtain ⟨row, hrow, rfl⟩ := List.mem_map.1 hmem
  refine ⟨row, hrow, ?_⟩
  cases hplan.waits row hrow with
  | coming unknown scheduled =>
    cases hpending with
    | coming other => exact congrArg Prod.fst (Option.some.inj (scheduled.symm.trans other))
    | underway task =>
      rw [unknown] at task
      cases task
  | sleeping task =>
    cases hpending with
    | coming _ unknown =>
      rw [task] at unknown
      cases unknown
    | underway other =>
      rw [task] at other
      cases other
      rfl

/-- Time can pass to the first row. -/
theorem IsPlan.exists_pass (hplan : IsPlan grace schedule state (row :: rows) turns)
    (hsorted : ∀ later ∈ rows, row.time ≤ later.time)
    (hreaches : Reaches target.conduct grace schedule (initial first) state) :
    Reaches target.conduct grace schedule (initial first) { state with now := row.time } := by
  have honTime := isOnTime_of_reaches hreaches
  have hnow := hplan.later row List.mem_cons_self
  have hfirst : ∀ other ∈ row :: rows, row.time ≤ other.time :=
    List.forall_mem_cons.2 ⟨le_refl row.time, hsorted⟩
  refine hreaches.trans (honTime.reaches_pass hnow fun i hi due hpending ↦ ?_)
  obtain ⟨other, hother, rfl⟩ := hplan.exists_row hi hpending
  exact hfirst other hother

/-- The task of a row can have its turn when its time has come. -/
theorem Row.Waits.exists_received (hwaits : row.Waits grace schedule state)
    (hnow : state.now = row.time)
    (hreaches : Reaches target.conduct grace schedule (initial first) state) :
    ∃ after, Reaches target.conduct grace schedule (initial first) after ∧
      after.now = state.now ∧ after.target = state.target ∧
      (∀ j, j ≠ row.source → after.task j = state.task j) ∧
      after.task row.source = some ⟨row.time, row.program⟩ := by
  cases hwaits with
  | coming unknown scheduled program =>
    refine ⟨_, hreaches.step (.receive scheduled unknown hnow.ge), rfl, rfl,
      fun j hne ↦ task_setTask_of_ne hne _, ?_⟩
    rw [task_setTask_self, hnow, program]
  | sleeping task => exact ⟨state, hreaches, rfl, rfl, fun _ _ ↦ rfl, task⟩

/-- The rows after the first one are left as they are by its turn. -/
theorem IsPlan.rest (hplan : IsPlan grace schedule state (row :: rows) turns)
    (hsorted : ∀ later ∈ rows, row.time ≤ later.time) (hnow : after.now = row.time)
    (hothers : ∀ j, j ≠ row.source → after.task j = state.task j) :
    (∀ other ∈ rows, after.now ≤ other.time) ∧
      (∀ other ∈ rows, other.Waits grace schedule after) ∧
      ∀ i < schedule.length, i ≠ row.source → i ∉ rows.map Row.source →
        ∃ due rest, after.task i = some ⟨due, rest⟩ ∧ ¬ IsAsking rest := by
  obtain ⟨hfresh, -⟩ := List.nodup_cons.1 hplan.nodup
  refine ⟨fun other hother ↦ hnow.trans_le (hsorted other hother), fun other hother ↦ ?_, ?_⟩
  · have hne : other.source ≠ row.source := fun hsame ↦
      hfresh (hsame ▸ List.mem_map_of_mem hother)
    cases hplan.waits other (List.mem_cons_of_mem row hother) with
    | coming unknown scheduled program =>
      exact .coming ((hothers _ hne).trans unknown) scheduled program
    | sleeping task => exact .sleeping ((hothers _ hne).trans task)
  · intro i hi hne hnot
    rw [hothers i hne]
    exact hplan.others i hi fun hmem ↦ (List.mem_cons.1 hmem).elim hne hnot

/-- If the first row has nothing left after its turn, the others are a plan for what is left. -/
theorem IsPlan.of_ended (hplan : IsPlan grace schedule state (row :: rows) (turns + 1))
    (hsorted : ∀ later ∈ rows, row.time ≤ later.time) (hnow : after.now = row.time)
    (hothers : ∀ j, j ≠ row.source → after.task j = state.task j) {due : Duration}
    {rest : ShutdownProgram} (htask : after.task row.source = some ⟨due, rest⟩)
    (hrest : ¬ IsAsking rest) : IsPlan grace schedule after rows turns := by
  obtain ⟨hlater, hwaits, hothersRest⟩ := hplan.rest hsorted hnow hothers
  obtain ⟨hlasts, hlastsRest⟩ := List.forall_mem_cons.1 hplan.lasts
  have hturns := hplan.turns_le
  rw [List.map_cons, List.sum_cons] at hturns
  refine ⟨(List.nodup_cons.1 hplan.nodup).2, hlater, hwaits, hlastsRest, ?_, fun i hi hnot ↦ ?_⟩
  · have hpos := hlasts.pos
    omega
  · by_cases hne : i = row.source
    · exact ⟨due, rest, hne ▸ htask, hrest⟩
    · exact hothersRest i hi hne hnot

/-- If the first row sleeps after its turn, what is left of it takes its place in the plan. -/
theorem IsPlan.of_left (hplan : IsPlan grace schedule state (row :: rows) (turns + 1))
    (hsorted : ∀ later ∈ rows, row.time ≤ later.time) (hnow : after.now = row.time)
    (hothers : ∀ j, j ≠ row.source → after.task j = state.task j) {due : Duration}
    {rest : ShutdownProgram} {left : ℕ} (htask : after.task row.source = some ⟨due, rest⟩)
    (hdue : row.time ≤ due) (hleft : row.turns = left + 1) (hlasts : Lasts left rest) :
    IsPlan grace schedule after (⟨row.source, due, rest, left⟩ :: rows) turns := by
  obtain ⟨hlater, hwaits, hothersRest⟩ := hplan.rest hsorted hnow hothers
  have hturns := hplan.turns_le
  rw [List.map_cons, List.sum_cons, hleft] at hturns
  refine ⟨hplan.nodup, ?_, ?_, ?_, ?_, fun i hi hnot ↦ ?_⟩
  · exact List.forall_mem_cons.2 ⟨hnow.trans_le hdue, hlater⟩
  · exact List.forall_mem_cons.2 ⟨.sleeping htask, hwaits⟩
  · exact List.forall_mem_cons.2 ⟨hlasts, (List.forall_mem_cons.1 hplan.lasts).2⟩
  · rw [List.map_cons, List.sum_cons]
    change left + (rows.map Row.turns).sum ≤ turns
    omega
  · obtain ⟨hne, hnot⟩ := not_or.1 (mt List.mem_cons.2 hnot)
    exact hothersRest i hi hne hnot

/-- The turn of the first row leaves a plan for the rest of the agenda. -/
theorem IsPlan.exists_turn (hplan : IsPlan grace schedule state (row :: rows) (turns + 1))
    (hsorted : (row :: rows).Pairwise fun earlier later ↦ earlier.time ≤ later.time)
    (hreaches : Reaches target.conduct grace schedule (initial first) state) :
    ∃ after left, Reaches target.conduct grace schedule (initial first) after ∧
      after.target = (advance target row.time row.program state.target).2 ∧
      IsPlan grace schedule after left turns ∧
      left.Pairwise (fun earlier later ↦ earlier.time ≤ later.time) ∧
      left.map Row.entry =
        putBack (advance target row.time row.program state.target).1 (rows.map Row.entry) := by
  obtain ⟨hfirst, hrows⟩ := List.pairwise_cons.1 hsorted
  have hwaits : row.Waits grace schedule { state with now := row.time } := by
    cases hplan.waits row List.mem_cons_self with
    | coming unknown scheduled program => exact .coming unknown scheduled program
    | sleeping task => exact .sleeping task
  obtain ⟨ready, hready, hreadyNow, hreadyTarget, hreadyOthers, hreadyTask⟩ :=
    hwaits.exists_received rfl (hplan.exists_pass hfirst hreaches)
  obtain ⟨after, hafter⟩ :=
    exists_takesTurn hready hreadyTask hreadyNow.ge (hplan.lasts row List.mem_cons_self)
  rw [hreadyNow, hreadyTarget] at hafter
  have hnow : after.now = row.time := hafter.now.trans hreadyNow
  have hothers (j : ℕ) (hne : j ≠ row.source) : after.task j = state.task j :=
    (hafter.others j hne).trans (hreadyOthers j hne)
  obtain ⟨due, rest, htask, ⟨hnone, hrest⟩ | ⟨hsome, hdue, left, hleft, hlasts⟩⟩ := hafter.rest
  · refine ⟨after, rows, hafter.reaches, hafter.target, ?_, hrows, ?_⟩
    · exact hplan.of_ended hfirst hnow hothers htask hrest
    · rw [hnone, putBack]
  · refine ⟨after, insertRow ⟨row.source, due, rest, left⟩ rows, hafter.reaches, hafter.target, ?_,
      sorted_insertRow hrows, ?_⟩
    · have hdueLater : row.time ≤ due := hreadyNow.symm.trans_le hdue
      have hleftPlan := hplan.of_left hfirst hnow hothers htask hdueLater hleft hlasts
      exact hleftPlan.perm perm_insertRow
    · rw [hsome, map_insertRow, putBack]

/-- What an agenda does to a target is what a listener does in one of its executions. -/
theorem run_reaches (hplan : IsPlan grace schedule state rows turns)
    (hsorted : rows.Pairwise fun earlier later ↦ earlier.time ≤ later.time)
    (hreaches : Reaches target.conduct grace schedule (initial first) state) :
    ∃ after, Reaches target.conduct grace schedule (initial first) after ∧
      IsOver schedule after ∧
      after.target = run target (fun _ ↦ false) turns (rows.map Row.entry) state.target := by
  induction turns generalizing rows state with
  | zero =>
    cases rows with
    | nil => exact ⟨state, hreaches, fun i hi ↦ hplan.others i hi List.not_mem_nil, rfl⟩
    | cons row rows =>
      have hpos := (hplan.lasts row List.mem_cons_self).pos
      have hnone := hplan.turns_le
      rw [List.map_cons, List.sum_cons] at hnone
      omega
  | succ turns ih =>
    cases rows with
    | nil => exact ⟨state, hreaches, fun i hi ↦ hplan.others i hi List.not_mem_nil, rfl⟩
    | cons row rows =>
      obtain ⟨middle, left, hmiddle, htarget, hleft, hsortedLeft, hentries⟩ :=
        hplan.exists_turn hsorted hreaches
      obtain ⟨after, hafter, hover, hresult⟩ := ih hleft hsortedLeft hmiddle
      refine ⟨after, hafter, hover, ?_⟩
      rw [hresult, htarget, hentries, List.map_cons, Row.entry, run_cons]

end Plans

/-! ## The agenda of a schedule -/

/-- The row of a signal before it comes. -/
def rowOfSignal (grace : Duration) (arrival : Duration × ShutdownSignal) (i : ℕ) : Row :=
  ⟨i, arrival.1, handleSignal arrival.2 grace, turnsOfSignal⟩

theorem exists_rows (grace : Duration) (schedule : Schedule) :
    ∃ rows : List Row, rows.map Row.entry = ofSignals grace schedule ∧
      rows.Perm (schedule.mapIdx fun i arrival ↦ rowOfSignal grace arrival i) ∧
      rows.Pairwise fun earlier later ↦ earlier.time ≤ later.time := by
  induction schedule using List.reverseRecOn with
  | nil => exact ⟨[], rfl, .refl [], .nil⟩
  | append_singleton schedule arrival ih =>
    obtain ⟨rows, hentries, hperm, hsorted⟩ := ih
    refine ⟨insertRow (rowOfSignal grace arrival schedule.length) rows, ?_, ?_,
      sorted_insertRow hsorted⟩
    · rw [map_insertRow, hentries, ofSignals, ofSignals, List.foldl_append]
      rfl
    · rw [List.mapIdx_concat]
      exact perm_insertRow.trans ((hperm.cons _).trans (List.perm_append_singleton _ _).symm)

theorem isPlan_initial (grace : Duration) (schedule : Schedule) (first : σ) :
    IsPlan grace schedule (initial first)
      (schedule.mapIdx fun i arrival ↦ rowOfSignal grace arrival i)
      (turnsOfSignal * schedule.length) := by
  have hsources : (schedule.mapIdx fun i arrival ↦ rowOfSignal grace arrival i).map Row.source =
      List.range schedule.length :=
    List.ext_getElem (by simp) (by simp [rowOfSignal])
  have hturns : (schedule.mapIdx fun i arrival ↦ rowOfSignal grace arrival i).map Row.turns =
      List.replicate schedule.length turnsOfSignal :=
    List.ext_getElem (by simp) (by simp [rowOfSignal])
  refine ⟨?_, fun row _ ↦ Nat.zero_le _, fun row hrow ↦ ?_, fun row hrow ↦ ?_, ?_, ?_⟩
  · rw [hsources]
    exact List.nodup_range
  · obtain ⟨i, hi, rfl⟩ := List.mem_mapIdx.1 hrow
    exact .coming rfl (List.getElem?_eq_getElem hi) rfl
  · obtain ⟨i, hi, rfl⟩ := List.mem_mapIdx.1 hrow
    exact lasts_handleSignal _ grace
  · refine Nat.le_of_eq ?_
    rw [hturns, List.sum_replicate_nat, Nat.mul_comm]
  · intro i hi hnot
    rw [hsources] at hnot
    exact absurd (List.mem_range.2 hi) hnot

/-- What the agenda of a schedule does to a target is what a listener does in one of its
executions, and nothing is left to do after it. -/
theorem runSignals_reaches (target : ShutdownTarget σ) (grace : Duration) (schedule : Schedule)
    (first : σ) : ∃ after, Reaches target.conduct grace schedule (initial first) after ∧
      IsOver schedule after ∧
      after.target = runSignals target (fun _ ↦ false) grace schedule first := by
  obtain ⟨rows, hentries, hperm, hsorted⟩ := exists_rows grace schedule
  have hplan := (isPlan_initial grace schedule first).perm hperm
  have hstart : Reaches target.conduct grace schedule (initial first) (initial first) := .start
  obtain ⟨after, hreaches, hover, htarget⟩ := run_reaches hplan hsorted hstart
  rw [hentries] at htarget
  exact ⟨after, hreaches, hover, htarget⟩

end Agenda

end MicroVm.Rehearsal

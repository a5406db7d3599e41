import MicroVm.Proofs.Run.HostAccess
import MicroVm.Proofs.Storage.Deactivation

/-!
# Runs of the teardown

Each step of a teardown is done once and in its turn, whatever became of the steps before it. The
report names the steps that failed, in the order of the steps.
-/

namespace MicroVm.Run

open MicroVm.Host MicroVm.Machine MicroVm.Network MicroVm.Storage

/-- The steps with what became of them. -/
abbrev StepOutcomes := List (TeardownStep × Except Failure Unit)

namespace TeardownReport

/-- The report with the results of more steps. -/
def addAll (report : TeardownReport) (outcomes : StepOutcomes) : TeardownReport :=
  outcomes.foldl (fun report outcome ↦ report.add outcome.1 outcome.2) report

/-- The failure of a step that failed. -/
def failure? (outcome : TeardownStep × Except Failure Unit) : Option (TeardownStep × Failure) :=
  match outcome.2 with
  | .ok () => none
  | .error failure => some (outcome.1, failure)

variable (report : TeardownReport) (outcomes : StepOutcomes)

theorem failed_addAll :
    (report.addAll outcomes).failed = report.failed ++ outcomes.filterMap failure? := by
  induction outcomes generalizing report with
  | nil => exact (List.append_nil _).symm
  | cons outcome outcomes ih =>
    obtain ⟨step, failure | value⟩ := outcome
    · change ((report.add step (.error failure)).addAll outcomes).failed = _
      rw [ih]
      exact List.append_assoc _ _ _
    · change ((report.add step (.ok value)).addAll outcomes).failed = _
      rw [ih]
      rfl

/-- The result of a report is a failure that lists the steps that failed, if there are any. -/
theorem result_addAll_empty : (empty.addAll outcomes).result =
    if (outcomes.filterMap failure?).isEmpty then .ok ()
    else .error (.cause (.teardownIncomplete
      ((outcomes.filterMap failure?).map fun failed ↦ (failed.1, failed.2.message)))) := by
  unfold result
  rw [failed_addAll]
  rfl

end TeardownReport

/-- A history in which steps were done one after the other, from a record to another one. -/
inductive StepsDone (chain : Chain) :
    Record → List TeardownStep → History Surroundings → StepOutcomes → Record → Prop
  | nil (record : Record) : StepsDone chain record [] [] [] record
  | cons {record after : Record} {step : TeardownStep} {steps : List TeardownStep}
      {history rest : History Surroundings} {outcome : Except Failure Unit}
      {outcomes : StepOutcomes}
      (first : (step.effect chain (step.update record)).attempt.IsRun history (some outcome))
      (others : StepsDone chain (step.update record) steps rest outcomes after) :
      StepsDone chain record (step :: steps) (history ++ rest) ((step, outcome) :: outcomes) after

variable {chain : Chain} {record after : Record} {step : TeardownStep} {steps : List TeardownStep}
  {history : History Surroundings} {outcomes : StepOutcomes}

theorem effect_not_halts : ¬ (step.effect chain record).attempt.IsRun history none := by
  intro hrun
  cases step with
  | clearPorts => cases hrun
  | clearAddresses => cases hrun
  | releaseStorage =>
    obtain ⟨asked, -, hasked⟩ := Surroundings.isRun_onDevices_iff.1 hrun
    exact chain.deactivate_not_halts hasked
  | persist =>
    obtain ⟨_, -, hnone⟩ := Program.isRun_perform_iff.1 hrun
    cases hnone

/-- The runs of a teardown do all the steps. -/
theorem isRun_tearDownFrom_iff {report : TeardownReport}
    {result : Option (TeardownReport × Record)} :
    (tearDownFrom chain report record steps).IsRun history result ↔
      ∃ outcomes after, StepsDone chain record steps history outcomes after ∧
        result = some (report.addAll outcomes, after) := by
  induction steps generalizing report record history with
  | nil =>
    constructor
    · intro hrun
      obtain ⟨rfl, rfl⟩ := Program.isRun_done_iff.1 hrun
      exact ⟨[], record, .nil record, rfl⟩
    · rintro ⟨outcomes, after, hdone, rfl⟩
      cases hdone
      exact .done _
  | cons step steps ih =>
    constructor
    · intro hrun
      obtain ⟨outcome, before, rest, rfl, hfirst, hrest⟩ | ⟨hcrash, -⟩ :=
        Program.isRun_bind_iff.1 hrun
      · obtain ⟨outcomes, after, hdone, rfl⟩ := ih.1 hrest
        exact ⟨(step, outcome) :: outcomes, after, .cons hfirst hdone, rfl⟩
      · exact absurd hcrash effect_not_halts
    · rintro ⟨outcomes, after, hdone, rfl⟩
      cases hdone with
      | cons hfirst hothers => exact hfirst.bind (ih.2 ⟨_, after, hothers, rfl⟩)

/-! ## All steps -/

/-- The record that the last step saves. -/
def stoppedRecord (record : Record) : Record := record.clearPorts.clearAddresses.markStopped

/-- What becomes of each step, by what becomes of the two that can fail. -/
def stepOutcome (released saved : Except Failure Unit) : TeardownStep → Except Failure Unit
  | .clearPorts => .ok ()
  | .clearAddresses => .ok ()
  | .releaseStorage => released
  | .persist => saved

/-- What becomes of all steps, in their order. -/
def teardownOutcomes (released saved : Except Failure Unit) : StepOutcomes :=
  teardownOrder.map fun step ↦ (step, stepOutcome released saved step)

/-- A teardown is a deactivation and a save after it. -/
theorem stepsDone_teardownOrder_iff :
    StepsDone chain record teardownOrder history outcomes after ↔
      ∃ events released saved,
        (Surroundings.onDevices chain.deactivate).attempt.IsRun events (some released) ∧
        history = events ++ [⟨.save (stoppedRecord record), saved⟩] ∧
        outcomes = teardownOutcomes released saved ∧ after = stoppedRecord record := by
  constructor
  · intro hdone
    cases hdone with
    | cons hports hdone =>
    cases hdone with
    | cons haddresses hdone =>
    cases hdone with
    | cons hrelease hdone =>
    cases hdone with
    | cons hpersist hdone =>
    cases hdone
    cases hports
    cases haddresses
    obtain ⟨saved, rfl, hsaved⟩ := Program.isRun_perform_iff.1 hpersist
    obtain rfl := Option.some.inj hsaved
    exact ⟨_, _, _, hrelease, rfl, rfl, rfl⟩
  · rintro ⟨events, released, saved, hrelease, rfl, rfl, rfl⟩
    have hsave : (TeardownStep.effect chain (stoppedRecord record) .persist).attempt.IsRun
        [⟨.save (stoppedRecord record), saved⟩] (some saved) :=
      Program.isRun_perform_iff.2 ⟨saved, rfl, rfl⟩
    change StepsDone chain record teardownOrder ([] ++ ([] ++ (events ++ ([_] ++ [])))) _ _
    refine .cons (.done _) ?_
    refine .cons (.done _) ?_
    refine .cons hrelease ?_
    refine .cons hsave ?_
    exact .nil _

theorem isRun_tearDown_iff {result : Option (TeardownReport × Record)} :
    (tearDown chain record).IsRun history result ↔
      ∃ events released saved,
        (Surroundings.onDevices chain.deactivate).attempt.IsRun events (some released) ∧
        history = events ++ [⟨.save (stoppedRecord record), saved⟩] ∧
        result = some (TeardownReport.empty.addAll (teardownOutcomes released saved),
          stoppedRecord record) := by
  unfold tearDown
  rw [isRun_tearDownFrom_iff]
  constructor
  · rintro ⟨outcomes, after, hdone, rfl⟩
    obtain ⟨events, released, saved, hrelease, rfl, rfl, rfl⟩ :=
      stepsDone_teardownOrder_iff.1 hdone
    exact ⟨events, released, saved, hrelease, rfl, rfl⟩
  · rintro ⟨events, released, saved, hrelease, rfl, rfl⟩
    exact ⟨_, _, stepsDone_teardownOrder_iff.2 ⟨events, released, saved, hrelease, rfl, rfl, rfl⟩,
      rfl⟩

end MicroVm.Run

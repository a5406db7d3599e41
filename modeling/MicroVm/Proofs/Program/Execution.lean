import MicroVm.Proofs.Program.Runs

/-!
# Tasks against surroundings with a state

Against surroundings with a state a task does one thing only, so what it does is an equation. The
equations below follow a task from one of its parts to the next. Where the surroundings stay as they
are and answer as in a run, that run is what the task does.
-/

namespace MicroVm

variable {I : Interface} {α β σ : Type} {handler : Handler I σ} {state middle : σ}

/-- Surroundings that stay as they are and answer as in a run lead through that run. -/
theorem Program.IsRun.run_eq {program : Program I α} {history : History I} {result : Option α}
    (hrun : program.IsRun history result)
    (hsteady : ∀ event ∈ history, handler event.request state = (event.answer, state)) :
    program.run handler state = (result, state) := by
  induction hrun with
  | done value => rfl
  | halt => rfl
  | ask answer _ ih =>
    obtain ⟨hfirst, hlater⟩ := List.forall_mem_cons.1 hsteady
    exact (run_ask_of_eq handler hfirst).trans (ih hlater)

namespace Task

theorem run_bind_of_ok {task : Task I α} {next : α → Task I β} {value : α}
    (htask : task.attempt.run handler state = (some (.ok value), middle)) :
    (task >>= next).attempt.run handler state = (next value).attempt.run handler middle := by
  rw [attempt_bind, Program.run_bind, htask]

theorem run_bind_of_error {task : Task I α} {next : α → Task I β} {failure : Failure}
    (htask : task.attempt.run handler state = (some (.error failure), middle)) :
    (task >>= next).attempt.run handler state = (some (.error failure), middle) := by
  rw [attempt_bind, Program.run_bind, htask]
  rfl

theorem run_liftM_bind {program : Program I α} {next : α → Task I β} {value : α}
    (hprogram : program.run handler state = (some value, middle)) :
    ((liftM program : Task I α) >>= next).attempt.run handler state =
      (next value).attempt.run handler middle := by
  apply run_bind_of_ok
  rw [attempt_liftM, Program.run_bind, hprogram]
  rfl

theorem run_within {activity : Activity} {task : Task I α} {result : Except Failure α}
    (htask : task.attempt.run handler state = (some result, middle)) :
    (Task.within activity task).attempt.run handler state =
      (some (result.mapError (.within activity)), middle) := by
  unfold Task.within
  rw [attempt_of, Program.run_bind, htask]
  cases result <;> rfl

end Task

end MicroVm

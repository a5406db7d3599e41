import MicroVm.Proofs.Program.Requests

/-!
# Answers that make no difference

Not every answer that a program gets decides how it goes on. Some requests are made for their effect
only, and the program goes on in the same way whatever becomes of them. The requests of a program
are of two kinds then, those whose answers it heeds and those whose answers it ignores, and both
kinds may depend on the events before. In two surroundings that answer the heeded requests alike,
such a program asks for the same things and ends with the same value.
-/

namespace MicroVm

variable {I : Interface} {α β σ : Type}

/-! ## Events by what came before them -/

/-- Whether there is an event in a history for which a condition holds, which may look at the events
before it. -/
def Happens (holds : History I → Event I → Prop) (past : History I) : Prop :=
  ∃ before event after, past = before ++ event :: after ∧ holds before event

section Happens

variable {holds : History I → Event I → Prop} {past history : History I} {event : Event I}

theorem not_happens_nil : ¬ Happens holds [] := by
  rintro ⟨before, event, after, hempty, -⟩
  exact List.append_ne_nil_of_right_ne_nil before (List.cons_ne_nil event after) hempty.symm

theorem Happens.append (hpast : Happens holds past) (history : History I) :
    Happens holds (past ++ history) := by
  obtain ⟨before, event, after, rfl, hevent⟩ := hpast
  exact ⟨before, event, after ++ history, by rw [List.append_assoc, List.cons_append], hevent⟩

theorem happens_concat (hevent : holds past event) : Happens holds (past ++ [event]) :=
  ⟨past, event, [], rfl, hevent⟩

theorem happens_concat_iff : Happens holds (past ++ [event]) ↔
    Happens holds past ∨ holds past event := by
  constructor
  · rintro ⟨before, found, after, hwhole, hfound⟩
    obtain rfl | ⟨rest, last, rfl⟩ := List.eq_nil_or_concat after
    · obtain ⟨rfl, hsame⟩ := List.append_inj' hwhole rfl
      obtain rfl := (List.cons.inj hsame).1
      exact .inr hfound
    · have hsplit : past ++ [event] = (before ++ found :: rest) ++ [last] := by
        rw [hwhole, List.concat_eq_append, List.append_assoc, List.cons_append]
      obtain ⟨rfl, -⟩ := List.append_inj' hsplit rfl
      exact .inl ⟨before, found, rest, rfl, hfound⟩
  · rintro (hpast | hevent)
    · exact hpast.append [event]
    · exact happens_concat hevent

end Happens

namespace Program

/-- Whether a program, after given events, asks only for things of two kinds, goes on from those of
the first kind by their answers and from those of the second kind without looking at them, and ends
with a value for which a condition holds, which may look at all events. -/
inductive Heeds (heeded ignored : RequestKind I) :
    History I → Program I α → (α → History I → Prop) → Prop
  | done {past : History I} {value : α} {post : α → History I → Prop} (holds : post value past) :
      Heeds heeded ignored past (.done value) post
  | heed {past : History I} {request : I.Request} {next : I.Answer request → Program I α}
      {post : α → History I → Prop} (first : heeded past request)
      (rest : ∀ answer, Heeds heeded ignored (past ++ [⟨request, answer⟩]) (next answer) post) :
      Heeds heeded ignored past (.ask request next) post
  | ignore {past : History I} {request : I.Request} {next : I.Answer request → Program I α}
      {program : Program I α} {post : α → History I → Prop} (first : ignored past request)
      (same : ∀ answer, next answer = program)
      (rest : ∀ answer, Heeds heeded ignored (past ++ [⟨request, answer⟩]) program post) :
      Heeds heeded ignored past (.ask request next) post

section Heeds

variable {heeded ignored kind : RequestKind I} {past : History I} {program : Program I α}
  {post weaker : α → History I → Prop}

theorem heeds_perform {request : I.Request} {post : I.Answer request → History I → Prop}
    (hheeded : heeded past request) (hpost : ∀ answer, post answer (past ++ [⟨request, answer⟩])) :
    (perform request).Heeds heeded ignored past post :=
  .heed hheeded fun answer ↦ .done (hpost answer)

/-- A program with its continuation heeds no more than each of the two. -/
theorem heeds_bind {continuation : α → Program I β} {post : β → History I → Prop}
    (hprogram : program.Heeds heeded ignored past fun value past ↦
      (continuation value).Heeds heeded ignored past post) :
    (program.bind continuation).Heeds heeded ignored past post := by
  generalize hmid : (fun value past ↦ (continuation value).Heeds heeded ignored past post) = mid
    at hprogram
  induction hprogram with
  | done holds =>
    subst hmid
    exact holds
  | heed first _ ih => exact .heed first fun answer ↦ ih answer hmid
  | ignore first same _ ih =>
    exact .ignore first (fun answer ↦ congrArg (·.bind continuation) (same answer))
      fun answer ↦ ih answer hmid

theorem Heeds.mono (hprogram : program.Heeds heeded ignored past post)
    (himplies : ∀ value past, post value past → weaker value past) :
    program.Heeds heeded ignored past weaker := by
  induction hprogram with
  | done holds => exact .done (himplies _ _ holds)
  | heed first _ ih => exact .heed first fun answer ↦ ih answer himplies
  | ignore first same _ ih => exact .ignore first same fun answer ↦ ih answer himplies

/-- What a program asks for whether it heeds the answers or not. -/
theorem Heeds.asks (hprogram : program.Heeds heeded ignored past post)
    (hheeded : ∀ past request, heeded past request → kind past request)
    (hignored : ∀ past request, ignored past request → kind past request) :
    program.Asks kind past post := by
  induction hprogram with
  | done holds => exact .done holds
  | heed first _ ih => exact .ask (hheeded _ _ first) ih
  | ignore first same _ ih =>
    refine .ask (hignored _ _ first) fun answer ↦ ?_
    rw [same answer]
    exact ih answer

/-- In two surroundings that answer the heeded requests alike, a program does the same. A relation
between their states carries this from one request to the next. -/
theorem Heeds.run_eq {handler other : Handler I σ} (related : History I → σ → σ → Prop)
    (hheeded : ∀ {past state twin} {request : I.Request}, related past state twin →
      heeded past request → (handler request state).1 = (other request twin).1 ∧
        related (past ++ [⟨request, (handler request state).1⟩]) (handler request state).2
          (other request twin).2)
    (hignored : ∀ {past state twin} {request : I.Request}, related past state twin →
      ignored past request →
        related (past ++ [⟨request, (handler request state).1⟩]) (handler request state).2
          (other request twin).2)
    (hprogram : program.Heeds heeded ignored past post) {state twin : σ}
    (hrelated : related past state twin) :
    ∃ value later, (program.run handler state).1 = some value ∧
      (program.run other twin).1 = some value ∧ post value later ∧
        related later (program.run handler state).2 (program.run other twin).2 := by
  induction hprogram generalizing state twin with
  | done holds => exact ⟨_, _, rfl, rfl, holds, hrelated⟩
  | heed first _ ih =>
    obtain ⟨hanswer, hlater⟩ := hheeded hrelated first
    have hrest := ih _ hlater
    rw [run_ask, run_ask, ← hanswer]
    exact hrest
  | ignore first same _ ih =>
    have hrest := ih _ (hignored hrelated first)
    rw [run_ask, run_ask, same, same]
    exact hrest

end Heeds

end Program

namespace Task

variable {heeded ignored : Program.RequestKind I} {past : History I}

theorem heeds_bind {task : Task I α} {next : α → Task I β}
    {post : Except Failure β → History I → Prop}
    (htask : task.attempt.Heeds heeded ignored past fun result past ↦
      match result with
      | .ok value => (next value).attempt.Heeds heeded ignored past post
      | .error failure => post (.error failure) past) :
    (task >>= next).attempt.Heeds heeded ignored past post := by
  rw [attempt_bind]
  refine Program.heeds_bind (htask.mono ?_)
  intro result past hmid
  cases result with
  | error failure => exact .done hmid
  | ok value => exact hmid

theorem heeds_liftM_bind {program : Program I α} {next : α → Task I β}
    {post : Except Failure β → History I → Prop}
    (hprogram : program.Heeds heeded ignored past fun value past ↦
      (next value).attempt.Heeds heeded ignored past post) :
    ((liftM program : Task I α) >>= next).attempt.Heeds heeded ignored past post := by
  rw [attempt_bind, attempt_liftM, Program.bind_assoc]
  exact Program.heeds_bind hprogram

/-- An activity around the failure of a task leaves its requests as they are. -/
theorem heeds_within {activity : Activity} {task : Task I α}
    {post : Except Failure α → History I → Prop}
    (htask : task.attempt.Heeds heeded ignored past fun result past ↦
      post (result.mapError (.within activity)) past) :
    (Task.within activity task).attempt.Heeds heeded ignored past post := by
  refine Program.heeds_bind (htask.mono ?_)
  intro result past hpost
  cases result with
  | error failure => exact .done hpost
  | ok value => exact .done hpost

end Task

end MicroVm

import MicroVm.Proofs.Program.Runs

/-!
# Programs in surroundings with a state

Surroundings with a state need not answer in one way only: calls may fail, and a new device may get
any free name. Their conduct is the relation of the answers that they may give, and of the states
that they may be in afterwards. What a program ensures holds after each of its runs, whatever the
surroundings do within their conduct, and includes that the program does not crash. The rules below
follow the program from one request to the next.
-/

namespace MicroVm

variable {I : Interface} {α β σ : Type}

/-- How surroundings behave: from the events so far and a state, which answer a request may get and
which state may come after it. -/
abbrev Conduct (I : Interface) (σ : Type) :=
  History I → σ → (request : I.Request) → I.Answer request → σ → Prop

/-- Whether surroundings can lead from a state to another one by the events of a history, after
those of the past. -/
inductive Conduct.Allows (conduct : Conduct I σ) : History I → σ → History I → σ → Prop
  | nil (past : History I) (state : σ) : Allows conduct past state [] state
  | cons {past history : History I} {state middle after : σ} {request : I.Request}
      {answer : I.Answer request} (first : conduct past state request answer middle)
      (rest : Allows conduct (past ++ [⟨request, answer⟩]) middle history after) :
      Allows conduct past state (⟨request, answer⟩ :: history) after

namespace Conduct

variable {conduct : Conduct I σ} {past history rest : History I} {state after : σ}

theorem allows_nil_iff : conduct.Allows past state [] after ↔ after = state := by
  constructor
  · intro hallows
    cases hallows
    rfl
  · rintro rfl
    exact .nil past after

/-- A history is allowed when its first event leads to where the rest is. -/
theorem allows_cons_iff {request : I.Request} {answer : I.Answer request} :
    conduct.Allows past state (⟨request, answer⟩ :: history) after ↔
      ∃ middle, conduct past state request answer middle ∧
        conduct.Allows (past ++ [⟨request, answer⟩]) middle history after := by
  constructor
  · intro hallows
    cases hallows with
    | cons first rest => exact ⟨_, first, rest⟩
  · rintro ⟨middle, hfirst, hrest⟩
    exact .cons hfirst hrest

theorem allows_append_iff :
    conduct.Allows past state (history ++ rest) after ↔
      ∃ middle, conduct.Allows past state history middle ∧
        conduct.Allows (past ++ history) middle rest after := by
  induction history generalizing past state with
  | nil => simp [allows_nil_iff]
  | cons event history ih =>
    obtain ⟨request, answer⟩ := event
    simp only [List.cons_append, allows_cons_iff, ih, List.append_assoc, List.nil_append]
    constructor
    · rintro ⟨first, hfirst, middle, hhistory, hrest⟩
      exact ⟨middle, ⟨first, hfirst, hhistory⟩, hrest⟩
    · rintro ⟨middle, ⟨first, hfirst, hhistory⟩, hrest⟩
      exact ⟨first, hfirst, middle, hhistory, hrest⟩

theorem Allows.append {middle : σ} (hhistory : conduct.Allows past state history middle)
    (hrest : conduct.Allows (past ++ history) middle rest after) :
    conduct.Allows past state (history ++ rest) after :=
  allows_append_iff.2 ⟨middle, hhistory, hrest⟩

theorem allows_singleton {request : I.Request} {answer : I.Answer request}
    (hstep : conduct past state request answer after) :
    conduct.Allows past state [⟨request, answer⟩] after :=
  .cons hstep (.nil _ after)

/-- Surroundings that answer within a conduct lead each program through a run that it allows. -/
theorem exists_allows {handler : Handler I σ}
    (hconduct : ∀ past state request,
      conduct past state request (handler request state).1 (handler request state).2)
    (program : Program I α) (past : History I) (state : σ) :
    ∃ history, program.IsRun history (program.run handler state).1 ∧
      conduct.Allows past state history (program.run handler state).2 := by
  induction program generalizing past state with
  | done value => exact ⟨[], .done value, .nil past state⟩
  | halt => exact ⟨[], .halt, .nil past state⟩
  | ask request next ih =>
    obtain ⟨history, hrun, hallows⟩ := ih (handler request state).1
      (past ++ [⟨request, (handler request state).1⟩]) (handler request state).2
    exact ⟨_, .ask _ hrun, .cons (hconduct past state request) hallows⟩

end Conduct

namespace Program

variable {conduct : Conduct I σ} {past : History I} {state : σ}

/-- What holds of the result, of all events and of the state after each run of a program that the
surroundings allow. The program does not crash in any of them. -/
def Ensures (conduct : Conduct I σ) (past : History I) (state : σ) (program : Program I α)
    (post : α → History I → σ → Prop) : Prop :=
  ∀ ⦃history result after⦄, program.IsRun history result →
    conduct.Allows past state history after →
      ∃ value, result = some value ∧ post value (past ++ history) after

theorem ensures_done {value : α} {post : α → History I → σ → Prop} (hpost : post value past state) :
    (Program.done value).Ensures conduct past state post := by
  intro history result after hrun hallows
  obtain ⟨rfl, rfl⟩ := isRun_done_iff.1 hrun
  obtain rfl := Conduct.allows_nil_iff.1 hallows
  exact ⟨value, rfl, by rwa [List.append_nil]⟩

theorem ensures_ask {request : I.Request} {next : I.Answer request → Program I α}
    {post : α → History I → σ → Prop}
    (hnext : ∀ answer middle, conduct past state request answer middle →
      (next answer).Ensures conduct (past ++ [⟨request, answer⟩]) middle post) :
    (Program.ask request next).Ensures conduct past state post := by
  intro history result after hrun hallows
  obtain ⟨answer, rest, rfl, hrest⟩ := isRun_ask_iff.1 hrun
  obtain ⟨middle, hfirst, hallowed⟩ := Conduct.allows_cons_iff.1 hallows
  obtain ⟨value, rfl, hpost⟩ := hnext answer middle hfirst hrest hallowed
  exact ⟨value, rfl, by rwa [List.append_assoc] at hpost⟩

theorem ensures_perform {request : I.Request} {post : I.Answer request → History I → σ → Prop}
    (hpost : ∀ answer middle, conduct past state request answer middle →
      post answer (past ++ [⟨request, answer⟩]) middle) :
    (perform request).Ensures conduct past state post :=
  ensures_ask fun answer middle hstep ↦ ensures_done (hpost answer middle hstep)

/-- A program with its continuation ensures what the continuation does from where the program ends.
-/
theorem ensures_bind {program : Program I α} {continuation : α → Program I β}
    {post : β → History I → σ → Prop}
    (hprogram : program.Ensures conduct past state fun value past state ↦
      (continuation value).Ensures conduct past state post) :
    (program.bind continuation).Ensures conduct past state post := by
  intro history result after hrun hallows
  obtain ⟨value, before, rest, rfl, hbefore, hafter⟩ | ⟨hcrash, -⟩ := isRun_bind_iff.1 hrun
  · obtain ⟨middle, hallowed, hallowedRest⟩ := Conduct.allows_append_iff.1 hallows
    obtain ⟨_, hvalue, hcontinuation⟩ := hprogram hbefore hallowed
    obtain rfl := Option.some.inj hvalue
    obtain ⟨ended, rfl, hpost⟩ := hcontinuation hafter hallowedRest
    exact ⟨ended, rfl, by rwa [List.append_assoc] at hpost⟩
  · obtain ⟨_, hnone, -⟩ := hprogram hcrash hallows
    cases hnone

theorem Ensures.mono {program : Program I α} {post weaker : α → History I → σ → Prop}
    (hprogram : program.Ensures conduct past state post)
    (himplies : ∀ value past state, post value past state → weaker value past state) :
    program.Ensures conduct past state weaker := by
  intro history result after hrun hallows
  obtain ⟨value, hvalue, hpost⟩ := hprogram hrun hallows
  exact ⟨value, hvalue, himplies _ _ _ hpost⟩

/-- What a program ensures in two ways holds together. -/
theorem Ensures.and {program : Program I α} {post other : α → History I → σ → Prop}
    (hprogram : program.Ensures conduct past state post)
    (hother : program.Ensures conduct past state other) :
    program.Ensures conduct past state fun value later after ↦
      post value later after ∧ other value later after := by
  intro history result after hrun hallows
  obtain ⟨value, hvalue, hpost⟩ := hprogram hrun hallows
  obtain ⟨same, hsame, hpostOther⟩ := hother hrun hallows
  obtain rfl := Option.some.inj (hvalue.symm.trans hsame)
  exact ⟨value, hvalue, hpost, hpostOther⟩

/-- The events at the end begin with those from before. -/
theorem Ensures.extends {program : Program I α} {post : α → History I → σ → Prop}
    (hprogram : program.Ensures conduct past state post) :
    program.Ensures conduct past state fun value later after ↦
      past <+: later ∧ post value later after := by
  intro history result after hrun hallows
  obtain ⟨value, hvalue, hpost⟩ := hprogram hrun hallows
  exact ⟨value, hvalue, List.prefix_append past history, hpost⟩

/-- What a program ensures holds of its result in surroundings that answer within the conduct. -/
theorem Ensures.exists_run {handler : Handler I σ} {program : Program I α}
    {post : α → History I → σ → Prop} (hprogram : program.Ensures conduct past state post)
    (hconduct : ∀ past state request,
      conduct past state request (handler request state).1 (handler request state).2) :
    ∃ value later, (program.run handler state).1 = some value ∧
      post value later (program.run handler state).2 := by
  obtain ⟨history, hrun, hallows⟩ := Conduct.exists_allows hconduct program past state
  obtain ⟨value, hvalue, hpost⟩ := hprogram hrun hallows
  exact ⟨value, _, hvalue, hpost⟩

end Program

namespace Task

variable {conduct : Conduct I σ} {past : History I} {state : σ}

/-- A task goes on from the value of its first part. The failure of the first part is its own. -/
theorem ensures_bind {task : Task I α} {next : α → Task I β}
    {post : Except Failure β → History I → σ → Prop}
    (htask : task.attempt.Ensures conduct past state fun result past state ↦
      match result with
      | .ok value => (next value).attempt.Ensures conduct past state post
      | .error failure => post (.error failure) past state) :
    (task >>= next).attempt.Ensures conduct past state post := by
  rw [attempt_bind]
  refine Program.ensures_bind (htask.mono ?_)
  intro result past state hmid
  cases result with
  | error failure => exact Program.ensures_done hmid
  | ok value => exact hmid

/-- A task that begins with a program goes on from its value. -/
theorem ensures_liftM_bind {program : Program I α} {next : α → Task I β}
    {post : Except Failure β → History I → σ → Prop}
    (hprogram : program.Ensures conduct past state fun value past state ↦
      (next value).attempt.Ensures conduct past state post) :
    ((liftM program : Task I α) >>= next).attempt.Ensures conduct past state post := by
  rw [attempt_bind, attempt_liftM, Program.bind_assoc]
  exact Program.ensures_bind hprogram

/-- The task of a program fails with the errors of the program. -/
theorem ensures_ofSystem {program : Program I (Except Host.SystemError α)}
    {post : Except Failure α → History I → σ → Prop}
    (hprogram : program.Ensures conduct past state fun result past state ↦
      post (result.mapError .system) past state) :
    (Task.ofSystem program).attempt.Ensures conduct past state post :=
  Program.ensures_bind (hprogram.mono fun _ _ _ hpost ↦ Program.ensures_done hpost)

/-- An activity around the failure of a task changes that failure only. -/
theorem ensures_within {activity : Activity} {task : Task I α}
    {post : Except Failure α → History I → σ → Prop}
    (htask : task.attempt.Ensures conduct past state fun result past state ↦
      post (result.mapError (.within activity)) past state) :
    (Task.within activity task).attempt.Ensures conduct past state post := by
  refine Program.ensures_bind (htask.mono ?_)
  intro result past state hpost
  cases result with
  | error failure => exact Program.ensures_done hpost
  | ok value => exact Program.ensures_done hpost

end Task

end MicroVm

import MicroVm.Program

/-!
# Runs as histories

A run of a program is known by what was asked in it and what was answered. Nothing is said here
about who answers: every answer that a request can get begins a run, so a statement on all runs is
one on every pattern of answers. A run of a sequence is a run of its first part followed by a run
of the second, which is how a history is taken apart.
-/

namespace MicroVm

/-- A request with the answer that it got. -/
structure Event (I : Interface) where
  request : I.Request
  answer : I.Answer request

/-- What was asked and answered, in order. -/
abbrev History (I : Interface) := List (Event I)

section Places

variable {I : Interface} {start rest before after : History I} {event : Event I}

/-- An event that is not in the first of two histories is at a place in the second one. -/
theorem exists_append_of_notMem_left (hevent : event ∉ start)
    (hsplit : start ++ rest = before ++ event :: after) :
    ∃ middle, before = start ++ middle ∧ rest = middle ++ event :: after := by
  obtain ⟨middle, rfl, hrest⟩ | ⟨middle, rfl, hrest⟩ := List.append_eq_append_iff.1 hsplit
  · exact ⟨middle, rfl, hrest⟩
  · cases middle with
    | nil => exact ⟨[], by rw [List.append_nil, List.append_nil], hrest.symm⟩
    | cons first middle =>
      obtain ⟨rfl, -⟩ := List.cons.inj hrest
      exact absurd (List.mem_append_right before List.mem_cons_self) hevent

/-- An event that is not in the second of two histories is at a place in the first one. -/
theorem exists_append_of_notMem_right (hevent : event ∉ rest)
    (hsplit : start ++ rest = before ++ event :: after) :
    ∃ middle, start = before ++ event :: middle ∧ after = middle ++ rest := by
  obtain ⟨middle, -, hrest⟩ | ⟨middle, rfl, hrest⟩ := List.append_eq_append_iff.1 hsplit
  · rw [hrest] at hevent
    exact absurd (List.mem_append_right middle List.mem_cons_self) hevent
  · cases middle with
    | nil =>
      rw [← List.nil_append rest, ← hrest] at hevent
      exact absurd List.mem_cons_self hevent
    | cons first middle =>
      obtain ⟨rfl, rfl⟩ := List.cons.inj hrest
      exact ⟨middle, rfl, rfl⟩

end Places

namespace Program

variable {I J : Interface} {α β σ : Type}

/-- Whether a program can ask as in a history and end with a result. A program that crashes ends
with none. -/
inductive IsRun : Program I α → History I → Option α → Prop
  | done (value : α) : IsRun (.done value) [] (some value)
  | halt : IsRun .halt [] none
  | ask {request : I.Request} {next : I.Answer request → Program I α} {history : History I}
      {result : Option α} (answer : I.Answer request) (rest : IsRun (next answer) history result) :
      IsRun (.ask request next) (⟨request, answer⟩ :: history) result

@[simp]
theorem isRun_done_iff {value : α} {history : History I} {result : Option α} :
    (Program.done value).IsRun history result ↔ history = [] ∧ result = some value := by
  constructor
  · intro hrun
    cases hrun
    exact ⟨rfl, rfl⟩
  · rintro ⟨rfl, rfl⟩
    exact .done value

@[simp]
theorem isRun_halt_iff {history : History I} {result : Option α} :
    (Program.halt : Program I α).IsRun history result ↔ history = [] ∧ result = none := by
  constructor
  · intro hrun
    cases hrun
    exact ⟨rfl, rfl⟩
  · rintro ⟨rfl, rfl⟩
    exact .halt

@[simp]
theorem isRun_ask_iff {request : I.Request} {next : I.Answer request → Program I α}
    {history : History I} {result : Option α} :
    (Program.ask request next).IsRun history result ↔
      ∃ answer rest, history = ⟨request, answer⟩ :: rest ∧ (next answer).IsRun rest result := by
  constructor
  · intro hrun
    cases hrun with
    | ask answer rest => exact ⟨answer, _, rfl, rest⟩
  · rintro ⟨answer, rest, rfl, hrest⟩
    exact .ask answer hrest

@[simp]
theorem isRun_perform_iff {request : I.Request} {history : History I}
    {result : Option (I.Answer request)} :
    (perform request).IsRun history result ↔
      ∃ answer, history = [⟨request, answer⟩] ∧ result = some answer := by
  unfold perform
  rw [isRun_ask_iff]
  constructor
  · rintro ⟨answer, rest, rfl, hrest⟩
    obtain ⟨rfl, rfl⟩ := isRun_done_iff.1 hrest
    exact ⟨answer, rfl, rfl⟩
  · rintro ⟨answer, rfl, rfl⟩
    exact ⟨answer, [], rfl, .done answer⟩

/-- A run of the first part that ends well goes on with a run of the second. -/
theorem IsRun.bind {program : Program I α} {continuation : α → Program I β}
    {history rest : History I} {value : α} {result : Option β}
    (hfirst : program.IsRun history (some value)) (hrest : (continuation value).IsRun rest result) :
    (program.bind continuation).IsRun (history ++ rest) result := by
  generalize hend : some value = ended at hfirst
  induction hfirst with
  | done =>
    obtain rfl := Option.some.inj hend
    exact hrest
  | halt => cases hend
  | ask answer _ ih => exact .ask answer (ih hend)

/-- A run of a program whose value is changed at the end. -/
theorem IsRun.map {program : Program I α} {history : History I} {value : α} (change : α → β)
    (hrun : program.IsRun history (some value)) :
    (program.bind fun value ↦ .done (change value)).IsRun history (some (change value)) := by
  rw [← List.append_nil history]
  exact hrun.bind (.done _)

/-- After a run of the first part there is a run of the second. -/
theorem IsRun.bind_iff {program : Program I α} {continuation : α → Program I β}
    {history rest : History I} {value : α} {result : Option β}
    (hfirst : program.IsRun history (some value)) :
    (program.bind continuation).IsRun (history ++ rest) result ↔
      (continuation value).IsRun rest result := by
  refine ⟨fun hrun ↦ ?_, hfirst.bind⟩
  generalize hend : some value = ended at hfirst
  induction hfirst with
  | done =>
    obtain rfl := Option.some.inj hend
    exact hrun
  | halt => cases hend
  | ask answer _ ih =>
    cases hrun with
    | ask _ hrest => exact ih hrest hend

/-- A run of the first part that crashes is all there is. -/
theorem IsRun.bind_none {program : Program I α} {continuation : α → Program I β}
    {history : History I} (hfirst : program.IsRun history none) :
    (program.bind continuation).IsRun history none := by
  generalize hend : none = ended at hfirst
  induction hfirst with
  | done => cases hend
  | halt => exact .halt
  | ask answer _ ih => exact .ask answer (ih hend)

theorem isRun_bind_iff {program : Program I α} {continuation : α → Program I β}
    {history : History I} {result : Option β} :
    (program.bind continuation).IsRun history result ↔
      (∃ value before after, history = before ++ after ∧ program.IsRun before (some value) ∧
        (continuation value).IsRun after result) ∨
      (program.IsRun history none ∧ result = none) := by
  constructor
  · intro hrun
    induction program generalizing history with
    | done value => exact .inl ⟨value, [], history, rfl, .done value, hrun⟩
    | halt =>
      obtain ⟨rfl, rfl⟩ := isRun_halt_iff.1 hrun
      exact .inr ⟨.halt, rfl⟩
    | ask request next ih =>
      obtain ⟨answer, rest, rfl, hrest⟩ := isRun_ask_iff.1 hrun
      obtain ⟨value, before, after, rfl, hbefore, hafter⟩ | ⟨hcrash, rfl⟩ := ih answer hrest
      · exact .inl ⟨value, ⟨request, answer⟩ :: before, after, rfl, .ask answer hbefore, hafter⟩
      · exact .inr ⟨.ask answer hcrash, rfl⟩
  · rintro (⟨value, before, after, rfl, hbefore, hafter⟩ | ⟨hcrash, rfl⟩)
    · exact hbefore.bind hafter
    · exact hcrash.bind_none

/-- Changing the result of a program changes nothing of its runs but the result. -/
theorem isRun_map_iff {program : Program I α} {change : α → β} {history : History I}
    {result : Option β} :
    (program.bind fun value ↦ .done (change value)).IsRun history result ↔
      ∃ found, program.IsRun history found ∧ result = found.map change := by
  rw [isRun_bind_iff]
  constructor
  · rintro (⟨value, before, after, rfl, hbefore, hafter⟩ | ⟨hcrash, rfl⟩)
    · obtain ⟨rfl, rfl⟩ := isRun_done_iff.1 hafter
      exact ⟨some value, by rwa [List.append_nil], rfl⟩
    · exact ⟨none, hcrash, rfl⟩
  · rintro ⟨_ | value, hfound, rfl⟩
    · exact .inr ⟨hfound, rfl⟩
    · exact .inl ⟨value, history, [], (List.append_nil history).symm, hfound, .done _⟩

/-- The answers of a run decide its result. -/
theorem IsRun.unique {program : Program I α} {history : History I} {result other : Option α}
    (hrun : program.IsRun history result) (hother : program.IsRun history other) :
    other = result := by
  induction hrun with
  | done value => exact (isRun_done_iff.1 hother).2
  | halt => exact (isRun_halt_iff.1 hother).2
  | ask answer _ ih =>
    cases hother with
    | ask _ hrest => exact ih hrest

/-- No run is the beginning of another one. -/
theorem IsRun.eq_of_append {program : Program I α} {history other rest later : History I}
    {result ended : Option α} (hrun : program.IsRun history result)
    (hother : program.IsRun other ended) (hwhole : history ++ rest = other ++ later) :
    history = other ∧ result = ended := by
  induction hrun generalizing other with
  | done value =>
    obtain ⟨rfl, rfl⟩ := isRun_done_iff.1 hother
    exact ⟨rfl, rfl⟩
  | halt =>
    obtain ⟨rfl, rfl⟩ := isRun_halt_iff.1 hother
    exact ⟨rfl, rfl⟩
  | ask answer _ ih =>
    cases hother with
    | ask _ hrest =>
      obtain ⟨hevent, hafter⟩ := List.cons.inj hwhole
      cases hevent
      obtain ⟨rfl, rfl⟩ := ih hrest hafter
      exact ⟨rfl, rfl⟩

theorem run_ask_of_eq (handler : Handler I σ) {request : I.Request}
    {next : I.Answer request → Program I α} {state after : σ} {answer : I.Answer request}
    (h : handler request state = (answer, after)) :
    (Program.ask request next).run handler state = (next answer).run handler after := by
  rw [run_ask, h]

/-- A program that is made to ask others in its place, one request for one, has the same runs up to
the form of the requests. -/
theorem isRun_expand_iff {answer : (request : I.Request) → Program J (I.Answer request)}
    {translate : Event I → Event J}
    (hanswer : ∀ request history result, (answer request).IsRun history result ↔
      ∃ found, history = [translate ⟨request, found⟩] ∧ result = some found)
    {program : Program I α} {history : History J} {result : Option α} :
    (program.expand answer).IsRun history result ↔
      ∃ asked, history = asked.map translate ∧ program.IsRun asked result := by
  induction program generalizing history with
  | done value =>
    simp only [expand, isRun_done_iff]
    constructor
    · rintro ⟨rfl, rfl⟩
      exact ⟨[], rfl, rfl, rfl⟩
    · rintro ⟨_, rfl, rfl, rfl⟩
      exact ⟨rfl, rfl⟩
  | halt =>
    simp only [expand, isRun_halt_iff]
    constructor
    · rintro ⟨rfl, rfl⟩
      exact ⟨[], rfl, rfl, rfl⟩
    · rintro ⟨_, rfl, rfl, rfl⟩
      exact ⟨rfl, rfl⟩
  | ask request next ih =>
    simp only [expand, isRun_bind_iff, hanswer, isRun_ask_iff, ih]
    constructor
    · rintro (⟨_, _, _, rfl, ⟨found, rfl, hfound⟩, asked, rfl, hrest⟩ | ⟨⟨_, _, hcrash⟩, _⟩)
      · obtain rfl := Option.some.inj hfound
        exact ⟨⟨request, _⟩ :: asked, rfl, _, asked, rfl, hrest⟩
      · cases hcrash
    · rintro ⟨_, rfl, found, asked, rfl, hrest⟩
      exact .inl ⟨found, [translate ⟨request, found⟩], asked.map translate, rfl,
        ⟨found, rfl, rfl⟩, asked, rfl, hrest⟩

end Program

namespace Task

variable {I J : Interface} {α β : Type}

/-! ## The programs of tasks -/

@[simp]
theorem attempt_of (program : Program I (Except Failure α)) : (Task.of program).attempt = program :=
  rfl

@[simp]
theorem attempt_lift (program : Program I α) :
    Task.attempt (ExceptT.lift program) = program.bind fun value ↦ .done (.ok value) := rfl

@[simp]
theorem attempt_liftM (program : Program I α) :
    Task.attempt (liftM program : Task I α) = program.bind fun value ↦ .done (.ok value) := rfl

/-- A task goes on with the value of its first part, and ends with the failure of it. -/
theorem attempt_bind (task : Task I α) (next : α → Task I β) :
    (task >>= next).attempt = task.attempt.bind fun
      | .ok value => (next value).attempt
      | .error failure => .done (.error failure) := by
  change task.attempt.bind _ = _
  congr 1
  funext result
  cases result <;> rfl

theorem isRun_pure_ok_iff {history : History I} {value ended : α} :
    (pure value : Task I α).attempt.IsRun history (some (.ok ended)) ↔
      history = [] ∧ ended = value := by
  refine Program.isRun_done_iff.trans ?_
  rw [Option.some.injEq, Except.ok.injEq]

theorem isRun_bind_iff {task : Task I α} {next : α → Task I β} {history : History I}
    {result : Option (Except Failure β)} :
    (task >>= next).attempt.IsRun history result ↔
      (∃ value before after, history = before ++ after ∧
        task.attempt.IsRun before (some (.ok value)) ∧ (next value).attempt.IsRun after result) ∨
      (∃ failure, task.attempt.IsRun history (some (.error failure)) ∧
        result = some (.error failure)) ∨
      (task.attempt.IsRun history none ∧ result = none) := by
  rw [attempt_bind, Program.isRun_bind_iff]
  constructor
  · rintro (⟨value | failure, before, after, rfl, hbefore, hafter⟩ | hcrash)
    · obtain ⟨rfl, rfl⟩ := Program.isRun_done_iff.1 hafter
      exact .inr (.inl ⟨value, by rwa [List.append_nil], rfl⟩)
    · exact .inl ⟨failure, before, after, rfl, hbefore, hafter⟩
    · exact .inr (.inr hcrash)
  · rintro (⟨value, before, after, rfl, hbefore, hafter⟩ | ⟨failure, hfailed, rfl⟩ | hcrash)
    · exact .inl ⟨.ok value, before, after, rfl, hbefore, hafter⟩
    · exact .inl ⟨.error failure, history, [], (List.append_nil history).symm, hfailed,
        .done (Except.error failure)⟩
    · exact .inr hcrash

/-- A sequence whose first part does not crash, but ends after certain events with a value or after
certain events with a failure. -/
theorem isRun_bind_iff_of_ends {task : Task I α} {next : α → Task I β}
    {succeeds : History I → α → Prop} {fails : History I → Failure → Prop}
    (htask : ∀ {history : History I} {result : Option (Except Failure α)},
      task.attempt.IsRun history result ↔
        (∃ value, succeeds history value ∧ result = some (.ok value)) ∨
        ∃ failure, fails history failure ∧ result = some (.error failure))
    {history : History I} {result : Option (Except Failure β)} :
    (task >>= next).attempt.IsRun history result ↔
      (∃ value before after, history = before ++ after ∧ succeeds before value ∧
        (next value).attempt.IsRun after result) ∨
      ∃ failure, fails history failure ∧ result = some (.error failure) := by
  have hok {history : History I} {value : α} :
      task.attempt.IsRun history (some (.ok value)) ↔ succeeds history value := by
    simp [htask]
  have herror {history : History I} {failure : Failure} :
      task.attempt.IsRun history (some (.error failure)) ↔ fails history failure := by
    simp [htask]
  have hcrash {history : History I} : ¬ task.attempt.IsRun history none := by
    simp [htask]
  simp [isRun_bind_iff, hok, herror, hcrash]

/-- Two tasks in a row succeed when the one does and then the other. -/
theorem isRun_bind_ok_iff {task : Task I α} {next : α → Task I β} {history : History I}
    {ended : β} :
    (task >>= next).attempt.IsRun history (some (.ok ended)) ↔
      ∃ value before after, history = before ++ after ∧
        task.attempt.IsRun before (some (.ok value)) ∧
        (next value).attempt.IsRun after (some (.ok ended)) := by
  rw [isRun_bind_iff]
  constructor
  · rintro (hsplit | ⟨_, -, hequal⟩ | ⟨-, hequal⟩)
    · exact hsplit
    · cases hequal
    · cases hequal
  · exact .inl

/-- A run of a first part that succeeds goes on with a run of the second. -/
theorem isRun_bind {task : Task I α} {next : α → Task I β} {before after : History I} {value : α}
    {result : Option (Except Failure β)} (hfirst : task.attempt.IsRun before (some (.ok value)))
    (hrest : (next value).attempt.IsRun after result) :
    (task >>= next).attempt.IsRun (before ++ after) result :=
  isRun_bind_iff.2 (.inl ⟨value, before, after, rfl, hfirst, hrest⟩)

/-- After a run of a first part that succeeds there is a run of the second. -/
theorem isRun_append_iff {task : Task I α} {next : α → Task I β} {before after : History I}
    {value : α} {result : Option (Except Failure β)}
    (hfirst : task.attempt.IsRun before (some (.ok value))) :
    (task >>= next).attempt.IsRun (before ++ after) result ↔
      (next value).attempt.IsRun after result := by
  rw [attempt_bind]
  exact hfirst.bind_iff

theorem isRun_liftM_append_iff {program : Program I α} {next : α → Task I β}
    {before after : History I} {value : α} {result : Option (Except Failure β)}
    (hfirst : program.IsRun before (some value)) :
    ((liftM program : Task I α) >>= next).attempt.IsRun (before ++ after) result ↔
      (next value).attempt.IsRun after result := by
  rw [attempt_bind, attempt_liftM, Program.bind_assoc]
  exact hfirst.bind_iff

theorem ofExcept_ok_bind (value : α) (next : α → Task I β) :
    Task.ofExcept (.ok value) >>= next = next value := rfl

theorem ofExcept_error_bind (failure : Failure) (next : α → Task I β) :
    Task.ofExcept (.error failure) >>= next = Task.ofExcept (.error failure) := rfl

theorem lift_eq_liftM (program : Program I α) :
    (ExceptT.lift program : Task I α) = liftM program := rfl

/-- A program at the beginning of a task does not fail. -/
theorem isRun_liftM_bind_iff {program : Program I α} {next : α → Task I β} {history : History I}
    {result : Option (Except Failure β)} :
    ((liftM program : Task I α) >>= next).attempt.IsRun history result ↔
      (∃ value before after, history = before ++ after ∧ program.IsRun before (some value) ∧
        (next value).attempt.IsRun after result) ∨
      (program.IsRun history none ∧ result = none) := by
  rw [attempt_bind, attempt_liftM, Program.bind_assoc, Program.isRun_bind_iff]
  rfl

/-- A program that always gives a value is followed by what is done with the value. -/
theorem isRun_liftM_bind_iff_of_gives {program : Program I α} {gives : History I → α → Prop}
    {next : α → Task I β} {history : History I} {result : Option (Except Failure β)}
    (hprogram : ∀ history result, program.IsRun history result ↔
      ∃ value, gives history value ∧ result = some value) :
    ((liftM program : Task I α) >>= next).attempt.IsRun history result ↔
      ∃ value before rest, history = before ++ rest ∧ gives before value ∧
        (next value).attempt.IsRun rest result := by
  rw [isRun_liftM_bind_iff]
  constructor
  · rintro (⟨value, before, rest, rfl, hbefore, hrest⟩ | ⟨hcrash, -⟩)
    · obtain ⟨_, hgives, hvalue⟩ := (hprogram _ _).1 hbefore
      obtain rfl := Option.some.inj hvalue
      exact ⟨value, before, rest, rfl, hgives, hrest⟩
    · obtain ⟨_, -, hnone⟩ := (hprogram _ _).1 hcrash
      cases hnone
  · rintro ⟨value, before, rest, rfl, hgives, hrest⟩
    exact .inl ⟨value, before, rest, rfl, (hprogram _ _).2 ⟨value, hgives, rfl⟩, hrest⟩

/-- A task that begins with a single request goes on from its answer. -/
theorem isRun_request_bind_iff {program : Program I α} {event : α → Event I} {next : α → Task I β}
    {history : History I} {result : Option (Except Failure β)}
    (hrequest : ∀ history result, program.IsRun history result ↔
      ∃ answer, history = [event answer] ∧ result = some answer) :
    ((liftM program : Task I α) >>= next).attempt.IsRun history result ↔
      ∃ answer rest, history = event answer :: rest ∧ (next answer).attempt.IsRun rest result := by
  rw [isRun_liftM_bind_iff_of_gives hrequest]
  constructor
  · rintro ⟨answer, _, rest, rfl, rfl, hrest⟩
    exact ⟨answer, rest, rfl, hrest⟩
  · rintro ⟨answer, rest, rfl, hrest⟩
    exact ⟨answer, [event answer], rest, rfl, rfl, hrest⟩

theorem isRun_liftM_bind {program : Program I α} {next : α → Task I β} {before after : History I}
    {value : α} {result : Option (Except Failure β)} (hfirst : program.IsRun before (some value))
    (hrest : (next value).attempt.IsRun after result) :
    ((liftM program : Task I α) >>= next).attempt.IsRun (before ++ after) result :=
  isRun_liftM_bind_iff.2 (.inl ⟨value, before, after, rfl, hfirst, hrest⟩)

theorem isRun_ofSystem_iff {program : Program I (Except Host.SystemError α)}
    {history : History I} {result : Option (Except Failure α)} :
    (Task.ofSystem program).attempt.IsRun history result ↔
      ∃ found, program.IsRun history found ∧
        result = found.map (Except.mapError Failure.system) := by
  unfold Task.ofSystem
  rw [attempt_of, Program.isRun_map_iff]

/-- An activity around the failure of a task leaves its runs as they are. -/
theorem isRun_within_iff {activity : Activity} {task : Task I α} {history : History I}
    {result : Option (Except Failure α)} :
    (Task.within activity task).attempt.IsRun history result ↔
      ∃ inner, task.attempt.IsRun history inner ∧
        result = inner.map (Except.mapError (Failure.within activity)) := by
  have hwithin : (Task.within activity task).attempt =
      task.attempt.bind fun inner ↦ .done (inner.mapError (.within activity)) := by
    unfold Task.within
    rw [attempt_of]
    congr 1
    funext inner
    cases inner <;> rfl
  rw [hwithin, Program.isRun_map_iff]

/-- An activity leaves the runs that succeed as they are. -/
theorem isRun_within_ok_iff {activity : Activity} {task : Task I α} {history : History I}
    {value : α} : (Task.within activity task).attempt.IsRun history (some (.ok value)) ↔
      task.attempt.IsRun history (some (.ok value)) := by
  rw [isRun_within_iff]
  constructor
  · rintro ⟨_ | failure | other, hinner, hequal⟩
    · cases hequal
    · cases hequal
    · cases hequal
      exact hinner
  · intro hinner
    exact ⟨_, hinner, rfl⟩

/-- An activity stands around each failure. -/
theorem isRun_within_error_iff {activity : Activity} {task : Task I α} {history : History I}
    {failure : Failure} :
    (Task.within activity task).attempt.IsRun history (some (.error failure)) ↔
      ∃ inner, failure = .within activity inner ∧
        task.attempt.IsRun history (some (.error inner)) := by
  rw [isRun_within_iff]
  constructor
  · rintro ⟨_ | inner | other, hinner, hequal⟩
    · cases hequal
    · cases hequal
      exact ⟨inner, rfl, hinner⟩
    · cases hequal
  · rintro ⟨inner, rfl, hinner⟩
    exact ⟨_, hinner, rfl⟩

theorem isRun_within_none_iff {activity : Activity} {task : Task I α} {history : History I} :
    (Task.within activity task).attempt.IsRun history none ↔ task.attempt.IsRun history none := by
  rw [isRun_within_iff]
  constructor
  · rintro ⟨inner, hinner, hequal⟩
    rwa [← Option.map_eq_none_iff.1 hequal.symm]
  · intro hinner
    exact ⟨none, hinner, rfl⟩

end Task

end MicroVm

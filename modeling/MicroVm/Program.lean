import MicroVm.Failure

/-!
# Programs that ask

A program asks its surroundings for one thing after another, and each request has answers of a
type of its own. What a program does is thus a value: it can be run against any surroundings, step
by step, and every pattern of answers is a run. A program that halts has crashed and gives no
result at all.
-/

namespace MicroVm

structure Interface where
  Request : Type
  Answer : Request → Type

def Interface.both (I J : Interface) : Interface where
  Request := I.Request ⊕ J.Request
  Answer
    | .inl request => I.Answer request
    | .inr request => J.Answer request

/-- A program that asks surroundings of the given interface. -/
inductive Program (I : Interface) (α : Type) where
  | done (value : α)
  | halt
  | ask (request : I.Request) (next : I.Answer request → Program I α)

namespace Program

variable {I J : Interface} {α β σ : Type}

protected def bind : Program I α → (α → Program I β) → Program I β
  | .done value, continuation => continuation value
  | .halt, _ => .halt
  | .ask request next, continuation =>
    .ask request fun answer ↦ (next answer).bind continuation

instance : Monad (Program I) where
  pure := .done
  bind := .bind

theorem bind_eq (program : Program I α) (continuation : α → Program I β) :
    program >>= continuation = program.bind continuation := rfl

@[simp]
theorem done_bind (value : α) (continuation : α → Program I β) :
    (Program.done value).bind continuation = continuation value := rfl

@[simp]
theorem halt_bind (continuation : α → Program I β) :
    (Program.halt : Program I α).bind continuation = .halt := rfl

@[simp]
theorem ask_bind (request : I.Request) (next : I.Answer request → Program I α)
    (continuation : α → Program I β) :
    (Program.ask request next).bind continuation =
      .ask request fun answer ↦ (next answer).bind continuation := rfl

theorem bind_done (program : Program I α) : program.bind .done = program := by
  induction program with
  | done => rfl
  | halt => rfl
  | ask request next ih => simp only [ask_bind, ih]

theorem bind_assoc {γ : Type} (program : Program I α) (f : α → Program I β)
    (g : β → Program I γ) :
    (program.bind f).bind g = program.bind fun value ↦ (f value).bind g := by
  induction program with
  | done => rfl
  | halt => rfl
  | ask request next ih => simp only [ask_bind, ih]

instance : LawfulMonad (Program I) :=
  LawfulMonad.mk' (Program I)
    (fun program ↦ bind_done program)
    (fun _ _ ↦ rfl)
    (fun program f g ↦ bind_assoc program f g)

def perform (request : I.Request) : Program I (I.Answer request) := .ask request .done

/-- Answers each request by a program of another interface. -/
def expand (answer : (request : I.Request) → Program J (I.Answer request)) :
    Program I α → Program J α
  | .done value => .done value
  | .halt => .halt
  | .ask request next => (answer request).bind fun found ↦ (next found).expand answer

/-- A program that asks only the first of two surroundings. -/
def left (program : Program I α) : Program (I.both J) α :=
  program.expand fun request ↦ perform (I := I.both J) (.inl request)

/-- A program that asks only the second of two surroundings. -/
def right (program : Program J α) : Program (I.both J) α :=
  program.expand fun request ↦ perform (I := I.both J) (.inr request)

end Program

/-- Surroundings with a state, which give an answer to every request. -/
abbrev Handler (I : Interface) (σ : Type) :=
  (request : I.Request) → σ → I.Answer request × σ

namespace Program

variable {I : Interface} {α β σ : Type}

/-- Runs a program against surroundings. There is no result when the program halts. -/
def run (handler : Handler I σ) : Program I α → σ → Option α × σ
  | .done value, state => (some value, state)
  | .halt, state => (none, state)
  | .ask request next, state =>
    let (answer, state) := handler request state
    run handler (next answer) state

@[simp]
theorem run_done (handler : Handler I σ) (value : α) (state : σ) :
    (Program.done value).run handler state = (some value, state) := rfl

@[simp]
theorem run_halt (handler : Handler I σ) (state : σ) :
    (Program.halt : Program I α).run handler state = (none, state) := rfl

@[simp]
theorem run_ask (handler : Handler I σ) (request : I.Request)
    (next : I.Answer request → Program I α) (state : σ) :
    (Program.ask request next).run handler state =
      (next (handler request state).1).run handler (handler request state).2 := rfl

theorem run_bind (handler : Handler I σ) (program : Program I α) (f : α → Program I β)
    (state : σ) :
    (program.bind f).run handler state =
      match program.run handler state with
      | (some value, state) => (f value).run handler state
      | (none, state) => (none, state) := by
  induction program generalizing state with
  | done => rfl
  | halt => rfl
  | ask request next ih => simp only [ask_bind, run_ask, ih]

end Program

/-- A program that gives a result or a failure. -/
abbrev Task (I : Interface) (α : Type) := ExceptT Failure (Program I) α

namespace Task

variable {I J : Interface} {α : Type}

def of (program : Program I (Except Failure α)) : Task I α := ExceptT.mk program

def attempt (task : Task I α) : Program I (Except Failure α) := task.run

def fail (cause : Cause) : Task I α := of (.done (.error (.cause cause)))

def crash : Task I α := of .halt

def within (activity : Activity) (task : Task I α) : Task I α :=
  of (task.attempt.bind fun
    | .ok value => .done (.ok value)
    | .error inner => .done (.error (.within activity inner)))

def ofSystem (program : Program I (Except Host.SystemError α)) : Task I α :=
  of (program.bind fun result ↦ .done (result.mapError .system))

def ofExcept (result : Except Failure α) : Task I α := of (.done result)

def expand (answer : (request : I.Request) → Program J (I.Answer request)) (task : Task I α) :
    Task J α := of (task.attempt.expand answer)

end Task

end MicroVm

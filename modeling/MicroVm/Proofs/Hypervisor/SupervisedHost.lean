import MicroVm.Proofs.Hypervisor.BootProtocol

/-!
# A supervisor on its host

The process of the hypervisor may end at any time once it was started, and signals may come at any
time and wait in a queue. Apart from that the host gives any answers: the process may end early, the
socket may never come, a call may be refused or lost. Whatever of this happens, a boot that is not
completed leaves no process behind, and one that is completed leaves every signal to the listener.
-/

namespace MicroVm.Hypervisor

open MicroVm.Host

/-- The process that a supervisor starts. -/
inductive Child
  | absent
  | running
  | ended (status : ExitStatus)
  deriving DecidableEq

/-- A host as far as a supervisor depends on it. -/
structure GuestHost where
  child : Child
  /-- All signals that have come. -/
  arrived : List ShutdownSignal
  /-- The signals that wait. -/
  queue : List ShutdownSignal
  deriving DecidableEq

namespace GuestHost

/-- What happens by itself: the process may end, and signals may come. -/
structure Passes (host later : GuestHost) : Prop where
  child : later.child = host.child ∨ host.child = .running ∧ ∃ status, later.child = .ended status
  signals : ∃ came, later.arrived = host.arrived ++ came ∧ later.queue = host.queue ++ came

/-- Whether the first signal of the queue is taken. -/
structure Takes (signal : ShutdownSignal) (host later : GuestHost) : Prop where
  child : later.child = host.child
  arrived : later.arrived = host.arrived
  queue : host.queue = signal :: later.queue

/-- Whether the listener has taken signals from the queue. -/
structure Heeds (host later : GuestHost) : Prop where
  child : later.child = host.child
  arrived : later.arrived = host.arrived
  queue : later.queue <:+ host.queue

/-- What an answer says of the host and does to it. A process can only be killed in vain when it
does not run. -/
def Answers (host : GuestHost) :
    (request : ProcessRequest) → request.Answer → GuestHost → Prop
  | .spawn _ _, .ok (), later => later = { host with child := .running }
  | .pollExit, .ok (some status), later => host.child = .ended status ∧ later = host
  | .pollExit, .ok none, later => host.child = .running ∧ later = host
  | .takeSignal, some signal, later => Takes signal host later
  | .takeSignal, none, later => host.queue = [] ∧ later = host
  | .pause _, .interrupted signal, later => Takes signal host later
  | .put _, .interrupted signal, later => Takes signal host later
  | .kill, .ok (), later => ∃ status, later = { host with child := .ended status }
  | .kill, .error _, later => host.child ≠ .running ∧ later = host
  | .listen _, (), later => Heeds host later
  | .awaitExit, .ok status, later => host.child = .ended status ∧ Heeds host later
  | .awaitExit, .error _, later => Heeds host later
  | .stopListening, (), later => Heeds host later
  | _, _, later => later = host

/-- How a host behaves: things happen by themselves before and after each answer. -/
def conduct : Conduct Process GuestHost := fun _ host request answer after ↦
  ∃ between later, Passes host between ∧ Answers between request answer later ∧ Passes later after

/-- Whether an event starts or kills the process. -/
def Touches : Event Process → Prop
  | ⟨.spawn _ _, answer⟩ => answer = .ok ()
  | ⟨.kill, _⟩ => True
  | _ => False

/-- Whether the listener may take signals in an event. -/
def Listens : Event Process → Prop
  | ⟨.listen _, _⟩ => True
  | ⟨.awaitExit, _⟩ => True
  | ⟨.stopListening, _⟩ => True
  | _ => False

/-! ## One event -/

section Steps

variable {host later after : GuestHost} {request : ProcessRequest} {answer : request.Answer}
  {past : History Process} {event : Event Process} {signal : ShutdownSignal}

/-- What an event leaves as it is, and what it takes from the queue. -/
structure Steps (event : Event Process) (host later : GuestHost) : Prop where
  child : Touches event ∨ later.child = host.child
  arrived : later.arrived = host.arrived
  queue : Listens event ∨ host.queue = (takenSignal? event).toList ++ later.queue

theorem Steps.refl (htaken : takenSignal? event = none) : Steps event host host :=
  ⟨.inr rfl, rfl, .inr (by rw [htaken]; rfl)⟩

theorem Takes.steps (htakes : Takes signal host later) (htaken : takenSignal? event = some signal) :
    Steps event host later :=
  ⟨.inr htakes.child, htakes.arrived, .inr (by rw [htaken, htakes.queue]; rfl)⟩

theorem Heeds.steps (hheeds : Heeds host later) (hlistens : Listens event) :
    Steps event host later :=
  ⟨.inr hheeds.child, hheeds.arrived, .inl hlistens⟩

/-- An answer does no more than what the event stands for. -/
theorem Answers.steps (hanswers : Answers host request answer later) :
    Steps ⟨request, answer⟩ host later := by
  cases request with
  | file => exact hanswers ▸ .refl rfl
  | openLog => exact hanswers ▸ .refl rfl
  | spawn =>
    match answer, hanswers with
    | .error _, hlater => exact hlater ▸ .refl rfl
    | .ok (), hlater => exact hlater ▸ ⟨.inl rfl, rfl, .inr rfl⟩
  | pollExit =>
    match answer, hanswers with
    | .error _, hlater => exact hlater ▸ .refl rfl
    | .ok none, ⟨_, hlater⟩ => exact hlater ▸ .refl rfl
    | .ok (some _), ⟨_, hlater⟩ => exact hlater ▸ .refl rfl
  | takeSignal =>
    match answer, hanswers with
    | none, ⟨_, hlater⟩ => exact hlater ▸ .refl rfl
    | some _, htakes => exact Takes.steps htakes rfl
  | pause =>
    match answer, hanswers with
    | .finished _, hlater => exact hlater ▸ .refl rfl
    | .interrupted _, htakes => exact Takes.steps htakes rfl
  | put =>
    match answer, hanswers with
    | .finished _, hlater => exact hlater ▸ .refl rfl
    | .interrupted _, htakes => exact Takes.steps htakes rfl
  | kill =>
    match answer, hanswers with
    | .error _, ⟨_, hlater⟩ => exact hlater ▸ .refl rfl
    | .ok (), ⟨_, hlater⟩ => exact hlater ▸ ⟨.inl trivial, rfl, .inr rfl⟩
  | listen => exact Heeds.steps hanswers trivial
  | awaitExit =>
    match answer, hanswers with
    | .error _, hheeds => exact Heeds.steps hheeds trivial
    | .ok _, ⟨_, hheeds⟩ => exact Heeds.steps hheeds trivial
  | stopListening => exact Heeds.steps hanswers trivial

end Steps

/-! ## Runs -/

section Runs

variable {host after : GuestHost} {past history : History Process}

end Runs

end GuestHost

/-! ## Boots on a host -/

namespace Supervision

open GuestHost

variable {s : Supervision} {config : BootConfig} {history : History Process}
  {outcome result : Except Failure Unit} {failure : Failure} {start host after : GuestHost}
  {past : History Process} {event : Event Process}

theorem IsAside.not_listens (haside : IsAside event) : ¬ Listens event := by
  cases haside <;> exact id

theorem Looks.not_listens {looks : ℕ} (hlooks : s.Looks looks history result) :
    ∀ event ∈ history, ¬ Listens event := by
  induction hlooks with
  | again _ ih => simpa [Listens] using ih
  | _ => simp [Listens]

theorem Puts.not_listens {calls : List Call} (hputs : Puts calls history result) :
    ∀ event ∈ history, ¬ Listens event := by
  induction hputs with
  | accepted _ _ ih => simpa [Listens] using ih
  | _ => simp [Listens]

theorem Starts.not_listens (hstart : s.Starts history result) :
    ∀ event ∈ history, ¬ Listens event := by
  cases hstart with
  | failed _ haside => exact fun event hevent ↦ (haside event hevent).not_listens
  | started haside =>
    exact List.forall_mem_append.2 ⟨fun event hevent ↦ (haside event hevent).not_listens,
      List.forall_mem_singleton.2 id⟩

theorem RunsUp.not_listens (hup : s.RunsUp config history result) :
    ∀ event ∈ history, ¬ Listens event := by
  cases hup with
  | socketless hlooks => exact hlooks.not_listens
  | asked hlooks hputs => exact List.forall_mem_append.2 ⟨hlooks.not_listens, hputs.not_listens⟩

/-- Nothing that belongs to a boot starts the listener. -/
theorem Boots.not_listens (hboots : s.Boots config history outcome) :
    ∀ event ∈ history, ¬ Listens event := by
  cases hboots with
  | interrupted => exact List.forall_mem_singleton.2 id
  | unstarted hstart => exact List.forall_mem_cons.2 ⟨id, hstart.not_listens⟩
  | failed hstart hup =>
    exact List.forall_mem_cons.2 ⟨id, List.forall_mem_append.2 ⟨hstart.not_listens,
      List.forall_mem_append.2 ⟨hup.not_listens, List.forall_mem_singleton.2 id⟩⟩⟩
  | booted hstart hup =>
    exact List.forall_mem_cons.2 ⟨id, List.forall_mem_append.2 ⟨hstart.not_listens,
      hup.not_listens⟩⟩

/-- The events after a boot that is completed. -/
def ending (s : Supervision) (awaited : Except SystemError ExitStatus)
    (cleaned : History Process) : History Process :=
  ⟨.listen s.grace, ()⟩ :: ⟨.awaitExit, awaited⟩ :: ⟨.stopListening, ()⟩ :: cleaned

section Ending

variable {awaited : Except SystemError ExitStatus} {boot cleaned : History Process}

end Ending

end Supervision

namespace Sample

open GuestHost

/-- The host with a signal that has just come. -/
def signalled (host : GuestHost) : GuestHost :=
  { host with arrived := host.arrived ++ [.terminate], queue := host.queue ++ [.terminate] }

def supervision : Supervision :=
  ⟨"firecracker", "/run/vm/firecracker.sock", "/run/vm/firecracker.log", .ofSeconds 20⟩

/-- A guest with one network card. -/
def bootConfig : BootConfig where
  kernelImage := "/var/vmlinux"
  bootArguments := "console=ttyS0"
  rootDevice := "/dev/mapper/fcspawn-abc"
  vcpus := 1
  memoryMib := 128
  nics := [⟨"vm_eth0", ⟨⟨[2, 66, 172, 17, 0, 6], rfl⟩⟩⟩]

end Sample

end MicroVm.Hypervisor

import Mathlib.Logic.Function.Basic
import MicroVm.Proofs.Storage.Operations

/-!
# Processes that share a host

Any number of processes do operations on the root devices of one host, one operation after another.
Their calls interleave in any order in which a lock is got only while nobody holds it. A process
that waits for the lock makes no step. What they do is recorded as a trace of calls, each with the
process and the operation that it is made for.
-/

namespace MicroVm.Storage

open HostDevices

/-- An operation to do, and which of its calls may fail. -/
structure Job where
  operation : Operation
  faults : FaultPattern

/-- An operation under way. -/
structure Underway where
  job : Job
  past : History Devices
  rest : Program Devices Operation.Result

/-- An operation that has returned. -/
structure Finished where
  job : Job
  history : History Devices
  result : Operation.Result

/-- A process, which has returned from some operations and may be in another one. -/
structure Process where
  finished : List Finished
  current : Option Underway

/-- A call of a process for an operation. -/
structure Call (ι : Type) where
  process : ι
  job : Job
  event : Event Devices

/-- A host with its processes. -/
structure SharedHost (ι : Type) where
  host : HostDevices
  /-- Who holds the lock at a path. -/
  holder : String → Option ι
  process : ι → Process

/-- Whether the lock is held after one more event. -/
def isHeldAfter (held : Bool) : Event Devices → Bool
  | ⟨.acquireLock _, .ok _⟩ => true
  | ⟨.releaseLock _, _⟩ => false
  | _ => held

/-- Whether the lock was got and not given back. -/
def holdsLock (past : History Devices) : Bool := past.foldl isHeldAfter false

/-- Whether a process is in an operation that holds the lock. -/
def Process.holdsLock (process : Process) : Bool :=
  process.current.any fun underway ↦ Storage.holdsLock underway.past

/-- Whether a process has come to the end of an operation, be it that it has still to return. -/
def Process.HasEnded (process : Process) (finished : Finished) : Prop :=
  finished ∈ process.finished ∨
    process.current = some ⟨finished.job, finished.history, .done finished.result⟩

theorem Process.hasEnded_iff {earlier : List Finished} {underway : Underway} {finished : Finished}
    (hrest : ∀ result, underway.rest ≠ .done result) :
    Process.HasEnded ⟨earlier, some underway⟩ finished ↔ finished ∈ earlier :=
  or_iff_left fun hcurrent ↦ hrest _ (congrArg Underway.rest (Option.some.inj hcurrent))

/-- The events of all operations of a process, in order. -/
def Process.events (process : Process) : History Devices :=
  process.finished.flatMap Finished.history ++ (process.current.map Underway.past).getD []

/-! ## Steps -/

section Steps

variable {ι : Type} [DecidableEq ι]

/-- What a call of a process does to the locks. -/
def Locking (i : ι) (holder : String → Option ι) :
    (request : DeviceRequest) → request.Answer → (String → Option ι) → Prop
  | .acquireLock path, .ok _, after =>
    holder path = none ∧ after = Function.update holder path (some i)
  | .releaseLock path, _, after =>
    after = if holder path = some i then Function.update holder path none else holder
  | _, _, after => after = holder

/-- How the host and its locks behave towards a process. -/
def sharedConduct (i : ι) (faults : FaultPattern) :
    Conduct Devices (HostDevices × (String → Option ι)) :=
  fun past before request answer after ↦
    conduct faults past before.1 request answer after.1 ∧
      Locking i before.2 request answer after.2

namespace SharedHost

/-- A host on which nobody has begun. -/
def initial (host : HostDevices) : SharedHost ι := ⟨host, fun _ ↦ none, fun _ ↦ ⟨[], none⟩⟩

/-- The host after a process has come to something. -/
def update (shared : SharedHost ι) (i : ι) (process : Process) : SharedHost ι :=
  { shared with process := Function.update shared.process i process }

/-- The host after a process has begun with a job. -/
def beginJob (shared : SharedHost ι) (i : ι) (job : Job) : SharedHost ι :=
  shared.update i ⟨(shared.process i).finished, some ⟨job, [], job.operation.program⟩⟩

/-- The host after a process has gone on with what it is in. -/
def goOn (shared : SharedHost ι) (i : ι) (underway : Underway)
    (after : HostDevices × (String → Option ι)) : SharedHost ι :=
  { shared.update i ⟨(shared.process i).finished, some underway⟩ with
    host := after.1, holder := after.2 }

/-- The host after a process has returned from what it was in. -/
def finish (shared : SharedHost ι) (i : ι) (finished : Finished) : SharedHost ι :=
  shared.update i ⟨(shared.process i).finished ++ [finished], none⟩

/-- One step of a process: it begins with a job of a kind, asks for something, or returns. -/
inductive Step (jobs : Job → Prop) : SharedHost ι → List (Call ι) → SharedHost ι → Prop
  | begins {shared : SharedHost ι} (i : ι) (job : Job) (idle : (shared.process i).current = none)
      (allowed : jobs job) : Step jobs shared [] (shared.beginJob i job)
  | asks {shared : SharedHost ι} (i : ι) {job : Job} {past : History Devices}
      {request : DeviceRequest} {next : request.Answer → Program Devices Operation.Result}
      (answer : request.Answer) (after : HostDevices × (String → Option ι))
      (underway : (shared.process i).current = some ⟨job, past, .ask request next⟩)
      (serves : sharedConduct i job.faults past (shared.host, shared.holder) request answer after) :
      Step jobs shared [⟨i, job, ⟨request, answer⟩⟩]
        (shared.goOn i ⟨job, past ++ [⟨request, answer⟩], next answer⟩ after)
  | returns {shared : SharedHost ι} (i : ι) {job : Job} {history : History Devices}
      {result : Operation.Result}
      (underway : (shared.process i).current = some ⟨job, history, .done result⟩) :
      Step jobs shared [] (shared.finish i ⟨job, history, result⟩)

/-- Whether a host can be reached by steps that leave a trace. -/
inductive Reaches (jobs : Job → Prop) (start : SharedHost ι) :
    List (Call ι) → SharedHost ι → Prop
  | start : Reaches jobs start [] start
  | step {trace calls : List (Call ι)} {shared after : SharedHost ι}
      (earlier : Reaches jobs start trace shared) (last : Step jobs shared calls after) :
      Reaches jobs start (trace ++ calls) after

variable {jobs : Job → Prop} {start shared after : SharedHost ι} {trace calls : List (Call ι)}
  {i j : ι}

@[simp]
theorem process_update_self (shared : SharedHost ι) (i : ι) (process : Process) :
    (shared.update i process).process i = process := by
  simp [update]

theorem process_update_of_ne (shared : SharedHost ι) (process : Process) (hne : j ≠ i) :
    (shared.update i process).process j = shared.process j := by
  simp [update, hne]

/-- What holds of all processes still does when one of them comes to something of which it holds. -/
theorem forall_process_update (holds : ι → Process → Prop) {process : Process}
    (hself : holds i process) (hothers : ∀ j, j ≠ i → holds j (shared.process j)) :
    ∀ j, holds j ((shared.update i process).process j) :=
  (Function.forall_update_iff shared.process holds).2 ⟨hself, hothers⟩

@[simp]
theorem process_goOn_self (shared : SharedHost ι) (i : ι) (underway : Underway)
    (after : HostDevices × (String → Option ι)) :
    (shared.goOn i underway after).process i = ⟨(shared.process i).finished, some underway⟩ :=
  process_update_self shared i _

@[simp]
theorem goOn_goOn (shared : SharedHost ι) (i : ι) (first second : Underway)
    (middle after : HostDevices × (String → Option ι)) :
    (shared.goOn i first middle).goOn i second after = shared.goOn i second after := by
  simp [goOn, update]

theorem goOn_eq_self {underway : Underway}
    (hcurrent : (shared.process i).current = some underway) :
    shared.goOn i underway (shared.host, shared.holder) = shared := by
  simp [goOn, update, ← hcurrent]

theorem Reaches.begins (hreaches : Reaches jobs start trace shared) (i : ι) (job : Job)
    (idle : (shared.process i).current = none) (allowed : jobs job) :
    Reaches jobs start trace (shared.beginJob i job) := by
  have hlater := hreaches.step (.begins i job idle allowed)
  rwa [List.append_nil] at hlater

theorem Reaches.returns {job : Job} {history : History Devices} {result : Operation.Result}
    (hreaches : Reaches jobs start trace shared) (i : ι)
    (underway : (shared.process i).current = some ⟨job, history, .done result⟩) :
    Reaches jobs start trace (shared.finish i ⟨job, history, result⟩) := by
  have hlater := hreaches.step (.returns i underway)
  rwa [List.append_nil] at hlater

/-- A process that makes some steps while the others wait. -/
theorem Reaches.alone {job : Job} {past history : History Devices}
    {program rest : Program Devices Operation.Result} {ended : HostDevices × (String → Option ι)}
    (hreaches : Reaches jobs start trace shared)
    (hcurrent : (shared.process i).current = some ⟨job, past, program⟩)
    (hleaves : program.Leaves history rest)
    (hallows : (sharedConduct i job.faults).Allows past (shared.host, shared.holder) history
      ended) :
    Reaches jobs start (trace ++ history.map (Call.mk i job))
      (shared.goOn i ⟨job, past ++ history, rest⟩ ended) := by
  induction hleaves generalizing past shared trace with
  | nil =>
    obtain rfl := Conduct.allows_nil_iff.1 hallows
    rw [List.append_nil, goOn_eq_self hcurrent]
    simpa using hreaches
  | cons answer _ ih =>
    obtain ⟨middle, hfirst, hrest⟩ := Conduct.allows_cons_iff.1 hallows
    have hlater := ih (hreaches.step (.asks i answer middle hcurrent hfirst)) (by simp) hrest
    simpa using hlater

end SharedHost

end Steps

/-! ## Holding the lock -/

section Holding

variable {operation : Operation} {past events : History Devices}
  {rest : Program Devices Operation.Result}

@[simp]
theorem holdsLock_concat (past : History Devices) (event : Event Devices) :
    holdsLock (past ++ [event]) = isHeldAfter (holdsLock past) event := by
  simp [holdsLock]

theorem isHeldAfter_eq_self {event : Event Devices} (held : Bool)
    (hevent : DeviceRequest.isLocking event.request = false) : isHeldAfter held event = held := by
  obtain ⟨request, answer⟩ := event
  cases request with
  | acquireLock | releaseLock => cases hevent
  | _ => rfl

theorem holdsLock_append (past : History Devices)
    (hevents : ∀ event ∈ events, DeviceRequest.isLocking event.request = false) :
    holdsLock (past ++ events) = holdsLock past := by
  induction events generalizing past with
  | nil => rw [List.append_nil]
  | cons event events ih =>
    obtain ⟨hfirst, hlater⟩ := List.forall_mem_cons.1 hevents
    rw [List.append_cons, ih _ hlater, holdsLock_concat, isHeldAfter_eq_self _ hfirst]

namespace Operation

theorem holdsLock_look (operation : Operation) : holdsLock operation.look = false := by
  cases operation <;> rfl

theorem holdsLock_locked (hleaves : operation.locked.Leaves events rest) :
    holdsLock (operation.look ++ operation.gotLock :: events) = true := by
  rw [List.append_cons, holdsLock_append _ (isLocking_of_leaves hleaves), holdsLock_concat]
  rfl

variable {path : String} {request : DeviceRequest}
  {next : request.Answer → Program Devices Result}

/-- An operation that waits for the lock waits for the one of its root device, and does not hold
it. -/
theorem Asking.acquire {next : Except Failure Unit → Program Devices Result}
    (hasking : Asking operation past (.acquireLock path) next) :
    path = operation.chain.lockPath ∧ holdsLock past = false := by
  cases hasking with
  | waits => exact ⟨rfl, holdsLock_look operation⟩
  | works _ leaves => exact (kind_of_leaves leaves).keepsToItself.elim

/-- An operation that gives a lock back gives the one of its root device back, and holds it. -/
theorem Asking.release {next : Unit → Program Devices Result}
    (hasking : Asking operation past (.releaseLock path) next) :
    path = operation.chain.lockPath ∧ holdsLock past = true := by
  cases hasking with
  | works _ leaves => exact (kind_of_leaves leaves).keepsToItself.elim
  | returns _ leaves => exact ⟨rfl, holdsLock_locked leaves⟩

/-- A process that makes a call on devices holds the lock. -/
theorem Asking.holdsLock (hasking : Asking operation past request next)
    (hcall : request.isDeviceCall = true) : holdsLock past = true := by
  cases hasking with
  | looks => cases hcall
  | waits => cases hcall
  | works _ leaves => exact holdsLock_locked leaves
  | returns => cases hcall

/-- An operation that has ended does not hold the lock. -/
theorem Stage.holdsLock_of_done {result : Result} (hstage : Stage operation past (.done result)) :
    holdsLock past = false := by
  generalize hdone : Program.done result = program at hstage
  cases hstage with
  | begins => rw [program_activate] at hdone; cases hdone
  | found => rfl
  | waits => cases hdone
  | refused _ failure => rw [holdsLock_concat, holdsLock_look]; rfl
  | @holds _ events rest leaves =>
    cases rest with
    | done | ask | halt => cases hdone
  | released _ leaves => rw [← List.cons_append, ← List.append_assoc, holdsLock_concat]; rfl

theorem Stage.ne_done (hstage : Stage operation past rest) (hheld : Storage.holdsLock past = true)
    (result : Result) : rest ≠ .done result := by
  rintro rfl
  rw [hstage.holdsLock_of_done] at hheld
  cases hheld

end Operation

end Holding

/-! ## Calls of one process -/

section Alone

variable {ι : Type} [DecidableEq ι] {i : ι} {faults : FaultPattern} {past events : History Devices}
  {host after : HostDevices} {holder : String → Option ι} {path : String}

/-- What a process can do on a host of its own it can do on a shared one, the locks aside. -/
theorem allows_shared (hallows : (conduct faults).Allows past host events after)
    (hevents : ∀ event ∈ events, DeviceRequest.isLocking event.request = false) :
    (sharedConduct i faults).Allows past (host, holder) events (after, holder) := by
  induction hallows with
  | nil => exact .nil _ _
  | @cons past history state middle after request answer first rest ih =>
    obtain ⟨hfirst, hlater⟩ := List.forall_mem_cons.1 hevents
    have hlocking : Locking i holder request answer holder := by
      cases request with
      | acquireLock | releaseLock => cases hfirst
      | _ => rfl
    have hserves : sharedConduct i faults past (state, holder) request answer (middle, holder) :=
      ⟨first, hlocking⟩
    exact .cons hserves (ih hlater)

/-- A process gets a lock that nobody holds. -/
theorem allows_acquire (hfree : holder path = none) :
    (sharedConduct i faults).Allows past (host, holder) [⟨.acquireLock path, .ok ()⟩]
      (host, Function.update holder path (some i)) := by
  have hserves : sharedConduct i faults past (host, holder) (.acquireLock path) (.ok ())
      (host, Function.update holder path (some i)) := ⟨rfl, hfree, rfl⟩
  exact Conduct.allows_singleton hserves

/-- The lock that a process gives back is free, as it was before. -/
theorem allows_release (hfree : holder path = none) :
    (sharedConduct i faults).Allows past (host, Function.update holder path (some i))
      [⟨.releaseLock path, ()⟩] (host, holder) := by
  have hlocking : Locking i (Function.update holder path (some i)) (.releaseLock path) ()
      holder := by
    simp [Locking, ← hfree]
  have hserves : sharedConduct i faults past (host, Function.update holder path (some i))
      (.releaseLock path) () (host, holder) := ⟨rfl, hlocking⟩
  exact Conduct.allows_singleton hserves

end Alone

/-! ## The holder of the lock -/

namespace SharedHost

variable {ι : Type} {jobs : Job → Prop} {shared after : SharedHost ι} {trace calls : List (Call ι)}
  {i j : ι} {path : String}

/-- What is known of all processes at any time. -/
structure IsCoherent (jobs : Job → Prop) (path : String) (shared : SharedHost ι) : Prop where
  leaves : ∀ i underway, (shared.process i).current = some underway →
    underway.job.operation.program.Leaves underway.past underway.rest
  allowed : ∀ i underway, (shared.process i).current = some underway → jobs underway.job
  lockPath : ∀ i underway, (shared.process i).current = some underway →
    underway.job.operation.chain.lockPath = path
  holder_iff : ∀ i, shared.holder path = some i ↔ (shared.process i).holdsLock = true

theorem IsCoherent.stage (hcoherent : IsCoherent jobs path shared) {underway : Underway}
    (hcurrent : (shared.process i).current = some underway) :
    Operation.Stage underway.job.operation underway.past underway.rest :=
  Operation.stage_of_leaves (hcoherent.leaves i underway hcurrent)

theorem isCoherent_initial (host : HostDevices) :
    IsCoherent jobs path (initial host : SharedHost ι) where
  leaves := fun _ _ hcurrent ↦ nomatch hcurrent
  allowed := fun _ _ hcurrent ↦ nomatch hcurrent
  lockPath := fun _ _ hcurrent ↦ nomatch hcurrent
  holder_iff := fun _ ↦ iff_of_false (fun hholder ↦ nomatch hholder) fun hholds ↦ nomatch hholds

/-- What an operation under way asks for next. -/
theorem IsCoherent.asking (hcoherent : IsCoherent jobs path shared) {job : Job}
    {past : History Devices} {request : DeviceRequest}
    {next : request.Answer → Program Devices Operation.Result}
    (hcurrent : (shared.process i).current = some ⟨job, past, .ask request next⟩) :
    Operation.Asking job.operation past request next :=
  (hcoherent.stage hcurrent).asking.1

theorem IsCoherent.holdsLock_eq (hcoherent : IsCoherent jobs path shared) {underway : Underway}
    (hcurrent : (shared.process i).current = some underway) :
    shared.holder path = some i ↔ Storage.holdsLock underway.past = true := by
  rw [hcoherent.holder_iff, Process.holdsLock, hcurrent]
  rfl

variable [DecidableEq ι]

/-- One process comes to something else. The lock may go to it or be given back by it. -/
theorem IsCoherent.update (hcoherent : IsCoherent jobs path shared) {process : Process}
    {host : HostDevices} {holder : String → Option ι}
    (hleaves : ∀ underway, process.current = some underway →
      underway.job.operation.program.Leaves underway.past underway.rest)
    (hallowed : ∀ underway, process.current = some underway → jobs underway.job)
    (hpath : ∀ underway, process.current = some underway →
      underway.job.operation.chain.lockPath = path)
    (hself : holder path = some i ↔ process.holdsLock = true)
    (hothers : ∀ j, j ≠ i → (holder path = some j ↔ shared.holder path = some j)) :
    IsCoherent jobs path { shared.update i process with host := host, holder := holder } := by
  constructor
  · exact forall_process_update (fun _ process ↦ ∀ underway, process.current = some underway →
      underway.job.operation.program.Leaves underway.past underway.rest) hleaves
      fun j _ ↦ hcoherent.leaves j
  · exact forall_process_update (fun _ process ↦ ∀ underway, process.current = some underway →
      jobs underway.job) hallowed fun j _ ↦ hcoherent.allowed j
  · exact forall_process_update (fun _ process ↦ ∀ underway, process.current = some underway →
      underway.job.operation.chain.lockPath = path) hpath fun j _ ↦ hcoherent.lockPath j
  · exact forall_process_update (fun j process ↦ holder path = some j ↔ process.holdsLock = true)
      hself fun j hne ↦ (hothers j hne).trans (hcoherent.holder_iff j)

/-- A call moves the lock as it changes whether the process holds it. -/
theorem IsCoherent.locking (hcoherent : IsCoherent jobs path shared) {job : Job}
    {past : History Devices} {request : DeviceRequest}
    {next : request.Answer → Program Devices Operation.Result} {answer : request.Answer}
    {holder : String → Option ι}
    (hcurrent : (shared.process i).current = some ⟨job, past, .ask request next⟩)
    (hlocking : Locking i shared.holder request answer holder) :
    (holder path = some i ↔ isHeldAfter (Storage.holdsLock past) ⟨request, answer⟩ = true) ∧
      ∀ j, j ≠ i → (holder path = some j ↔ shared.holder path = some j) := by
  have hholds := hcoherent.holdsLock_eq hcurrent
  have hasking := hcoherent.asking hcurrent
  have hpath := hcoherent.lockPath i _ hcurrent
  cases request with
  | acquireLock wanted =>
    cases answer with
    | error failure =>
      obtain rfl := hlocking
      exact ⟨hholds, fun _ _ ↦ Iff.rfl⟩
    | ok value =>
      obtain ⟨hfree, rfl⟩ := hlocking
      obtain ⟨rfl, -⟩ := hasking.acquire
      simp only at hpath
      subst hpath
      refine ⟨by simp [isHeldAfter], fun j hne ↦ ?_⟩
      simp [hfree, hne.symm]
  | releaseLock given =>
    obtain rfl := hlocking
    obtain ⟨rfl, hheld⟩ := hasking.release
    simp only at hpath
    subst hpath
    have hown := hholds.2 hheld
    refine ⟨by simp [isHeldAfter, hown], fun j hne ↦ ?_⟩
    simp [hown, hne.symm]
  | _ =>
    obtain rfl := hlocking
    exact ⟨hholds, fun _ _ ↦ Iff.rfl⟩

theorem IsCoherent.step (hcoherent : IsCoherent jobs path shared)
    (hjobs : ∀ job, jobs job → job.operation.chain.lockPath = path)
    (hstep : Step jobs shared calls after) : IsCoherent jobs path after := by
  cases hstep with
  | begins i job idle allowed =>
    refine hcoherent.update ?_ ?_ ?_ ?_ fun _ _ ↦ Iff.rfl
    · rintro _ ⟨⟩
      exact .nil _
    · rintro _ ⟨⟩
      exact allowed
    · rintro _ ⟨⟩
      exact hjobs job allowed
    · rw [hcoherent.holder_iff, Process.holdsLock, idle]
      exact Iff.rfl
  | @asks i job past request next answer ended underway serves =>
    obtain ⟨hself, hothers⟩ := hcoherent.locking underway serves.2
    refine hcoherent.update ?_ ?_ ?_ ?_ hothers
    · rintro _ ⟨⟩
      exact (hcoherent.leaves i _ underway).concat answer
    · rintro _ ⟨⟩
      exact hcoherent.allowed i ⟨job, past, .ask request next⟩ underway
    · rintro _ ⟨⟩
      exact hcoherent.lockPath i ⟨job, past, .ask request next⟩ underway
    · rw [hself, ← holdsLock_concat]
      exact Iff.rfl
  | returns i underway =>
    refine hcoherent.update ?_ ?_ ?_ ?_ fun _ _ ↦ Iff.rfl
    · exact fun _ hcurrent ↦ nomatch hcurrent
    · exact fun _ hcurrent ↦ nomatch hcurrent
    · exact fun _ hcurrent ↦ nomatch hcurrent
    · rw [hcoherent.holdsLock_eq underway, (hcoherent.stage underway).holdsLock_of_done]
      exact Iff.rfl

theorem isCoherent_of_reaches {host : HostDevices}
    (hjobs : ∀ job, jobs job → job.operation.chain.lockPath = path)
    (hreaches : Reaches jobs (initial host) trace shared) : IsCoherent jobs path shared := by
  induction hreaches with
  | start => exact isCoherent_initial host
  | step _ last ih => exact ih.step hjobs last

end SharedHost

end MicroVm.Storage

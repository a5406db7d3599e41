import Mathlib.Data.List.Forall2
import MicroVm.Proofs.Storage.CriticalSections

/-!
# Operations one after another

However the calls of the processes interleave, the host ends up as if the operations that got the
lock had been done one after another, in the order in which they got it, and each with the result
that it gave. What an operation sees before it gets the lock may be out of date by then, so an
activation that is done alone may end with its first look at the device.
-/

namespace MicroVm.Storage

open HostDevices

/-- Whether a history only looks at paths. -/
def LooksOnly (history : History Devices) : Prop :=
  ∀ event ∈ history, ∃ path, event.request = .deviceExists path

/-- The ways in which an operation uses a lock: it does not come to it, it fails to get it, it holds
it, or it has held it to the end. Before that it only looks. -/
inductive LockUse (path : String) : History Devices → Prop
  | without {history : History Devices} (looks : LooksOnly history) : LockUse path history
  | refused {history : History Devices} (looks : LooksOnly history) (failure : Failure) :
      LockUse path (history ++ [⟨.acquireLock path, .error failure⟩])
  | holds {history events : History Devices} (looks : LooksOnly history)
      (inside : ∀ event ∈ events, DeviceRequest.isLocking event.request = false) :
      LockUse path (history ++ ⟨.acquireLock path, .ok ()⟩ :: events)
  | returned {history events : History Devices} (looks : LooksOnly history)
      (inside : ∀ event ∈ events, DeviceRequest.isLocking event.request = false) :
      LockUse path
        (history ++ ⟨.acquireLock path, .ok ()⟩ :: (events ++ [⟨.releaseLock path, ()⟩]))

/-- Whether a finished operation is one of a kind, has run to its end, has got the lock once at most
and has given it back. -/
structure Finished.IsWhole (jobs : Job → Prop) (path : String) (finished : Finished) : Prop where
  allowed : jobs finished.job
  run : finished.job.operation.program.IsRun finished.history (some finished.result)
  lockUse : LockUse path finished.history
  released : holdsLock finished.history = false

/-! ## An operation done alone -/

namespace Operation

variable {operation : Operation} {past events : History Devices}
  {rest : Program Devices Result} {result : Result}

theorem looksOnly_look (operation : Operation) : LooksOnly operation.look := by
  cases operation with
  | activate chain => exact List.forall_mem_singleton.2 ⟨chain.devicePath, rfl⟩
  | deactivate => exact List.forall_mem_nil _

theorem Stage.lockUse (hstage : Stage operation past rest) :
    LockUse operation.chain.lockPath past := by
  cases hstage with
  | begins => exact .without (List.forall_mem_nil _)
  | found chain => exact .without (List.forall_mem_singleton.2 ⟨chain.devicePath, rfl⟩)
  | waits => exact .without (looksOnly_look operation)
  | refused _ failure => exact .refused (looksOnly_look operation) failure
  | holds _ leaves => exact .holds (looksOnly_look operation) (isLocking_of_leaves leaves)
  | released _ leaves => exact .returned (looksOnly_look operation) (isLocking_of_leaves leaves)

/-- After the look, an operation is all that it does under the lock. -/
theorem leaves_look (operation : Operation) :
    operation.program.Leaves operation.look
      (underLock operation.chain.lockPath operation.locked) := by
  cases operation with
  | activate chain base overlay =>
    rw [program_activate]
    exact .cons _ (.nil _)
  | deactivate chain =>
    rw [program_deactivate]
    exact .nil _

/-- What was done under the lock, with what comes before it and after it. -/
theorem isRun_of_locked (hleaves : operation.locked.Leaves events (.done result)) :
    operation.program.IsRun
      (operation.look ++ operation.gotLock :: (events ++ [operation.gaveLock]))
      (some result) := by
  have hreleased : (releasing operation.chain.lockPath result).Leaves [operation.gaveLock]
      (.done result) := .cons _ (.nil _)
  have hlocked : (underLock operation.chain.lockPath operation.locked).Leaves
      (operation.gotLock :: (events ++ [operation.gaveLock])) (.done result) :=
    .cons _ (hleaves.bind.append hreleased)
  exact (operation.leaves_look.append hlocked).isRun

/-- An activation that finds the device under the lock does nothing more. -/
theorem locked_finds_ensures {faults : FaultPattern} {host : HostDevices} {chain : Chain}
    (base overlay : String) (hthere : chain.devicePath ∈ host.nodes) :
    (locked (.activate chain base overlay)).Ensures (conduct faults) past host
      fun result later after ↦ result = .ok (some chain.devicePath) ∧
        later = past ++ [⟨.deviceExists chain.devicePath, true⟩] ∧ after = host := by
  apply Program.ensures_bind
  apply Task.ensures_liftM_bind
  apply Program.ensures_perform
  rintro (_ | _) after ⟨hfound, rfl⟩
  · exact absurd (hfound.2 hthere) Bool.false_ne_true
  · exact Program.ensures_done (Program.ensures_done ⟨rfl, rfl, rfl⟩)

/-- What was done under the lock can be done alone with the same result and the same calls, on the
host as it was when the lock was got. -/
theorem exists_alone {faults : FaultPattern} {host after : HostDevices}
    (hleaves : operation.locked.Leaves events (.done result))
    (hallows : (conduct faults).Allows (operation.look ++ [operation.gotLock]) host events after) :
    ∃ history, operation.program.IsRun history (some result) ∧
      (conduct faults).Allows [] host history after ∧
      history.filter (fun event ↦ DeviceRequest.isDeviceCall event.request) =
        events.filter (fun event ↦ DeviceRequest.isDeviceCall event.request) := by
  have hwhole (hlook : (conduct faults).Allows [] host operation.look host) :
      (conduct faults).Allows [] host
        (operation.look ++ operation.gotLock :: (events ++ [operation.gaveLock])) after := by
    refine hlook.append (.cons rfl ?_)
    exact hallows.append (Conduct.allows_singleton rfl)
  have hcalls : (operation.look ++ operation.gotLock :: (events ++ [operation.gaveLock])).filter
      (fun event ↦ DeviceRequest.isDeviceCall event.request) =
        events.filter (fun event ↦ DeviceRequest.isDeviceCall event.request) := by
    have hlook : operation.look.filter (fun event ↦ DeviceRequest.isDeviceCall event.request) =
        [] := by
      cases operation <;> rfl
    rw [List.filter_append, hlook, List.nil_append]
    simp [gotLock, gaveLock, DeviceRequest.isDeviceCall]
  cases operation with
  | deactivate chain => exact ⟨_, isRun_of_locked hleaves, hwhole (.nil _ _), hcalls⟩
  | activate chain base overlay =>
    by_cases hthere : chain.devicePath ∈ host.nodes
    · obtain ⟨_, hresult, rfl, hevents, rfl⟩ :=
        locked_finds_ensures base overlay hthere hleaves.isRun hallows
      obtain rfl := Option.some.inj hresult
      obtain rfl := List.append_cancel_left hevents
      refine ⟨[⟨.deviceExists chain.devicePath, true⟩], ?_, ?_, rfl⟩
      · exact .ask _ (.done _)
      · exact Conduct.allows_singleton ⟨iff_of_true rfl hthere, rfl⟩
    · refine ⟨_, isRun_of_locked hleaves, hwhole ?_, hcalls⟩
      exact Conduct.allows_singleton ⟨iff_of_false Bool.false_ne_true hthere, rfl⟩

end Operation

/-! ## Operations of many processes -/

/-- A whole operation done alone, for a process. -/
structure Turn (ι : Type) where
  process : ι
  job : Job
  history : History Devices
  result : Operation.Result

variable {ι : Type}

/-- Whole operations on a host, one after another, each with its own pattern of faults. -/
inductive Serial (start : HostDevices) : List (Turn ι) → HostDevices → Prop
  | start : Serial start [] start
  | step {turns : List (Turn ι)} {host after : HostDevices} (turn : Turn ι)
      (earlier : Serial start turns host)
      (run : turn.job.operation.program.IsRun turn.history (some turn.result))
      (allows : (conduct turn.job.faults).Allows [] host turn.history after) :
      Serial start (turns ++ [turn]) after

/-- Whether an operation that is done alone gives what it gives as a critical section. -/
structure CriticalSection.IsDoneAs (critical : CriticalSection ι) (turn : Turn ι) : Prop where
  process_eq : turn.process = critical.process
  job_eq : turn.job = critical.job
  result_eq : turn.result = critical.result
  calls_eq : deviceCalls (turn.history.map (Call.mk turn.process turn.job)) = critical.calls

namespace SharedHost

variable [DecidableEq ι] {jobs : Job → Prop} {path : String} {start : HostDevices}
  {shared after : SharedHost ι} {trace calls : List (Call ι)} {i : ι}

/-- Critical sections that come one after another are like whole operations that do. -/
theorem InTurn.exists_serial {sections : List (CriticalSection ι)} {host : HostDevices}
    (hturn : InTurn jobs start sections host) :
    ∃ turns, Serial start turns host ∧ List.Forall₂ CriticalSection.IsDoneAs sections turns := by
  induction hturn with
  | start => exact ⟨[], .start, .nil⟩
  | step last _ _ _ leaves allows ih =>
    obtain ⟨turns, hserial, halike⟩ := ih
    obtain ⟨history, hrun, halone, hcalls⟩ := Operation.exists_alone leaves allows
    let turn : Turn ι := ⟨last.process, last.job, history, last.result⟩
    have hlast : last.IsDoneAs turn := by
      refine ⟨rfl, rfl, rfl, ?_⟩
      rw [CriticalSection.calls, deviceCalls_map, deviceCalls_map, hcalls]
    exact ⟨turns ++ [turn], hserial.step turn hrun halone,
      List.rel_append halike (.cons hlast .nil)⟩

/-- The events of a process in a trace. -/
def eventsOf (i : ι) (trace : List (Call ι)) : History Devices :=
  (trace.filter fun call ↦ call.process = i).map Call.event

theorem eventsOf_append (trace calls : List (Call ι)) :
    eventsOf i (trace ++ calls) = eventsOf i trace ++ eventsOf i calls := by
  rw [eventsOf, List.filter_append, List.map_append]
  rfl

/-- What is known of processes on a host whose lock lies at a path. -/
structure IsSerialised (jobs : Job → Prop) (path : String) (start : HostDevices)
    (trace : List (Call ι)) (shared : SharedHost ι) : Prop where
  /-- A call that needs the lock is made by the process that holds it. -/
  byHolder : ∀ calls after, Step jobs shared calls after →
    ∀ call ∈ calls, DeviceRequest.isDeviceCall call.event.request →
      shared.holder path = some call.process
  /-- A process holds the lock from when an operation of it gets the lock to when the operation
  gives it back. -/
  holder_iff : ∀ i, shared.holder path = some i ↔ (shared.process i).holdsLock = true
  /-- The calls of a process are those of its operations, one after another. -/
  events_eq : ∀ i, eventsOf i trace = (shared.process i).events
  /-- An operation gets the lock once at most, and makes no call that needs it before that. -/
  underway : ∀ i underway, (shared.process i).current = some underway →
    underway.job.operation.program.Leaves underway.past underway.rest ∧
      LockUse path underway.past
  /-- An operation that has returned has given the lock back, with its last call. -/
  finished : ∀ i, ∀ finished ∈ (shared.process i).finished, finished.IsWhole jobs path
  /-- While nobody holds the lock, the calls that need it are those of whole critical sections in
  the order in which the lock was got, and the host is as after the operations of these, done alone
  one after another. -/
  serial : shared.holder path = none →
    ∃ (sections : List (CriticalSection ι)) (turns : List (Turn ι)),
      acquisitions trace = sections.map CriticalSection.owner ∧
      deviceCalls trace = sections.flatMap CriticalSection.calls ∧
      (∀ i, ∀ finished ∈ (shared.process i).finished,
        finished.job.operation.gotLock ∈ finished.history →
          ∃ critical ∈ sections, critical.process = i ∧ critical.finished = finished) ∧
      List.Forall₂ CriticalSection.IsDoneAs sections turns ∧ Serial start turns shared.host

theorem eventsOf_eq_of_step (hstep : Step jobs shared calls after)
    (hevents : ∀ i, eventsOf i trace = (shared.process i).events) :
    ∀ i, eventsOf i (trace ++ calls) = (after.process i).events := by
  cases hstep with
  | begins i job idle =>
    rw [List.append_nil]
    refine forall_process_update (fun j process ↦ eventsOf j trace = process.events) ?_
      fun j _ ↦ hevents j
    simp [hevents, Process.events, idle]
  | asks i answer ended underway =>
    refine forall_process_update (fun j process ↦ eventsOf j (trace ++ _) = process.events) ?_
      fun j hne ↦ ?_
    · rw [eventsOf_append, hevents]
      simp [Process.events, underway, eventsOf]
    · rw [eventsOf_append, hevents]
      simp [eventsOf, hne.symm]
  | returns i underway =>
    rw [List.append_nil]
    refine forall_process_update (fun j process ↦ eventsOf j trace = process.events) ?_
      fun j _ ↦ hevents j
    simp [hevents, Process.events, underway]

theorem finished_of_step (hcoherent : IsCoherent jobs path shared)
    (hstep : Step jobs shared calls after)
    (hfinished : ∀ i, ∀ finished ∈ (shared.process i).finished, finished.IsWhole jobs path) :
    ∀ i, ∀ finished ∈ (after.process i).finished, finished.IsWhole jobs path := by
  have hupdate (i : ι) (process : Process)
      (hself : ∀ finished ∈ process.finished, finished.IsWhole jobs path) :
      ∀ j, ∀ finished ∈ ((shared.update i process).process j).finished,
        finished.IsWhole jobs path :=
    forall_process_update (fun _ process ↦ ∀ finished ∈ process.finished,
      finished.IsWhole jobs path) hself fun j _ ↦ hfinished j
  cases hstep with
  | begins i => exact hupdate i _ (hfinished i)
  | asks i => exact hupdate i _ (hfinished i)
  | returns i underway =>
    have hstage := hcoherent.stage underway
    have huse := hstage.lockUse
    rw [hcoherent.lockPath i _ underway] at huse
    refine hupdate i _ (List.forall_mem_append.2 ⟨hfinished i, List.forall_mem_singleton.2 ?_⟩)
    exact ⟨hcoherent.allowed i _ underway, (hcoherent.leaves i _ underway).isRun, huse,
      hstage.holdsLock_of_done⟩

/-- A call on devices is made by the process that holds the lock. -/
theorem IsCoherent.byHolder (hcoherent : IsCoherent jobs path shared)
    (hstep : Step jobs shared calls after) {call : Call ι} (hmem : call ∈ calls)
    (hcall : DeviceRequest.isDeviceCall call.event.request) :
    shared.holder path = some call.process := by
  cases hstep with
  | begins => cases hmem
  | returns => cases hmem
  | asks i answer ended underway =>
    obtain rfl := List.mem_singleton.1 hmem
    exact (hcoherent.holdsLock_eq underway).2 ((hcoherent.asking underway).holdsLock hcall)

/-! ## Whole traces -/

section Reaches

variable (hreaches : Reaches jobs (initial start) trace shared)
include hreaches

theorem eventsOf_eq_of_reaches : ∀ i, eventsOf i trace = (shared.process i).events := by
  induction hreaches with
  | start => exact fun _ ↦ rfl
  | step _ last ih => exact eventsOf_eq_of_step last ih

theorem finished_of_reaches (hjobs : ∀ job, jobs job → job.operation.chain.lockPath = path) :
    ∀ i, ∀ finished ∈ (shared.process i).finished, finished.IsWhole jobs path := by
  induction hreaches with
  | start => exact fun _ ↦ List.forall_mem_nil _
  | step earlier last ih => exact finished_of_step (isCoherent_of_reaches hjobs earlier) last ih

end Reaches

/-- Processes on one host that do operations with one lock are serialised by it, whatever fails and
however their calls interleave. -/
theorem isSerialised_of_reaches (hreaches : Reaches jobs (initial start) trace shared)
    (hjobs : ∀ job, jobs job → job.operation.chain.lockPath = path) :
    IsSerialised jobs path start trace shared := by
  have hcoherent := isCoherent_of_reaches hjobs hreaches
  constructor
  · exact fun calls after hstep call hmem hcall ↦ hcoherent.byHolder hstep hmem hcall
  · exact hcoherent.holder_iff
  · exact eventsOf_eq_of_reaches hreaches
  · intro i underway hcurrent
    refine ⟨hcoherent.leaves i underway hcurrent, ?_⟩
    rw [← hcoherent.lockPath i underway hcurrent]
    exact (hcoherent.stage hcurrent).lockUse
  · exact finished_of_reaches hreaches hjobs
  · intro hfree
    cases inTurnSoFar_of_reaches hjobs hreaches with
    | free _ inTurn order together ended =>
      obtain ⟨turns, hserial, halike⟩ := inTurn.exists_serial
      refine ⟨_, turns, order, together, ?_, halike, hserial⟩
      exact fun i finished hmem ↦ ended.mem i finished (.inl hmem)
    | held _ _ _ _ holds =>
      rw [hfree] at holds
      cases holds

/-- Two processes, of which one looks at a device before the other one removes it, and returns
afterwards. -/
theorem isSerialised_look_before_removal :
    let chain : Chain := ⟨"abc", "/run/lock", 8⟩
    let removing : Job := ⟨.deactivate chain, fun _ _ ↦ False⟩
    let activating : Job := ⟨.activate chain "image" "overlay", fun _ _ ↦ False⟩
    let jobs : Job → Prop := fun job ↦ job.operation.chain.lockPath = "/run/lock"
    ∃ (start : HostDevices) (trace : List (Call (Fin 2))) (shared : SharedHost (Fin 2)),
      Reaches jobs (initial start) trace shared ∧
      IsSerialised jobs "/run/lock" start trace shared ∧
      (shared.process 0).finished = [⟨removing, Operation.removal chain, .ok none⟩] ∧
      (shared.process 1).finished =
        [⟨activating, [⟨.deviceExists chain.devicePath, true⟩], .ok (some chain.devicePath)⟩] ∧
      chain.devicePath ∉ shared.host.nodes ∧ acquisitions trace = [(0, removing)] := by
  intro chain removing activating jobs
  let start : HostDevices :=
    ⟨{chain.devicePath, chain.paddedBasePath}, fun _ ↦ none, fun _ ↦ 0, fun _ ↦ false⟩
  have hdevice : chain.devicePath ∈ start.nodes := .inl rfl
  have hpadded : chain.paddedBasePath ∈ start.nodes := .inr rfl
  have hbelow : chain.paddedBasePath ∈ (start.remove chain.devicePath).nodes :=
    ⟨hpadded, chain.devicePath_ne_paddedBasePath.symm⟩
  let after := (start.remove chain.devicePath).remove chain.paddedBasePath
  have hsees : activating.operation.program.Leaves [⟨.deviceExists chain.devicePath, true⟩]
      (.done (.ok (some chain.devicePath))) := .cons _ (.nil _)
  have hlooks : (sharedConduct (1 : Fin 2) activating.faults).Allows [] (start, fun _ ↦ none)
      [⟨.deviceExists chain.devicePath, true⟩] (start, fun _ ↦ none) :=
    Conduct.allows_singleton ⟨⟨iff_of_true rfl hdevice, rfl⟩, rfl⟩
  have hinside : (conduct removing.faults).Allows [⟨.acquireLock "/run/lock", .ok ()⟩] start
      [⟨.mappingExists (paddedBaseName chain.uid), true⟩,
        ⟨.removeMappings (chain.mappingNames true), .ok ()⟩] after := by
    refine .cons ⟨iff_of_true rfl hpadded, rfl⟩ ?_
    exact Conduct.allows_singleton (.present hdevice (.present hbelow (.nil _)))
  have hremoves : (sharedConduct (0 : Fin 2) removing.faults).Allows [] (start, fun _ ↦ none)
      (Operation.removal chain) (after, fun _ ↦ none) :=
    (allows_acquire rfl).append
      ((allows_shared hinside (by simp [DeviceRequest.isLocking])).append (allows_release rfl))
  have hstart : Reaches jobs (initial start) [] (initial start : SharedHost (Fin 2)) := .start
  have hreaches := hstart
    |>.begins 0 removing rfl rfl
    |>.begins 1 activating rfl rfl
    |>.alone rfl hsees hlooks
    |>.alone rfl (Operation.isRun_removal chain).leaves hremoves
    |>.returns 0 rfl
    |>.returns 1 rfl
  exact ⟨start, _, _, hreaches, isSerialised_of_reaches hreaches fun _ hjob ↦ hjob, rfl, rfl,
    fun hmem ↦ hmem.1.2 rfl, rfl⟩

end SharedHost

end MicroVm.Storage

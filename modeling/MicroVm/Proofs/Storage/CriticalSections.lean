import MicroVm.Proofs.Storage.SharedHost

/-!
# Critical sections

What an operation does from getting the lock to giving it back is a critical section. However the
calls of the processes interleave, critical sections come one after another: the host is always as
after whole critical sections, apart from what the holder of the lock has done by now. What the
other processes do meanwhile leaves the host and the lock as they are.
-/

namespace MicroVm.Storage

open HostDevices

variable {ι : Type}

/-! ## The record of a trace -/

/-- The calls of a trace that need the lock. -/
def deviceCalls (trace : List (Call ι)) : List (Call ι) :=
  trace.filter fun call ↦ DeviceRequest.isDeviceCall call.event.request

/-- The process that gets the lock with a call, and the job that it is for. -/
def acquisition? : Call ι → Option (ι × Job)
  | ⟨process, job, ⟨.acquireLock _, .ok _⟩⟩ => some (process, job)
  | _ => none

/-- The processes that got the lock, in order, with their jobs. -/
def acquisitions (trace : List (Call ι)) : List (ι × Job) := trace.filterMap acquisition?

@[simp]
theorem deviceCalls_append (trace calls : List (Call ι)) :
    deviceCalls (trace ++ calls) = deviceCalls trace ++ deviceCalls calls :=
  List.filter_append trace calls

theorem deviceCalls_map (i : ι) (job : Job) (history : History Devices) :
    deviceCalls (history.map (Call.mk i job)) =
      (history.filter fun event ↦ DeviceRequest.isDeviceCall event.request).map (Call.mk i job) :=
  List.filter_map

@[simp]
theorem acquisitions_append (trace calls : List (Call ι)) :
    acquisitions (trace ++ calls) = acquisitions trace ++ acquisitions calls :=
  List.filterMap_append

/-- What an operation of a process does under the lock, from getting it to giving it back. -/
structure CriticalSection (ι : Type) where
  process : ι
  job : Job
  events : History Devices
  result : Operation.Result

namespace CriticalSection

/-- The process that got the lock, with its job. -/
def owner (critical : CriticalSection ι) : ι × Job := (critical.process, critical.job)

/-- The calls that need the lock. -/
def calls (critical : CriticalSection ι) : List (Call ι) :=
  deviceCalls (critical.events.map (Call.mk critical.process critical.job))

/-- The operation as a whole. -/
def finished (critical : CriticalSection ι) : Finished where
  job := critical.job
  history := critical.job.operation.look ++
    critical.job.operation.gotLock :: (critical.events ++ [critical.job.operation.gaveLock])
  result := critical.result

end CriticalSection

namespace SharedHost

variable [DecidableEq ι] {jobs : Job → Prop} {path : String} {start : HostDevices}
  {shared after : SharedHost ι} {trace calls : List (Call ι)} {i : ι}

/-- Critical sections that come one after another. Each begins on a host that the processes reach,
which is the one that the section before it leaves. -/
inductive InTurn (jobs : Job → Prop) (start : HostDevices) :
    List (CriticalSection ι) → HostDevices → Prop
  | start : InTurn jobs start [] start
  | step {sections : List (CriticalSection ι)} {host after : HostDevices}
      (last : CriticalSection ι) (earlier : InTurn jobs start sections host)
      (allowed : jobs last.job)
      (reached : ∃ (trace : List (Call ι)) (shared : SharedHost ι),
        Reaches jobs (initial start) trace shared ∧ shared.host = host)
      (leaves : last.job.operation.locked.Leaves last.events (.done last.result))
      (allows : (conduct last.job.faults).Allows
        (last.job.operation.look ++ [last.job.operation.gotLock]) host last.events after) :
      InTurn jobs start (sections ++ [last]) after

/-- Whether critical sections are those of the operations that got the lock and gave it back. -/
structure AreEndedIn (sections : List (CriticalSection ι)) (shared : SharedHost ι) : Prop where
  mem : ∀ i finished, (shared.process i).HasEnded finished →
    finished.job.operation.gotLock ∈ finished.history →
    ∃ critical ∈ sections, critical.process = i ∧ critical.finished = finished

/-- A host that is as after whole critical sections, apart from what the holder of the lock has done
by now. -/
inductive InTurnSoFar (jobs : Job → Prop) (path : String) (start : HostDevices)
    (trace : List (Call ι)) (shared : SharedHost ι) : Prop
  | free {sections : List (CriticalSection ι)} (unheld : shared.holder path = none)
      (inTurn : InTurn jobs start sections shared.host)
      (order : acquisitions trace = sections.map CriticalSection.owner)
      (together : deviceCalls trace = sections.flatMap CriticalSection.calls)
      (ended : AreEndedIn sections shared)
  | held {sections : List (CriticalSection ι)} {middle : HostDevices} (i : ι) (job : Job)
      (events : History Devices) (rest : Program Devices Operation.Result)
      (holds : shared.holder path = some i)
      (underway : (shared.process i).current =
        some ⟨job, job.operation.look ++ job.operation.gotLock :: events, rest⟩)
      (inTurn : InTurn jobs start sections middle)
      (reached : ∃ (trace : List (Call ι)) (shared : SharedHost ι),
        Reaches jobs (initial start) trace shared ∧ shared.host = middle)
      (allows : (conduct job.faults).Allows (job.operation.look ++ [job.operation.gotLock]) middle
        events shared.host)
      (order : acquisitions trace = sections.map CriticalSection.owner ++ [(i, job)])
      (together : deviceCalls trace =
        sections.flatMap CriticalSection.calls ++ deviceCalls (events.map (Call.mk i job)))
      (ended : AreEndedIn sections shared)

/-! ## Steps -/

/-- A process comes to something else without an end of an operation that got the lock. -/
theorem AreEndedIn.update {sections : List (CriticalSection ι)} {process : Process}
    (hended : AreEndedIn sections shared) (host : HostDevices) (holder : String → Option ι)
    (hprocess : ∀ finished, process.HasEnded finished →
      finished.job.operation.gotLock ∈ finished.history →
        (shared.process i).HasEnded finished) :
    AreEndedIn sections { shared.update i process with host := host, holder := holder } := by
  refine ⟨forall_process_update (fun j process ↦ ∀ finished, process.HasEnded finished →
    finished.job.operation.gotLock ∈ finished.history →
      ∃ critical ∈ sections, critical.process = j ∧ critical.finished = finished) ?_
    fun j _ ↦ hended.mem j⟩
  intro finished hfinished hgot
  exact hended.mem i finished (hprocess finished hfinished hgot) hgot

/-- What a process does that does not hold the lock and does not get it. -/
theorem InTurnSoFar.bystander (hturn : InTurnSoFar jobs path start trace shared)
    (hother : shared.holder path ≠ some i) {process : Process}
    (hprocess : ∀ finished, process.HasEnded finished →
      finished.job.operation.gotLock ∈ finished.history → (shared.process i).HasEnded finished)
    (hacquisitions : acquisitions calls = []) (hcalls : deviceCalls calls = []) :
    InTurnSoFar jobs path start (trace ++ calls) (shared.update i process) := by
  cases hturn with
  | free unheld inTurn order together ended =>
    refine .free unheld inTurn ?_ ?_ (ended.update _ _ hprocess)
    · rw [acquisitions_append, hacquisitions, List.append_nil, order]
    · rw [deviceCalls_append, hcalls, List.append_nil, together]
  | held holder job events rest holds underway inTurn reached allows order together ended =>
    have hne : holder ≠ i := by
      rintro rfl
      exact hother holds
    refine .held holder job events rest holds ?_ inTurn reached allows ?_ ?_
      (ended.update _ _ hprocess)
    · rw [process_update_of_ne shared process hne, underway]
    · rw [acquisitions_append, hacquisitions, List.append_nil, order]
    · rw [deviceCalls_append, hcalls, List.append_nil, together]

/-- The lock is got. What is done under it begins with the host as it is. -/
theorem InTurnSoFar.acquire (hturn : InTurnSoFar jobs path start trace shared)
    (hreached : Reaches jobs (initial start) trace shared) (job : Job)
    {rest : Program Devices Operation.Result} (hrest : ∀ result, rest ≠ .done result)
    (hfree : shared.holder path = none) :
    InTurnSoFar jobs path start (trace ++ [⟨i, job, job.operation.gotLock⟩])
      (shared.goOn i ⟨job, job.operation.look ++ [job.operation.gotLock], rest⟩
        (shared.host, Function.update shared.holder path (some i))) := by
  cases hturn with
  | held _ _ _ _ holds =>
    rw [hfree] at holds
    cases holds
  | free unheld inTurn order together ended =>
    refine .held i job [] rest (Function.update_self ..) (by simp) inTurn ⟨trace, shared, hreached,
      rfl⟩ (.nil _ _) ?_ ?_ (ended.update _ _ ?_)
    · rw [acquisitions_append, order]
      rfl
    · rw [deviceCalls_append, together]
      rfl
    · exact fun finished hended _ ↦ .inl ((Process.hasEnded_iff hrest).1 hended)

/-- A call under the lock. -/
theorem InTurnSoFar.work (hturn : InTurnSoFar jobs path start trace shared) {job : Job}
    {events : History Devices} {request : DeviceRequest} {answer : request.Answer}
    {before rest : Program Devices Operation.Result} {host : HostDevices}
    (hrest : ∀ result, rest ≠ .done result) (holds : shared.holder path = some i)
    (hcurrent : (shared.process i).current =
      some ⟨job, job.operation.look ++ job.operation.gotLock :: events, before⟩)
    (hrequest : request.isLocking = false)
    (hserves : conduct job.faults (job.operation.look ++ job.operation.gotLock :: events)
      shared.host request answer host) :
    InTurnSoFar jobs path start (trace ++ [⟨i, job, ⟨request, answer⟩⟩])
      (shared.goOn i
        ⟨job, (job.operation.look ++ job.operation.gotLock :: events) ++ [⟨request, answer⟩], rest⟩
        (host, shared.holder)) := by
  cases hturn with
  | free unheld =>
    rw [holds] at unheld
    cases unheld
  | held holder known earlier left held underway inTurn reached allows order together ended =>
    obtain rfl := Option.some.inj (holds.symm.trans held)
    obtain hequal := Option.some.inj (hcurrent.symm.trans underway)
    obtain ⟨rfl, hpast, -⟩ := Underway.mk.inj hequal
    obtain rfl := (List.cons.inj (List.append_cancel_left hpast)).2
    refine .held i job (events ++ [⟨request, answer⟩]) rest holds (by simp) inTurn reached ?_ ?_ ?_
      (ended.update _ _ ?_)
    · refine allows.append (Conduct.allows_singleton ?_)
      rwa [List.append_assoc]
    · rw [acquisitions_append, order]
      cases request with
      | acquireLock | releaseLock => cases hrequest
      | _ => exact List.append_nil _
    · rw [deviceCalls_append, together, List.append_assoc, List.map_append, deviceCalls_append]
      rfl
    · exact fun finished hended _ ↦ .inl ((Process.hasEnded_iff hrest).1 hended)

/-- The lock is given back, which ends a critical section. -/
theorem InTurnSoFar.release (hturn : InTurnSoFar jobs path start trace shared) {job : Job}
    {events : History Devices} {before : Program Devices Operation.Result}
    {result : Operation.Result} (hallowed : jobs job) (holds : shared.holder path = some i)
    (hcurrent : (shared.process i).current =
      some ⟨job, job.operation.look ++ job.operation.gotLock :: events, before⟩)
    (hleaves : job.operation.locked.Leaves events (.done result)) :
    InTurnSoFar jobs path start (trace ++ [⟨i, job, job.operation.gaveLock⟩])
      (shared.goOn i
        ⟨job, (job.operation.look ++ job.operation.gotLock :: events) ++ [job.operation.gaveLock],
          .done result⟩ (shared.host, Function.update shared.holder path none)) := by
  cases hturn with
  | free unheld =>
    rw [holds] at unheld
    cases unheld
  | @held sections _ holder known earlier left held underway inTurn reached allows order together
      ended =>
    obtain rfl := Option.some.inj (holds.symm.trans held)
    obtain hequal := Option.some.inj (hcurrent.symm.trans underway)
    obtain ⟨rfl, hpast, -⟩ := Underway.mk.inj hequal
    obtain rfl := (List.cons.inj (List.append_cancel_left hpast)).2
    let last : CriticalSection ι := ⟨i, job, events, result⟩
    refine .free (Function.update_self ..) (inTurn.step last hallowed reached hleaves allows)
      ?_ ?_ ⟨?_⟩
    · rw [acquisitions_append, order, List.map_append]
      exact List.append_nil _
    · have hgave : deviceCalls [⟨i, job, job.operation.gaveLock⟩] = ([] : List (Call ι)) := rfl
      rw [deviceCalls_append, together, hgave, List.append_nil, List.flatMap_append,
        List.flatMap_singleton]
      rfl
    · have hearlier (j : ι) (finished : Finished) (hended : (shared.process j).HasEnded finished)
          (hgot : finished.job.operation.gotLock ∈ finished.history) :
          ∃ critical ∈ sections ++ [last], critical.process = j ∧ critical.finished = finished := by
        obtain ⟨critical, hcritical, howner⟩ := ended.mem j finished hended hgot
        exact ⟨critical, List.mem_append_left _ hcritical, howner⟩
      refine forall_process_update (fun j process ↦ ∀ finished, process.HasEnded finished →
        finished.job.operation.gotLock ∈ finished.history →
          ∃ critical ∈ sections ++ [last], critical.process = j ∧ critical.finished = finished) ?_
        fun j _ ↦ hearlier j
      rintro ⟨endedJob, history, endedResult⟩ (hmem | hdone) hgot
      · exact hearlier i _ (.inl hmem) hgot
      · obtain ⟨rfl, rfl, hresult⟩ := Underway.mk.inj (Option.some.inj hdone)
        obtain rfl := Program.done.inj hresult
        refine ⟨last, List.mem_concat_self, rfl, ?_⟩
        simp [last, CriticalSection.finished]

/-- A call that an operation makes before it has got the lock. -/
theorem InTurnSoFar.outside (hturn : InTurnSoFar jobs path start trace shared)
    (hother : shared.holder path ≠ some i) {job : Job} {past : History Devices}
    {event : Event Devices} {rest : Program Devices Operation.Result}
    (hnever : job.operation.gotLock ∉ past ++ [event])
    (hacquisitions : acquisitions [Call.mk i job event] = [])
    (hcalls : deviceCalls [Call.mk i job event] = []) :
    InTurnSoFar jobs path start (trace ++ [⟨i, job, event⟩])
      (shared.goOn i ⟨job, past ++ [event], rest⟩ (shared.host, shared.holder)) := by
  refine hturn.bystander hother ?_ hacquisitions hcalls
  rintro finished (hmem | hcurrent) hgot
  · exact .inl hmem
  · obtain ⟨hjob, hhistory, -⟩ := Underway.mk.inj (Option.some.inj hcurrent)
    rw [← hjob, ← hhistory] at hgot
    exact absurd hgot hnever

/-- A step of a process keeps the sections in turn: it opens one, goes on in the one that is open,
or closes it. -/
theorem InTurnSoFar.asks (hturn : InTurnSoFar jobs path start trace shared)
    (hreached : Reaches jobs (initial start) trace shared) (hcoherent : IsCoherent jobs path shared)
    {job : Job} {past : History Devices} {request : DeviceRequest}
    {next : request.Answer → Program Devices Operation.Result} (answer : request.Answer)
    {ended : HostDevices × (String → Option ι)}
    (hunderway : (shared.process i).current = some ⟨job, past, .ask request next⟩)
    (hserves : sharedConduct i job.faults past (shared.host, shared.holder) request answer ended) :
    InTurnSoFar jobs path start (trace ++ [⟨i, job, ⟨request, answer⟩⟩])
      (shared.goOn i ⟨job, past ++ [⟨request, answer⟩], next answer⟩ ended) := by
  obtain ⟨operation, faults⟩ := job
  obtain ⟨host, holder⟩ := ended
  obtain ⟨hserves, hlocking⟩ := hserves
  have hpath := hcoherent.lockPath i _ hunderway
  have hholds := hcoherent.holdsLock_eq hunderway
  have hlater := (hcoherent.stage hunderway).asking.2 answer
  cases hcoherent.asking hunderway with
  | looks chain base overlay =>
    obtain ⟨-, rfl⟩ := hserves
    obtain rfl := hlocking
    refine hturn.outside ?_ ?_ rfl rfl
    · rw [Ne, hholds]
      exact Bool.false_ne_true
    · intro hmem
      cases List.mem_singleton.1 hmem
  | waits =>
    cases answer with
    | error failure =>
      obtain ⟨-, rfl⟩ := hserves
      obtain rfl := hlocking
      refine hturn.outside ?_ ?_ rfl rfl
      · rw [Ne, hholds, operation.holdsLock_look]
        exact Bool.false_ne_true
      · intro hmem
        obtain hlook | hlast := List.mem_append.1 hmem
        · exact operation.gotLock_notMem_look hlook
        · cases List.mem_singleton.1 hlast
    | ok value =>
      obtain rfl := hserves
      obtain ⟨hfree, rfl⟩ := hlocking
      subst hpath
      refine hturn.acquire hreached _ (hlater.ne_done ?_) hfree
      rw [holdsLock_concat]
      rfl
  | works _ leaves =>
    have hrequest := Operation.isLocking_eq_false (Operation.kind_of_leaves leaves).keepsToItself
    have hholder : holder = shared.holder := by
      cases request with
      | acquireLock | releaseLock => cases hrequest
      | _ => exact hlocking
    subst hholder
    have hheld := Operation.holdsLock_locked leaves
    refine hturn.work (hlater.ne_done ?_) (hholds.2 hheld) hunderway hrequest hserves
    rw [holdsLock_concat, isHeldAfter_eq_self _ hrequest, hheld]
  | returns _ leaves last =>
    obtain rfl := hserves
    have hheld := hholds.2 (Operation.holdsLock_locked leaves)
    subst hpath
    simp only [Locking, hheld, if_true] at hlocking
    subst hlocking
    have hallowed := hcoherent.allowed i _ hunderway
    cases answer
    rw [last]
    exact hturn.release hallowed hheld hunderway leaves

theorem InTurnSoFar.step (hturn : InTurnSoFar jobs path start trace shared)
    (hreached : Reaches jobs (initial start) trace shared)
    (hcoherent : IsCoherent jobs path shared) (hstep : Step jobs shared calls after) :
    InTurnSoFar jobs path start (trace ++ calls) after := by
  cases hstep with
  | begins i job idle =>
    refine hturn.bystander ?_ ?_ rfl rfl
    · rw [Ne, hcoherent.holder_iff, Process.holdsLock, idle]
      exact Bool.false_ne_true
    · rintro finished (hmem | hcurrent) hgot
      · exact .inl hmem
      · rw [← (Underway.mk.inj (Option.some.inj hcurrent)).2.1] at hgot
        exact absurd hgot List.not_mem_nil
  | asks _ answer _ underway serves => exact hturn.asks hreached hcoherent answer underway serves
  | returns i underway =>
    refine hturn.bystander ?_ ?_ rfl rfl
    · rw [Ne, hcoherent.holdsLock_eq underway, (hcoherent.stage underway).holdsLock_of_done]
      exact Bool.false_ne_true
    · rintro finished (hmem | hcurrent) -
      · obtain hearlier | hlast := List.mem_append.1 hmem
        · exact .inl hearlier
        · obtain rfl := List.mem_singleton.1 hlast
          exact .inr underway
      · cases hcurrent

/-- In every state that is reached, the sections are in turn. -/
theorem inTurnSoFar_of_reaches (hjobs : ∀ job, jobs job → job.operation.chain.lockPath = path)
    (hreaches : Reaches jobs (initial start) trace shared) :
    InTurnSoFar jobs path start trace shared := by
  induction hreaches with
  | start =>
    refine .free rfl .start rfl rfl ⟨?_⟩
    rintro i finished (hmem | hcurrent) -
    · cases hmem
    · cases hcurrent
  | step earlier last ih => exact ih.step earlier (isCoherent_of_reaches hjobs earlier) last

end SharedHost

end MicroVm.Storage

import MicroVm.Proofs.Storage.Activation
import MicroVm.Proofs.Storage.Ownership
import MicroVm.Proofs.Storage.Serialisation

/-!
# Activations of one root device at the same time

Under the lock, an activation that succeeds leaves the device in place, with its filesystem grown if
there is room, and later activations leave it so. The first look at the device is made without the
lock, however. It may see a device that another activation has made but not yet finished, and when
the filesystem of that device cannot be grown then, the device is removed again.
-/

namespace MicroVm.Storage

open HostDevices

namespace Chain

variable (chain : Chain) {base overlay : String} {faults : FaultPattern}
  {past : History Devices} {host after : HostDevices}

/-- The activations of a root device whose clean-up does not fail. -/
def Activates (base overlay : String) (job : Job) : Prop :=
  job.operation = .activate chain base overlay ∧ job.faults.SparesCleanUp

variable {chain} in
theorem Activates.lockPath (job : Job) (hjob : chain.Activates base overlay job) :
    job.operation.chain.lockPath = chain.lockPath := by
  rw [hjob.1]
  rfl

/-- Whether the overlay is larger than the image. -/
def HasRoom (base overlay : String) (host : HostDevices) : Prop :=
  host.imageSectors base < host.sizes overlay

/-- What an activation under the lock leaves. -/
structure IsActivated (room : Prop) (host : HostDevices) (result : Operation.Result)
    (past : History Devices) (after : HostDevices) : Prop where
  keeps : chain.devicePath ∈ host.nodes → after = host
  there : ∀ found, result = .ok found →
    found = some chain.devicePath ∧ chain.devicePath ∈ after.nodes
  grown : chain.devicePath ∈ after.nodes →
    chain.devicePath ∈ host.nodes ∨ (room → chain.Grown past)

/-! ## Under the lock -/

theorem locked_activates (hfaults : faults.SparesCleanUp) (base overlay : String) :
    (Operation.locked (.activate chain base overlay)).Ensures (conduct faults) past host
      (chain.IsActivated (HasRoom base overlay host) host) := by
  by_cases hthere : chain.devicePath ∈ host.nodes
  · refine (Operation.locked_finds_ensures base overlay hthere).mono ?_
    rintro result past after ⟨rfl, -, rfl⟩
    refine ⟨fun _ ↦ rfl, fun found hok ↦ ?_, fun _ ↦ .inl hthere⟩
    exact ⟨(Except.ok.inj hok).symm, hthere⟩
  · apply Program.ensures_bind
    refine (chain.activateLocked_builds hfaults base overlay hthere).mono ?_
    rintro (failure | device) past after ⟨hnodes, hgrown⟩
    · have habsent : chain.devicePath ∉ after.nodes := by
        obtain hsame | hremoved := hnodes
        · rwa [hsame]
        · rw [hremoved]
          exact fun hmem ↦ hthere hmem.1
      refine Program.ensures_done ⟨fun hmem ↦ absurd hmem hthere, fun _ hok ↦ ?_, fun hmem ↦ ?_⟩
      · cases hok
      · exact absurd hmem habsent
    · obtain ⟨rfl, hnodes⟩ := hnodes
      have hmem : chain.devicePath ∈ after.nodes := by
        rw [hnodes]
        refine .inr ?_
        cases decide (host.imageSectors base < host.sizes overlay) with
        | false => exact rfl
        | true => exact .inl rfl
      refine Program.ensures_done ⟨fun hmem ↦ absurd hmem hthere, fun found hok ↦ ?_, fun _ ↦ ?_⟩
      · exact ⟨(Except.ok.inj hok).symm, hmem⟩
      · exact .inr fun hroom ↦ hgrown _ rfl (decide_eq_true hroom)

theorem not_grown_look (base overlay : String) :
    ¬ chain.Grown ((Operation.activate chain base overlay).look ++
      [(Operation.activate chain base overlay).gotLock]) := by
  intro hgrown
  obtain hlook | hgot := List.mem_append.1 hgrown
  · cases List.mem_singleton.1 hlook
  · cases List.mem_singleton.1 hgot

/-- A device that is there stays, unless its filesystem could not be grown before. -/
theorem devicePath_mem_of_serves {mayFail : Prop} {request : DeviceRequest}
    {answer : request.Answer} (hkind : chain.ActivationKind past request)
    (hloops : AttachedLoops past) (hserves : host.Serves mayFail request answer after)
    (hthere : chain.devicePath ∈ host.nodes) :
    chain.devicePath ∈ after.nodes ∨ chain.GrowthFailed past := by
  have hdetach : request ≠ .detachLoop chain.devicePath := by
    rintro rfl
    obtain ⟨number, hnode⟩ := hloops _ hkind.1
    exact chain.loopNode_ne_devicePath number hnode.symm
  have hkept (hmappings : ∀ name ∈ request.mappings, mapperPath name ≠ chain.devicePath) :
      chain.devicePath ∈ after.nodes :=
    (hserves.mem_iff hmappings chain.loopNode_ne_devicePath hdetach).2 hthere
  cases request with
  | createMapping name table =>
    cases answer with
    | error failure =>
      obtain ⟨-, rfl⟩ := hserves
      exact .inl hthere
    | ok value =>
      obtain rfl := hserves
      exact .inl (Set.mem_insert_of_mem _ hthere)
  | removeMappings names =>
    by_cases hsnapshot : snapshotName chain.uid ∈ names
    · exact .inr (hkind.2 hsnapshot)
    · refine .inl (hkept fun name hname hequal ↦ ?_)
      obtain rfl | hpadded := List.mem_cons.1 (hkind.1 hname)
      · exact hsnapshot hname
      · obtain rfl := List.mem_singleton.1 hpadded
        exact chain.devicePath_ne_paddedBasePath hequal.symm
  | _ => exact .inl (hkept (List.forall_mem_nil _))

end Chain

/-- An activation that has succeeded has seen the device with its first look or has got the lock. -/
theorem Operation.Stage.of_activated {chain : Chain} {base overlay : String}
    {past : History Devices} {found : Option String}
    (hstage : Stage (.activate chain base overlay) past (.done (.ok found))) :
    (past = [⟨.deviceExists chain.devicePath, true⟩] ∧ found = some chain.devicePath) ∨
      (Operation.activate chain base overlay).gotLock ∈ past := by
  generalize hended : Program.done (Except.ok found) = program at hstage
  cases hstage with
  | begins =>
    rw [program_activate] at hended
    cases hended
  | found =>
    cases hended
    exact .inl ⟨rfl, rfl⟩
  | waits => cases hended
  | refused => cases hended
  | holds _ leaves => exact .inr (List.mem_append_right _ List.mem_cons_self)
  | released _ leaves => exact .inr (List.mem_append_right _ List.mem_cons_self)

namespace SharedHost

variable {ι : Type} [DecidableEq ι] {chain : Chain} {base overlay : String} {start : HostDevices}
  {shared after : SharedHost ι} {trace calls : List (Call ι)} {i : ι}

/-! ## Critical sections of activations -/

omit [DecidableEq ι] in
/-- A call of a critical section is in the trace. -/
theorem event_mem_of_together {sections : List (CriticalSection ι)} {critical : CriticalSection ι}
    {event : Event Devices}
    (htogether : deviceCalls trace = sections.flatMap CriticalSection.calls)
    (hcritical : critical ∈ sections) (hmem : event ∈ critical.events)
    (hcall : DeviceRequest.isDeviceCall event.request = true) : event ∈ trace.map Call.event := by
  have hcalls : Call.mk critical.process critical.job event ∈ critical.calls :=
    List.mem_filter.2 ⟨List.mem_map_of_mem hmem, hcall⟩
  have hdevice : Call.mk critical.process critical.job event ∈ deviceCalls trace := by
    rw [htogether]
    exact List.mem_flatMap.2 ⟨critical, hcritical, hcalls⟩
  exact List.mem_map_of_mem (List.mem_of_mem_filter hdevice)

/-- What critical sections of activations leave. -/
structure AreActivated (chain : Chain) (room : Prop) (start : HostDevices)
    (sections : List (CriticalSection ι)) (host : HostDevices) : Prop where
  keeps : chain.devicePath ∈ start.nodes → chain.devicePath ∈ host.nodes
  there : ∀ critical ∈ sections, ∀ found, critical.result = .ok found →
    found = some chain.devicePath ∧ chain.devicePath ∈ host.nodes
  grown : chain.devicePath ∈ host.nodes → chain.devicePath ∈ start.nodes ∨
    (room → ∃ critical ∈ sections, chain.Grown critical.events)

/-- Whether there is room at any time. -/
def AlwaysRoom (ι : Type) [DecidableEq ι] (chain : Chain) (base overlay : String)
    (start : HostDevices) : Prop :=
  ∀ (trace : List (Call ι)) (shared : SharedHost ι),
    Reaches (chain.Activates base overlay) (initial start) trace shared →
      Chain.HasRoom base overlay shared.host

theorem InTurn.areActivated {sections : List (CriticalSection ι)} {host : HostDevices}
    (hturn : InTurn (chain.Activates base overlay) start sections host) :
    AreActivated chain (AlwaysRoom ι chain base overlay start) start sections host := by
  induction hturn with
  | start => exact ⟨id, List.forall_mem_nil _, Or.inl⟩
  | @step sections host after last _ allowed reached leaves allows ih =>
    obtain ⟨process, ⟨operation, faults⟩, events, result⟩ := last
    obtain ⟨rfl, hfaults⟩ := allowed
    obtain ⟨earlier, before, hreaches, rfl⟩ := reached
    obtain ⟨_, hresult, hactivated⟩ :=
      chain.locked_activates hfaults base overlay leaves.isRun allows
    obtain rfl := Option.some.inj hresult
    have hstays (hmem : chain.devicePath ∈ before.host.nodes) : chain.devicePath ∈ after.nodes := by
      rwa [hactivated.keeps hmem]
    constructor
    · exact fun hmem ↦ hstays (ih.keeps hmem)
    · intro critical hcritical found hok
      obtain hearlier | hlast := List.mem_append.1 hcritical
      · obtain ⟨hfound, hmem⟩ := ih.there critical hearlier found hok
        exact ⟨hfound, hstays hmem⟩
      · obtain rfl := List.mem_singleton.1 hlast
        exact hactivated.there found hok
    · intro hmem
      obtain hbefore | hgrown := hactivated.grown hmem
      · refine (ih.grown hbefore).imp_right fun hgrown hroom ↦ ?_
        obtain ⟨critical, hcritical, hgrown⟩ := hgrown hroom
        exact ⟨critical, List.mem_append_left _ hcritical, hgrown⟩
      · refine .inr fun hroom ↦ ⟨_, List.mem_concat_self, ?_⟩
        obtain houtside | hinside := List.mem_append.1 (hgrown (hroom earlier before hreaches))
        · exact absurd houtside (chain.not_grown_look base overlay)
        · exact hinside

/-! ## Devices that were seen -/

theorem events_subset {jobs : Job → Prop} (hreaches : Reaches jobs (initial start) trace shared)
    (i : ι) : (shared.process i).events ⊆ trace.map Call.event := by
  rw [← eventsOf_eq_of_reaches hreaches i]
  exact List.map_subset _ (List.filter_subset_self _)

/-- What a process has done is part of what has happened. -/
theorem past_subset {jobs : Job → Prop} {underway : Underway}
    (hreaches : Reaches jobs (initial start) trace shared)
    (hcurrent : (shared.process i).current = some underway) :
    underway.past ⊆ trace.map Call.event := by
  have hpast : (shared.process i).events =
      (shared.process i).finished.flatMap Finished.history ++ underway.past := by
    rw [Process.events, hcurrent]
    rfl
  have hevents := events_subset hreaches i
  rw [hpast] at hevents
  exact List.Subset.trans (List.subset_append_right _ _) hevents

theorem history_subset {jobs : Job → Prop} {finished : Finished}
    (hreaches : Reaches jobs (initial start) trace shared)
    (hfinished : finished ∈ (shared.process i).finished) :
    finished.history ⊆ trace.map Call.event := by
  refine List.Subset.trans (fun event hmem ↦ ?_) (events_subset hreaches i)
  exact List.mem_append_left _ (List.mem_flatMap.2 ⟨finished, hfinished, hmem⟩)

theorem attachedLoops_of_reaches {jobs : Job → Prop}
    (hreaches : Reaches jobs (initial start) trace shared) :
    ∀ i underway, (shared.process i).current = some underway → AttachedLoops underway.past := by
  induction hreaches with
  | start => exact fun _ _ hcurrent ↦ nomatch hcurrent
  | @step _ _ shared _ _ last ih =>
    have hupdate (i : ι) (process : Process)
        (hself : ∀ underway, process.current = some underway → AttachedLoops underway.past) :
        ∀ j underway, ((shared.update i process).process j).current = some underway →
          AttachedLoops underway.past :=
      forall_process_update (fun _ process ↦ ∀ underway, process.current = some underway →
        AttachedLoops underway.past) hself fun j _ ↦ ih j
    cases last with
    | begins i =>
      refine hupdate i _ ?_
      rintro _ ⟨⟩ node ⟨_, _, hmem⟩
      exact absurd hmem List.not_mem_nil
    | asks i answer ended underway serves =>
      refine hupdate i _ ?_
      rintro _ ⟨⟩
      exact (ih i _ underway).concat serves.1
    | returns i => exact hupdate i _ fun _ hcurrent ↦ nomatch hcurrent

/-- A device that is there stays through a step, unless its filesystem could not be grown. -/
theorem devicePath_mem_of_step
    (hreaches : Reaches (chain.Activates base overlay) (initial start) trace shared)
    (hstep : Step (chain.Activates base overlay) shared calls after)
    (hthere : chain.devicePath ∈ shared.host.nodes) :
    chain.devicePath ∈ after.host.nodes ∨ chain.GrowthFailed (trace.map Call.event) := by
  have hcoherent := isCoherent_of_reaches Chain.Activates.lockPath hreaches
  cases hstep with
  | begins => exact .inl hthere
  | returns => exact .inl hthere
  | @asks i job past request next answer ended underway serves =>
    have hloops := attachedLoops_of_reaches hreaches i _ underway
    obtain ⟨operation, faults⟩ := job
    obtain ⟨rfl, -⟩ := hcoherent.allowed i _ underway
    obtain ⟨hserves, -⟩ := serves
    obtain ⟨host, holder⟩ := ended
    cases hcoherent.asking underway with
    | looks =>
      obtain ⟨-, rfl⟩ := hserves
      exact .inl hthere
    | waits =>
      cases answer with
      | error failure =>
        obtain ⟨-, rfl⟩ := hserves
        exact .inl hthere
      | ok value =>
        obtain rfl := hserves
        exact .inl hthere
    | works _ leaves =>
      have hkind := Operation.kind_of_leaves leaves
      obtain hmem | ⟨failure, hfailed⟩ :=
        chain.devicePath_mem_of_serves hkind hloops hserves hthere
      · exact .inl hmem
      · exact .inr ⟨failure, past_subset hreaches underway hfailed⟩
    | returns =>
      obtain rfl := hserves
      exact .inl hthere

/-- A device that was seen is still there, unless its filesystem could not be grown. -/
theorem devicePath_mem_of_seen
    (hreaches : Reaches (chain.Activates base overlay) (initial start) trace shared)
    (hseen : (⟨.deviceExists chain.devicePath, true⟩ : Event Devices) ∈ trace.map Call.event) :
    chain.devicePath ∈ shared.host.nodes ∨ chain.GrowthFailed (trace.map Call.event) := by
  induction hreaches with
  | start => cases hseen
  | @step trace calls shared after earlier last ih =>
    have hfailed (hearlier : chain.GrowthFailed (trace.map Call.event)) :
        chain.GrowthFailed ((trace ++ calls).map Call.event) := by
      obtain ⟨failure, hmem⟩ := hearlier
      rw [List.map_append]
      exact ⟨failure, List.mem_append_left _ hmem⟩
    have hstays (hthere : chain.devicePath ∈ shared.host.nodes) :
        chain.devicePath ∈ after.host.nodes ∨
          chain.GrowthFailed ((trace ++ calls).map Call.event) :=
      (devicePath_mem_of_step earlier last hthere).imp_right hfailed
    rw [List.map_append] at hseen
    obtain hearlier | hlast := List.mem_append.1 hseen
    · obtain hthere | hgrowth := ih hearlier
      · exact hstays hthere
      · exact .inr (hfailed hgrowth)
    · cases last with
      | begins => cases hlast
      | returns => cases hlast
      | asks j answer ended underway serves =>
        cases List.mem_singleton.1 hlast
        exact hstays (serves.1.1.1 rfl)

/-! ## Activations that have returned -/

/-- Once all activations have returned, one that succeeded has given the device, and the device is
there, with its filesystem grown if it was made with room. If it is not there, then the activation
has only looked at it without the lock, and a filesystem could not be grown. -/
theorem activation_ok_of_reaches
    (hreaches : Reaches (chain.Activates base overlay) (initial start) trace shared)
    (hreturned : ∀ i, (shared.process i).current = none) {finished : Finished}
    (hfinished : finished ∈ (shared.process i).finished) {found : Option String}
    (hok : finished.result = .ok found) :
    found = some chain.devicePath ∧
      ((chain.devicePath ∈ shared.host.nodes ∧
        (chain.devicePath ∉ start.nodes → AlwaysRoom ι chain base overlay start →
          chain.Grown (trace.map Call.event))) ∨
      (chain.devicePath ∉ shared.host.nodes ∧
        finished.history = [⟨.deviceExists chain.devicePath, true⟩] ∧
        chain.GrowthFailed (trace.map Call.event))) := by
  have hcoherent := isCoherent_of_reaches Chain.Activates.lockPath hreaches
  have hfree : shared.holder chain.lockPath = none := by
    refine Option.eq_none_iff_forall_ne_some.2 fun i hholds ↦ ?_
    have hheld := (hcoherent.holder_iff i).1 hholds
    rw [Process.holdsLock, hreturned i] at hheld
    cases hheld
  cases inTurnSoFar_of_reaches Chain.Activates.lockPath hreaches with
  | held _ _ _ _ holds =>
    rw [hfree] at holds
    cases holds
  | free _ inTurn order together ended =>
    have hactivated := inTurn.areActivated
    have hthere (hmem : chain.devicePath ∈ shared.host.nodes) :
        chain.devicePath ∉ start.nodes → AlwaysRoom ι chain base overlay start →
          chain.Grown (trace.map Call.event) := by
      intro hnew hroom
      obtain ⟨critical, hcritical, hgrown⟩ := (hactivated.grown hmem).resolve_left hnew hroom
      exact event_mem_of_together together hcritical hgrown rfl
    have hwhole := finished_of_reaches hreaches Chain.Activates.lockPath i finished hfinished
    have hstage := Operation.stage_of_leaves hwhole.run.leaves
    rw [hok, hwhole.allowed.1] at hstage
    obtain ⟨hhistory, rfl⟩ | hgot := hstage.of_activated
    · refine ⟨rfl, ?_⟩
      by_cases hmem : chain.devicePath ∈ shared.host.nodes
      · exact .inl ⟨hmem, hthere hmem⟩
      · have hseen := history_subset hreaches hfinished (hhistory ▸ List.mem_singleton_self _)
        exact .inr ⟨hmem, hhistory, (devicePath_mem_of_seen hreaches hseen).resolve_left hmem⟩
    · rw [← hwhole.allowed.1] at hgot
      obtain ⟨critical, hcritical, -, hsame⟩ := ended.mem i finished (.inl hfinished) hgot
      have hresult : critical.result = .ok found := (congrArg Finished.result hsame).trans hok
      obtain ⟨hfound, hmem⟩ := hactivated.there critical hcritical found hresult
      exact ⟨hfound, .inl ⟨hmem, hthere hmem⟩⟩

/-! ## A look at an unfinished device -/

/-- An activation whose filesystem cannot be grown. -/
def failingJob (chain : Chain) : Job := ⟨.activate chain "image" "overlay", Chain.growingFails⟩

/-- Another activation of the device, of which nothing fails. -/
def lookingJob (chain : Chain) : Job := ⟨.activate chain "image" "overlay", fun _ _ ↦ False⟩

/-- What the other activation does when it finds the device at once. -/
def lookFinished (chain : Chain) : Finished :=
  ⟨lookingJob chain, [⟨.deviceExists chain.devicePath, true⟩], .ok (some chain.devicePath)⟩

/-- The second process looks at the device when the first one has made it and has not yet failed to
grow its filesystem. -/
theorem exists_unfinished_look (chain : Chain) :
    ∃ (trace : List (Call (Fin 2))) (shared : SharedHost (Fin 2)),
      Reaches (chain.Activates "image" "overlay") (initial chain.hostOfFailedGrowth) trace shared ∧
      (∀ i, (shared.process i).current = none) ∧
      lookFinished chain ∈ (shared.process 1).finished ∧
      chain.devicePath ∉ shared.host.nodes := by
  let operation := (failingJob chain).operation
  let failure : Failure := .cause .deviceInactive
  let outcome : Except Failure String := .error (.within (.growing chain.devicePath) failure)
  let unheld : String → Option (Fin 2) := fun _ ↦ none
  let held : String → Option (Fin 2) := Function.update unheld chain.lockPath (some 0)
  let making := operation.look ++ [operation.gotLock] ++ chain.makingOfFailedGrowth
  let undoing := chain.undoingOfFailedGrowth failure ++ [operation.gaveLock]
  have hdevice : chain.devicePath ∉ chain.hostOfFailedGrowth.nodes :=
    chain.devicePath_ne_paddedBasePath
  have hlook : (conduct Chain.growingFails).Allows [] chain.hostOfFailedGrowth operation.look
      chain.hostOfFailedGrowth :=
    Conduct.allows_singleton ⟨iff_of_false Bool.false_ne_true hdevice, rfl⟩
  have hmaking : (sharedConduct 0 (failingJob chain).faults).Allows []
      (chain.hostOfFailedGrowth, unheld) making (chain.hostWithDevice, held) := by
    refine ((allows_shared hlook ?_).append (allows_acquire rfl)).append
      (allows_shared chain.allows_makingOfFailedGrowth ?_)
    · exact List.forall_mem_singleton.2 rfl
    · simp [Chain.makingOfFailedGrowth, DeviceRequest.isLocking]
  have hundoing (past : History Devices) : (sharedConduct 0 (failingJob chain).faults).Allows past
      (chain.hostWithDevice, held) undoing (chain.hostAfterFailedGrowth, unheld) := by
    refine (allows_shared (chain.allows_undoingOfFailedGrowth failure) ?_).append
      (allows_release rfl)
    simp [Chain.undoingOfFailedGrowth, DeviceRequest.isLocking]
  have hfound : (sharedConduct 1 (lookingJob chain).faults).Allows []
      (chain.hostWithDevice, held) (lookFinished chain).history (chain.hostWithDevice, held) := by
    have hthere : chain.devicePath ∈ chain.hostWithDevice.nodes := .inl rfl
    refine allows_shared (Conduct.allows_singleton ⟨iff_of_true rfl hthere, rfl⟩) ?_
    exact List.forall_mem_singleton.2 rfl
  have hrun : operation.program.IsRun (making ++ undoing) (some (outcome.map some)) :=
    (chain.isRun_failedGrowth failure).bind (.done _)
  obtain ⟨rest, hleaves, hrest⟩ := hrun.exists_leaves
  have hsees : (lookingJob chain).operation.program.Leaves (lookFinished chain).history
      (.done (.ok (some chain.devicePath))) := .cons _ (.nil _)
  have hspares : FaultPattern.SparesCleanUp fun _ _ ↦ False := ⟨fun _ _ ↦ id, fun _ _ _ ↦ id⟩
  have hstart : Reaches (chain.Activates "image" "overlay") (initial chain.hostOfFailedGrowth) []
      (initial chain.hostOfFailedGrowth : SharedHost (Fin 2)) := .start
  have hreaches := hstart
    |>.begins 0 (failingJob chain) rfl ⟨rfl, Chain.sparesCleanUp_growingFails⟩
    |>.begins 1 (lookingJob chain) rfl ⟨rfl, hspares⟩
    |>.alone rfl hleaves hmaking
    |>.alone rfl hsees hfound
    |>.alone rfl hrest.leaves (hundoing _)
    |>.returns 0 rfl
    |>.returns 1 rfl
  refine ⟨_, _, hreaches, ?_, List.mem_singleton_self _, ?_⟩
  · exact Fin.forall_fin_two.2 ⟨rfl, rfl⟩
  · exact fun hmem ↦ hmem.1.1.1.2 rfl

/-- An activation that was misled by that look, and the failure that has misled it. -/
theorem activation_ok_of_unfinished_look :
    let chain : Chain := ⟨"abc", "/run/lock", 8⟩
    ∃ (trace : List (Call (Fin 2))) (shared : SharedHost (Fin 2)),
      Reaches (chain.Activates "image" "overlay") (initial chain.hostOfFailedGrowth) trace shared ∧
      (∀ i, (shared.process i).current = none) ∧
      lookFinished chain ∈ (shared.process 1).finished ∧
      chain.GrowthFailed (trace.map Call.event) := by
  intro chain
  obtain ⟨trace, shared, hreaches, hreturned, hfinished, habsent⟩ := exists_unfinished_look chain
  obtain ⟨-, hthere | hmisled⟩ := activation_ok_of_reaches hreaches hreturned hfinished rfl
  · exact absurd hthere.1 habsent
  · exact ⟨trace, shared, hreaches, hreturned, hfinished, hmisled.2.2⟩

/-- An activation can succeed although its device is not there once all have returned. -/
theorem activation_ok_without_device :
    let chain : Chain := ⟨"abc", "/run/lock", 8⟩
    Machine.checkUid chain.uid = .ok () ∧
    ∃ (start : HostDevices) (trace : List (Call (Fin 2))) (shared : SharedHost (Fin 2)),
      Reaches (chain.Activates "image" "overlay") (initial start) trace shared ∧
      (∀ i, (shared.process i).current = none) ∧
      (∃ finished ∈ (shared.process 1).finished, finished.result = .ok (some chain.devicePath)) ∧
      chain.devicePath ∉ shared.host.nodes := by
  intro chain
  obtain ⟨trace, shared, hreaches, hreturned, hfinished, habsent⟩ := exists_unfinished_look chain
  exact ⟨by decide, _, trace, shared, hreaches, hreturned, ⟨_, hfinished, rfl⟩, habsent⟩

end SharedHost

end MicroVm.Storage

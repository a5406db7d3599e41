import MicroVm.Proofs.Program.Heeding
import MicroVm.Proofs.Storage.Stacking

/-!
# The steps of an activation

Some requests of an activation have to succeed, and the failure of the activation is that of the
first one that does not, with what was being done put around it. The other requests are best effort.
The filesystem is checked before it is grown, and loops are detached and mappings rolled back when
the outcome stands already. Removing a mapping is a step of the building as long as no mapping was
to be made, and a rollback after that. An activation heeds the answers to its steps and ignores the
others, and once it has begun to take things away again it heeds none.
-/

namespace MicroVm.Storage

/-! ## Steps and best effort -/

/-- Whether a request is made for its effect only. -/
def IsBestEffort (before : History Devices) : DeviceRequest → Prop
  | .checkFilesystem _ => True
  | .detachLoop _ => True
  | .removeMappings _ => MappingAttempted before
  | _ => False

/-- Whether nothing depends on the answer to a request. -/
def IsIgnored (before : History Devices) (request : DeviceRequest) : Prop :=
  IsBestEffort before request ∨ ∃ path, request = .releaseLock path

/-- Whether a request takes away what the activation has made. -/
def Undoes (before : History Devices) (request : DeviceRequest) : Prop :=
  IsBestEffort before request ∧ ∀ device, request ≠ .checkFilesystem device

/-- Whether an event is a step that fails, and with which failure the activation ends then. -/
inductive FailsStep (before : History Devices) : Event Devices → Failure → Prop
  | lock {path : String} {failure : Failure} :
      FailsStep before ⟨.acquireLock path, .error failure⟩ failure
  | image {path : String} (hblock : ⟨.isBlockDevice path, true⟩ ∈ before) :
      FailsStep before ⟨.deviceExists path, false⟩ (.cause (.noBlockDevice path))
  | attaching {file : String} {readOnly : Bool} {failure : Failure} :
      FailsStep before ⟨.attachLoop file readOnly, .error failure⟩
        (.within (.attachingLoop file) failure)
  | measuring {node : String} {failure : Failure} :
      FailsStep before ⟨.sizeSectors node, .error failure⟩ failure
  | comparing {base overlay : String} {baseSectors overlaySectors : Nat}
      (hbase : before.getLast? = some ⟨.sizeSectors base, .ok baseSectors⟩)
      (hsmall : overlaySectors < baseSectors) :
      FailsStep before ⟨.sizeSectors overlay, .ok overlaySectors⟩
        (.cause (.overlayTooSmall overlaySectors baseSectors))
  | clearing {names : List String} {failure : Failure} (hnone : ¬ MappingAttempted before) :
      FailsStep before ⟨.removeMappings names, .error failure⟩ (.within .removingStaleBase failure)
  | creating {name table : String} {failure : Failure} :
      FailsStep before ⟨.createMapping name table, .error failure⟩
        (.within (.creatingMapping name) failure)
  | growing {device : String} {failure : Failure} :
      FailsStep before ⟨.growFilesystem device, .error failure⟩ (.within (.growing device) failure)

/-- Whether a step has failed. -/
def HasFailed (past : History Devices) : Prop :=
  Happens (fun before event ↦ ∃ failure, FailsStep before event failure) past

/-- Whether the first step that has failed gives a certain failure. -/
def FailsFirst (failure : Failure) (past : History Devices) : Prop :=
  Happens (fun before event ↦ ¬ HasFailed before ∧ FailsStep before event failure) past

/-- Whether something that the activation has made was taken away again. -/
def HasUndone (past : History Devices) : Prop :=
  Happens (fun before event ↦ Undoes before event.request) past

/-- Whether an activation is still at building. -/
structure IsBuilding (past : History Devices) : Prop where
  not_failed : ¬ HasFailed past
  not_undone : ¬ HasUndone past

/-- The requests whose answers an activation goes on from. -/
def IsStep (past : History Devices) (request : DeviceRequest) : Prop :=
  ¬ IsBestEffort past request ∧ ¬ HasUndone past

/-- Whether a request comes before sizes are compared and mappings are made. -/
def DeviceRequest.prepares : DeviceRequest → Bool
  | .sizeSectors _ => false
  | .createMapping _ _ => false
  | _ => true

/-- Whether an activation is still at preparing the devices to build on. -/
structure IsPreparing (past : History Devices) : Prop extends IsBuilding past where
  prepares : ∀ event ∈ past, DeviceRequest.prepares event.request = true

/-- Whether a part of an activation has come to its end and left a condition, or fails as the first
step that has failed. -/
def LeavesOrFails {α : Type} (holds : History Devices → Prop) (result : Except Failure α)
    (past : History Devices) : Prop :=
  match result with
  | .ok _ => holds past
  | .error failure => FailsFirst failure past

/-- Whether a result is that of the steps: a success when none has failed, or the failure of the
first one that has. -/
def IsResultOf {α : Type} : Except Failure α → History Devices → Prop :=
  LeavesOrFails fun past ↦ ¬ HasFailed past

section Steps

variable {past : History Devices} {event : Event Devices}

theorem isPreparing_nil : IsPreparing [] where
  not_failed := not_happens_nil
  not_undone := not_happens_nil
  prepares _ hmem := absurd hmem List.not_mem_nil

theorem not_hasFailed_concat (hpast : ¬ HasFailed past)
    (hsucceeds : ∀ failure, ¬ FailsStep past event failure) : ¬ HasFailed (past ++ [event]) := by
  intro hfailed
  obtain hearlier | ⟨failure, hfails⟩ := happens_concat_iff.1 hfailed
  · exact hpast hearlier
  · exact hsucceeds failure hfails

/-- A build goes on with a step that does not fail and undoes nothing. -/
theorem IsBuilding.concat (hpast : IsBuilding past)
    (hsucceeds : ∀ failure, ¬ FailsStep past event failure)
    (hkeeps : ¬ Undoes past event.request) : IsBuilding (past ++ [event]) where
  not_failed := not_hasFailed_concat hpast.not_failed hsucceeds
  not_undone := by
    intro hundone
    obtain hearlier | hundoes := happens_concat_iff.1 hundone
    · exact hpast.not_undone hearlier
    · exact hkeeps hundoes

theorem IsPreparing.concat (hpast : IsPreparing past)
    (hsucceeds : ∀ failure, ¬ FailsStep past event failure)
    (hkeeps : ¬ Undoes past event.request)
    (hprepares : DeviceRequest.prepares event.request = true) : IsPreparing (past ++ [event]) where
  toIsBuilding := hpast.toIsBuilding.concat hsucceeds hkeeps
  prepares := List.forall_mem_append.2 ⟨hpast.prepares, List.forall_mem_singleton.2 hprepares⟩

/-- A step that fails while building goes on is the first to fail. -/
theorem IsBuilding.failsFirst (hpast : IsBuilding past) {failure : Failure}
    (hfails : FailsStep past event failure) : FailsFirst failure (past ++ [event]) :=
  happens_concat ⟨hpast.not_failed, hfails⟩

theorem IsBuilding.isStep (hpast : IsBuilding past) {request : DeviceRequest}
    (hrequest : ¬ IsBestEffort past request) : IsStep past request :=
  ⟨hrequest, hpast.not_undone⟩

theorem not_mappingAttempted_concat (hpast : ¬ MappingAttempted past)
    (hother : ∀ name table, event.request ≠ .createMapping name table) :
    ¬ MappingAttempted (past ++ [event]) := by
  rintro ⟨found, hmem, name, table, hrequest⟩
  obtain hearlier | hlast := List.mem_append.1 hmem
  · exact hpast ⟨found, hearlier, name, table, hrequest⟩
  · obtain rfl := List.mem_singleton.1 hlast
    exact hother name table hrequest

/-- As long as devices are prepared, no mapping has been attempted. -/
theorem IsPreparing.not_mappingAttempted (hpast : IsPreparing past) : ¬ MappingAttempted past := by
  rintro ⟨found, hmem, name, table, hrequest⟩
  have hprepares := hpast.prepares found hmem
  rw [hrequest] at hprepares
  cases hprepares

/-- The first size is not compared with one before it. -/
theorem IsPreparing.not_failsStep_size (hpast : IsPreparing past) {node : String} {size : Nat}
    (failure : Failure) : ¬ FailsStep past ⟨.sizeSectors node, .ok size⟩ failure := by
  rintro ⟨⟩
  next hbase _ =>
    have hprepares := hpast.prepares _ (List.mem_of_getLast? hbase)
    cases hprepares

/-- What comes after the result stands does not change it. -/
theorem IsResultOf.concat {α : Type} {result : Except Failure α} (hresult : IsResultOf result past)
    (hsucceeds : ∀ failure, ¬ FailsStep past event failure) :
    IsResultOf result (past ++ [event]) := by
  cases result with
  | ok value => exact not_hasFailed_concat hresult hsucceeds
  | error failure => exact hresult.append [event]

end Steps

/-- A program that goes on from its steps and from nothing else. -/
abbrev HeedsSteps {α : Type} (past : History Devices) (program : Program Devices α)
    (post : α → History Devices → Prop) : Prop :=
  program.Heeds IsStep IsIgnored past post

variable {past : History Devices}

/-! ## Devices -/

theorem Device.loop_activate_heeds {file : String} {readOnly : Bool} (hpast : IsPreparing past) :
    HeedsSteps past (Device.loop file readOnly none).activate.attempt fun result later ↦
      LeavesOrFails IsPreparing result later ∧
        ∀ device, result = .ok device → ∃ node, device.node? = some node := by
  apply Task.heeds_bind
  apply Task.heeds_within
  apply Program.heeds_perform (hpast.isStep id)
  intro answer
  cases answer with
  | error failure => exact ⟨hpast.failsFirst .attaching, nofun⟩
  | ok node =>
    refine .done ⟨hpast.concat nofun (fun hundoes ↦ hundoes.1) rfl, ?_⟩
    rintro _ ⟨⟩
    exact ⟨node, rfl⟩

/-- Making sure of a device of the host heeds the steps only. -/
theorem Device.physical_activate_heeds {path : String} (hpast : IsPreparing past)
    (hblock : (⟨.isBlockDevice path, true⟩ : Event Devices) ∈ past) :
    HeedsSteps past (Device.physical path).activate.attempt fun result later ↦
      LeavesOrFails IsPreparing result later ∧
        ∀ device, result = .ok device → ∃ node, device.node? = some node := by
  apply Task.heeds_liftM_bind
  apply Program.heeds_perform (hpast.isStep id)
  intro found
  cases found with
  | false => exact .done ⟨hpast.failsFirst (.image hblock), nofun⟩
  | true =>
    refine .done ⟨hpast.concat nofun (fun hundoes ↦ hundoes.1) rfl, ?_⟩
    rintro _ ⟨⟩
    exact ⟨path, rfl⟩

/-- Detaching a loop changes no result. -/
theorem Device.release_heeds {α β : Type} {device : Device} {result : Except Failure β}
    {rest : Task Devices α} {post : Except Failure α → History Devices → Prop}
    (hresult : IsResultOf result past)
    (hrest : ∀ later, IsResultOf result later → HeedsSteps later rest.attempt post) :
    HeedsSteps past (Task.attempt (do
      let _ ← ExceptT.lift device.release.attempt
      rest)) post := by
  obtain ⟨file, readOnly, _ | node⟩ | path | ⟨name, table⟩ := device
  · exact hrest past hresult
  · refine .ignore (.inl trivial) (fun answer ↦ ?_) fun answer ↦ hrest _ (hresult.concat nofun)
    cases answer with
    | error failure => rfl
    | ok value => rfl
  · exact hrest past hresult
  · exact hrest past hresult

/-- Making a mapping heeds the steps only. -/
theorem Device.mapper_activate_heeds {name table : String} (hpast : IsBuilding past) :
    HeedsSteps past (Device.mapper name table).activate.attempt fun result later ↦
      LeavesOrFails IsBuilding result later ∧ MappingAttempted later := by
  apply Task.heeds_bind
  apply Task.heeds_within
  apply Program.heeds_perform (hpast.isStep id)
  intro answer
  have hattempted : MappingAttempted (past ++ [⟨.createMapping name table, answer⟩]) :=
    ⟨_, List.mem_concat_self, name, table, rfl⟩
  cases answer with
  | error failure => exact ⟨hpast.failsFirst .creating, hattempted⟩
  | ok value => exact .done ⟨hpast.concat nofun fun hundoes ↦ hundoes.1, hattempted⟩

namespace Chain

variable (chain : Chain)

/-- Attaching the image heeds the steps only. -/
theorem baseDevice_heeds (base : String) (hpast : IsPreparing past) :
    HeedsSteps past (baseDevice base) fun device later ↦
      HeedsSteps later device.activate.attempt fun result later ↦
        LeavesOrFails IsPreparing result later ∧
          ∀ device, result = .ok device → ∃ node, device.node? = some node := by
  apply Program.heeds_bind
  apply Program.heeds_perform (hpast.isStep id)
  intro found
  have hlater : IsPreparing (past ++ [⟨.isBlockDevice base, found⟩]) :=
    hpast.concat nofun (fun hundoes ↦ hundoes.1) rfl
  cases found with
  | false => exact .done (Device.loop_activate_heeds hlater)
  | true => exact .done (Device.physical_activate_heeds hlater List.mem_concat_self)

/-! ## Mappings -/

theorem stackSnapshot_heeds (grows : Bool) (origin overlay : String) (sectors : Nat)
    (made : List String) (hpast : IsBuilding past) :
    HeedsSteps past (stackSnapshot chain grows origin overlay sectors made) fun stacked later ↦
      LeavesOrFails IsBuilding stacked.1 later ∧ MappingAttempted later ∧
        ∀ device, stacked.1 = .ok device → device = chain.devicePath := by
  unfold stackSnapshot
  apply Program.heeds_bind
  refine (Device.mapper_activate_heeds hpast).mono ?_
  rintro (failure | device) past ⟨hpast, hattempted⟩
  · exact .done ⟨hpast, hattempted, nofun⟩
  refine .ignore (.inl trivial) (fun _ ↦ rfl) fun checked ↦ ?_
  have hchecked : IsBuilding (past ++ [⟨.checkFilesystem chain.devicePath, checked⟩]) :=
    hpast.concat nofun fun hundoes ↦ hundoes.2 chain.devicePath rfl
  cases grows with
  | false =>
    refine .done ⟨hchecked, mappingAttempted_append hattempted, ?_⟩
    rintro _ ⟨⟩
    rfl
  | true =>
    apply Program.heeds_bind
    apply Task.heeds_within
    apply Program.heeds_perform (hchecked.isStep id)
    intro grown
    have hattempted : MappingAttempted (past ++ [⟨.checkFilesystem chain.devicePath, checked⟩] ++
        [⟨.growFilesystem chain.devicePath, grown⟩]) :=
      mappingAttempted_append (mappingAttempted_append hattempted)
    cases grown with
    | error failure => exact .done ⟨hchecked.failsFirst .growing, hattempted, nofun⟩
    | ok value =>
      refine .done ⟨hchecked.concat nofun (fun hundoes ↦ hundoes.1), hattempted, ?_⟩
      rintro _ ⟨⟩
      rfl

theorem stack_heeds (base overlay : String) (baseSectors overlaySectors : Nat)
    (hpast : IsBuilding past) :
    HeedsSteps past (stack chain base baseSectors overlay overlaySectors) fun stacked later ↦
      LeavesOrFails IsBuilding stacked.1 later ∧ MappingAttempted later ∧
        ∀ device, stacked.1 = .ok device → device = chain.devicePath := by
  unfold stack
  by_cases hgrows : baseSectors < overlaySectors
  · rw [if_pos hgrows, paddedBaseTable?, if_pos hgrows.le]
    apply Program.heeds_bind
    refine (Device.mapper_activate_heeds hpast).mono ?_
    rintro (failure | device) past ⟨hpast, hattempted⟩
    · refine .done ⟨hpast, hattempted, fun device hok ↦ ?_⟩
      cases hok
    · exact chain.stackSnapshot_heeds true _ overlay overlaySectors _ hpast
  · rw [if_neg hgrows]
    exact chain.stackSnapshot_heeds false base overlay overlaySectors _ hpast

/-- Whether a result is that of the steps, and gives the root device if it is a success. -/
def IsResultFor (result : Except Failure String) (past : History Devices) : Prop :=
  IsResultOf result past ∧ ∀ device, result = .ok device → device = chain.devicePath

theorem stackOrRollBack_heeds (base overlay : String) (baseSectors overlaySectors : Nat)
    (hpast : IsBuilding past) :
    HeedsSteps past (stackOrRollBack chain base baseSectors overlay overlaySectors)
      chain.IsResultFor := by
  unfold stackOrRollBack
  apply Program.heeds_bind
  refine (chain.stack_heeds base overlay baseSectors overlaySectors hpast).mono ?_
  rintro ⟨failure | device, made⟩ past ⟨hpast, hattempted, hdevice⟩
  · have hfailed : FailsFirst failure past := hpast
    cases made with
    | nil => exact .done ⟨hfailed, nofun⟩
    | cons name made =>
      refine .ignore (.inl hattempted) (fun _ ↦ rfl) fun removed ↦ ?_
      exact .done ⟨hfailed.append _, nofun⟩
  · exact .done ⟨hpast.not_failed, hdevice⟩

/-- Before any mapping was to be made, removing one is a step. -/
theorem removeStaleBase_heeds (hpast : IsBuilding past) (hnone : ¬ MappingAttempted past)
    (names : List String) :
    HeedsSteps past (Task.within .removingStaleBase (Devices.removeMappings names)).attempt
      (LeavesOrFails IsBuilding) := by
  have hstep : IsStep past (.removeMappings names) := hpast.isStep hnone
  apply Task.heeds_within
  apply Program.heeds_perform hstep
  intro removed
  cases removed with
  | error failure => exact hpast.failsFirst (.clearing hnone)
  | ok value => exact hpast.concat nofun fun hundoes ↦ hnone hundoes.1

/-- What is done once the sizes are known to fit. -/
theorem stackOnCleanBase_heeds (base overlay : String) (baseSectors overlaySectors : Nat)
    (hpast : IsBuilding past) (hnone : ¬ MappingAttempted past) :
    HeedsSteps past (Task.attempt (do
      if ← Devices.mappingExists (paddedBaseName chain.uid) then
        Task.within .removingStaleBase (Devices.removeMappings [paddedBaseName chain.uid])
      Task.of (stackOrRollBack chain base baseSectors overlay overlaySectors)))
      chain.IsResultFor := by
  apply Task.heeds_liftM_bind
  apply Program.heeds_perform (hpast.isStep id)
  intro found
  have hlooked : IsBuilding (past ++ [⟨.mappingExists (paddedBaseName chain.uid), found⟩]) :=
    hpast.concat nofun fun hundoes ↦ hundoes.1
  cases found with
  | false => exact chain.stackOrRollBack_heeds base overlay baseSectors overlaySectors hlooked
  | true =>
    apply Task.heeds_bind
    refine (removeStaleBase_heeds hlooked (not_mappingAttempted_concat hnone nofun) _).mono ?_
    rintro (failure | value) past hpast
    · exact ⟨hpast, nofun⟩
    · exact chain.stackOrRollBack_heeds base overlay baseSectors overlaySectors hpast

theorem build_heeds {base overlay : Device} {baseNode overlayNode : String}
    (hbase : base.node? = some baseNode) (hoverlay : overlay.node? = some overlayNode)
    (hpast : IsPreparing past) :
    HeedsSteps past (build chain base overlay).attempt chain.IsResultFor := by
  unfold build Device.requireNode
  rw [hbase, hoverlay]
  refine Task.heeds_bind (.done ?_)
  refine Task.heeds_bind (.done ?_)
  apply Task.heeds_bind
  apply Program.heeds_perform (hpast.isStep id)
  intro size
  obtain failure | baseSectors := size
  · exact ⟨hpast.failsFirst .measuring, nofun⟩
  have hmeasured : IsBuilding (past ++ [⟨.sizeSectors baseNode, .ok baseSectors⟩]) :=
    hpast.toIsBuilding.concat hpast.not_failsStep_size fun hundoes ↦ hundoes.1
  apply Task.heeds_bind
  apply Program.heeds_perform (hmeasured.isStep id)
  intro size
  obtain failure | overlaySectors := size
  · exact ⟨hmeasured.failsFirst .measuring, nofun⟩
  dsimp only
  split
  next hsmall =>
    exact .done ⟨hmeasured.failsFirst (.comparing List.getLast?_concat hsmall), nofun⟩
  next hfits =>
    apply chain.stackOnCleanBase_heeds baseNode overlayNode baseSectors overlaySectors
    · refine hmeasured.concat (fun failure hfails ↦ ?_) fun hundoes ↦ hundoes.1
      cases hfails with
      | comparing hlast hsmall =>
        rw [List.getLast?_concat] at hlast
        cases hlast
        exact hfits hsmall
    · refine not_mappingAttempted_concat (not_mappingAttempted_concat
        hpast.not_mappingAttempted ?_) ?_
      all_goals nofun

/-! ## The whole activation -/

theorem assemble_heeds {base : Device} (overlay : String)
    (hactivate : HeedsSteps past base.activate.attempt fun result later ↦
      LeavesOrFails IsPreparing result later ∧
        ∀ device, result = .ok device → ∃ node, device.node? = some node) :
    HeedsSteps past (assemble chain base (.loop overlay false none)) fun assembled later ↦
      chain.IsResultFor assembled.1 later := by
  unfold assemble
  apply Program.heeds_bind
  refine hactivate.mono ?_
  rintro (failure | baseDevice) past ⟨hpast, hbase⟩
  · exact .done ⟨hpast, nofun⟩
  obtain ⟨baseNode, hbase⟩ := hbase baseDevice rfl
  apply Program.heeds_bind
  refine (Device.loop_activate_heeds hpast).mono ?_
  rintro (failure | overlayDevice) past ⟨hpast, hoverlay⟩
  · exact .done ⟨hpast, nofun⟩
  obtain ⟨overlayNode, hoverlay⟩ := hoverlay overlayDevice rfl
  apply Program.heeds_bind
  refine (chain.build_heeds hbase hoverlay hpast).mono ?_
  intro result past hresult
  exact .done hresult

/-- Under the lock, an activation goes on from the answers to its steps only. -/
theorem activateLocked_heeds (base overlay : String) (hpast : IsPreparing past)
    (hblock : ∀ path, (⟨.isBlockDevice path, true⟩ : Event Devices) ∉ past) :
    HeedsSteps past (activateLocked chain base overlay).attempt chain.IsResultFor := by
  unfold activateLocked
  apply Task.heeds_liftM_bind
  apply Program.heeds_perform (hpast.isStep id)
  intro found
  have hlooked : IsPreparing (past ++ [⟨.deviceExists chain.devicePath, found⟩]) := by
    refine hpast.concat (fun failure hfails ↦ ?_) (fun hundoes ↦ hundoes.1) rfl
    cases hfails with
    | image hmem => exact hblock _ hmem
  cases found with
  | true => exact .done ⟨hlooked.not_failed, fun _ hok ↦ (Except.ok.inj hok).symm⟩
  | false =>
    apply Task.heeds_liftM_bind
    refine (baseDevice_heeds base hlooked).mono ?_
    intro device past hactivate
    apply Task.heeds_liftM_bind
    refine (chain.assemble_heeds overlay hactivate).mono ?_
    rintro ⟨result, baseDevice, overlayDevice⟩ past ⟨hresult, hdevice⟩
    refine Device.release_heeds hresult fun past hresult ↦ ?_
    refine Device.release_heeds hresult fun past hresult ↦ ?_
    exact .done ⟨hresult, hdevice⟩

theorem withLock_heeds {path : String} {task : Task Devices String} (hpast : IsPreparing past)
    (htask : ∀ acquired, IsPreparing (past ++ [⟨.acquireLock path, acquired⟩]) →
      HeedsSteps (past ++ [⟨.acquireLock path, acquired⟩]) task.attempt chain.IsResultFor) :
    HeedsSteps past (Devices.withLock path task).attempt chain.IsResultFor := by
  apply Task.heeds_bind
  apply Program.heeds_perform (hpast.isStep id)
  intro acquired
  cases acquired with
  | error failure => exact ⟨hpast.failsFirst .lock, nofun⟩
  | ok value =>
    have hacquired : IsPreparing (past ++ [⟨.acquireLock path, .ok value⟩]) :=
      hpast.concat nofun (fun hundoes ↦ hundoes.1) rfl
    apply Task.heeds_liftM_bind
    refine (htask _ hacquired).mono ?_
    rintro result past ⟨hresult, hdevice⟩
    refine .ignore (.inr ⟨path, rfl⟩) (fun _ ↦ rfl) fun released ↦ .done ⟨?_, hdevice⟩
    exact hresult.concat nofun

/-- An activation goes on from its steps and from nothing else, and ends with the device or with the
failure of the first step that has failed. -/
theorem activate_heeds (base overlay : String) :
    HeedsSteps [] (chain.activate base overlay).attempt chain.IsResultFor := by
  unfold activate
  apply Task.heeds_liftM_bind
  apply Program.heeds_perform (isPreparing_nil.isStep id)
  intro found
  have hlooked : IsPreparing ([] ++ [⟨.deviceExists chain.devicePath, found⟩]) := by
    refine isPreparing_nil.concat (fun failure hfails ↦ ?_) (fun hundoes ↦ hundoes.1) rfl
    cases hfails with
    | image hmem => exact absurd hmem List.not_mem_nil
  cases found with
  | true => exact .done ⟨hlooked.not_failed, fun _ hok ↦ (Except.ok.inj hok).symm⟩
  | false =>
    refine chain.withLock_heeds hlooked fun acquired hpast ↦ ?_
    refine chain.activateLocked_heeds base overlay hpast fun path hmem ↦ ?_
    obtain hfirst | hsecond := List.mem_append.1 hmem
    · cases List.mem_singleton.1 hfirst
    · cases List.mem_singleton.1 hsecond

end Chain

end MicroVm.Storage

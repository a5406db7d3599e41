import MicroVm.Proofs.Storage.HostDevices

/-!
# Mappings on two devices

Whatever fails while the mappings are made, the ones made are known, so that removing them puts the
host back where it was. That removal may itself not fail: a host spares the clean-up when no
mapping that was made stays because of a failure.
-/

namespace MicroVm.Storage

open HostDevices

/-- Whether there was an attempt to make a mapping. What is removed after that is a rollback. -/
def MappingAttempted (past : History Devices) : Prop :=
  ∃ event ∈ past, ∃ name table, event.request = .createMapping name table

theorem mappingAttempted_append {past history : History Devices} (hpast : MappingAttempted past) :
    MappingAttempted (past ++ history) := by
  obtain ⟨event, hmem, hrequest⟩ := hpast
  exact ⟨event, List.mem_append_left history hmem, hrequest⟩

/-- Faults that leave detaching and rollbacks alone. -/
structure FaultPattern.SparesCleanUp (faults : FaultPattern) : Prop where
  detaches : ∀ past node, ¬ faults past (.detachLoop node)
  rollsBack : ∀ past names, MappingAttempted past → ¬ faults past (.removeMappings names)

variable {faults : FaultPattern} {past : History Devices} {host : HostDevices}

/-- A mapping that was made has its node, and one that failed has changed nothing. -/
theorem Device.mapper_activate_ensures {name table : String} :
    (Device.mapper name table).activate.attempt.Ensures (conduct faults) past host
      fun result past after ↦ MappingAttempted past ∧
        match result with
        | .ok _ => after = host.add (mapperPath name)
        | .error _ => after = host := by
  apply Task.ensures_bind
  apply Task.ensures_within
  apply Program.ensures_perform
  intro result after hstep
  cases result with
  | error failure => exact ⟨⟨_, List.mem_concat_self, name, table, rfl⟩, hstep.2⟩
  | ok value => exact Program.ensures_done ⟨⟨_, List.mem_concat_self, name, table, rfl⟩, hstep⟩

theorem Devices.checkFilesystem_ensures {device : String} (hpast : MappingAttempted past) :
    (Devices.checkFilesystem device).attempt.Ensures (conduct faults) past host
      fun _ past after ↦ MappingAttempted past ∧ after = host := by
  apply Program.ensures_perform
  intro result after hstep
  cases result with
  | error failure => exact ⟨mappingAttempted_append hpast, hstep.2⟩
  | ok value => exact ⟨mappingAttempted_append hpast, hstep⟩

theorem Devices.growFilesystem_ensures {device : String} (hpast : MappingAttempted past) :
    (Task.within (.growing device) (Devices.growFilesystem device)).attempt.Ensures
      (conduct faults) past host fun result past after ↦ MappingAttempted past ∧ after = host ∧
        ∀ value, result = .ok value →
          (⟨.growFilesystem device, .ok ()⟩ : Event Devices) ∈ past := by
  apply Task.ensures_within
  apply Program.ensures_perform
  intro result after hstep
  cases result with
  | error failure => exact ⟨mappingAttempted_append hpast, hstep.2, fun _ hok ↦ nomatch hok⟩
  | ok value => exact ⟨mappingAttempted_append hpast, hstep, fun _ _ ↦ List.mem_concat_self⟩

/-- A rollback that is not hindered removes what it is for. -/
theorem Devices.removeMappings_ensures (hfaults : faults.SparesCleanUp)
    (hpast : MappingAttempted past) {names : List String} (hdistinct : (names.map mapperPath).Nodup)
    (hnew : ∀ path ∈ names.map mapperPath, path ∉ host.nodes) :
    (Devices.removeMappings names).attempt.Ensures (conduct faults) past (host.withMappings names)
      fun _ _ after ↦ after = host := by
  apply Program.ensures_perform
  intro result after hstep
  cases result with
  | error failure =>
    obtain ⟨hfault, -⟩ | ⟨-, name, hremoves⟩ := hstep
    · exact absurd hfault (hfaults.rollsBack past names hpast)
    · exact (hremoves.undoes hdistinct hnew).2
  | ok value => exact (Removes.undoes hdistinct hnew hstep).2

namespace Chain

/-- The mappings below the snapshot. -/
def baseNames (chain : Chain) (isPadded : Bool) : List String :=
  if isPadded then [paddedBaseName chain.uid] else []

/-- All mappings, the topmost first. -/
def mappingNames (chain : Chain) (isPadded : Bool) : List String :=
  snapshotName chain.uid :: chain.baseNames isPadded

variable (chain : Chain) {isPadded : Bool} {path : String}

theorem map_mappingNames : (chain.mappingNames isPadded).map mapperPath =
    chain.devicePath :: if isPadded then [chain.paddedBasePath] else [] := by
  cases isPadded <;> rfl

/-- The nodes of a chain differ. -/
theorem nodup_map_mappingNames : ((chain.mappingNames isPadded).map mapperPath).Nodup := by
  rw [map_mappingNames]
  cases isPadded with
  | false => exact List.pairwise_singleton _ _
  | true => simp [chain.devicePath_ne_paddedBasePath]

theorem mem_map_mappingNames_iff : path ∈ (chain.mappingNames isPadded).map mapperPath ↔
    path = chain.devicePath ∨ (isPadded ∧ path = chain.paddedBasePath) := by
  rw [map_mappingNames]
  cases isPadded <;> simp

/-- Whether the filesystem of the root device was grown. -/
def Grown (chain : Chain) (past : History Devices) : Prop :=
  (⟨.growFilesystem chain.devicePath, .ok ()⟩ : Event Devices) ∈ past

/-- What is known after mappings were made, wholly or in part. -/
structure IsStacked (chain : Chain) (host : HostDevices) (isPadded : Bool)
    (made : Except Failure String × List String) (past : History Devices) (after : HostDevices) :
    Prop where
  attempted : MappingAttempted past
  state : after = host.withMappings made.2
  names : made.2 <:+ chain.mappingNames isPadded
  complete : ∀ device, made.1 = .ok device →
    device = chain.devicePath ∧ made.2 = chain.mappingNames isPadded ∧
      (isPadded = true → chain.Grown past)

theorem stackSnapshot_ensures (isPadded : Bool) (origin overlay : String) (sectors : Nat) :
    (stackSnapshot chain isPadded origin overlay sectors (chain.baseNames isPadded)).Ensures
      (conduct faults) past (host.withMappings (chain.baseNames isPadded))
      (chain.IsStacked host isPadded) := by
  unfold stackSnapshot
  apply Program.ensures_bind
  refine Device.mapper_activate_ensures.mono ?_
  rintro (failure | device) past after ⟨hpast, rfl⟩
  · exact Program.ensures_done ⟨hpast, rfl, List.suffix_cons _ _, fun _ hok ↦ nomatch hok⟩
  apply Program.ensures_bind
  apply (Devices.checkFilesystem_ensures hpast).mono
  rintro - past after ⟨hpast, rfl⟩
  cases isPadded with
  | false =>
    refine Program.ensures_done ⟨hpast, rfl, List.suffix_rfl, ?_⟩
    intro device hok
    exact ⟨(Except.ok.inj hok).symm, rfl, fun hpadded ↦ nomatch hpadded⟩
  | true =>
    apply Program.ensures_bind
    apply (Devices.growFilesystem_ensures hpast).mono
    intro result past after hstep
    obtain ⟨hpast, rfl, hgrown⟩ := hstep
    cases result with
    | error failure =>
      exact Program.ensures_done ⟨hpast, rfl, List.suffix_rfl, fun _ hok ↦ nomatch hok⟩
    | ok value =>
      refine Program.ensures_done ⟨hpast, rfl, List.suffix_rfl, ?_⟩
      intro device hok
      exact ⟨(Except.ok.inj hok).symm, rfl, fun _ ↦ hgrown value rfl⟩

theorem stack_ensures (base overlay : String) (baseSectors overlaySectors : Nat) :
    (stack chain base baseSectors overlay overlaySectors).Ensures (conduct faults) past host
      (chain.IsStacked host (baseSectors < overlaySectors)) := by
  unfold stack
  by_cases hgrows : baseSectors < overlaySectors
  · rw [if_pos hgrows, decide_eq_true hgrows, paddedBaseTable?, if_pos hgrows.le]
    apply Program.ensures_bind
    refine Device.mapper_activate_ensures.mono ?_
    intro result past after hstep
    obtain ⟨hpast, hstate⟩ := hstep
    cases result with
    | error failure =>
      exact Program.ensures_done ⟨hpast, hstate, List.nil_suffix, fun _ hok ↦ nomatch hok⟩
    | ok device =>
      obtain rfl := hstate
      exact chain.stackSnapshot_ensures true _ overlay overlaySectors
  · rw [if_neg hgrows, decide_eq_false hgrows]
    exact chain.stackSnapshot_ensures false base overlay overlaySectors

/-- All mappings are made, or the host is as it was. -/
theorem stackOrRollBack_ensures (hfaults : faults.SparesCleanUp) (base overlay : String)
    (baseSectors overlaySectors : Nat) (hdevice : chain.devicePath ∉ host.nodes)
    (hpadded : chain.paddedBasePath ∉ host.nodes) :
    (stackOrRollBack chain base baseSectors overlay overlaySectors).Ensures (conduct faults) past
      host fun result past after ↦
        match result with
        | .ok device => device = chain.devicePath ∧
          after = host.withMappings (chain.mappingNames (baseSectors < overlaySectors)) ∧
          (baseSectors < overlaySectors → chain.Grown past)
        | .error _ => after = host := by
  unfold stackOrRollBack
  apply Program.ensures_bind
  apply (chain.stack_ensures base overlay baseSectors overlaySectors).mono
  rintro ⟨failure | device, made⟩ past after ⟨hpast, rfl, hnames, hcomplete⟩
  · have hsublist := hnames.sublist.map mapperPath
    cases made with
    | nil => exact Program.ensures_done rfl
    | cons name made =>
      apply Program.ensures_bind
      refine (Devices.removeMappings_ensures hfaults hpast
        (chain.nodup_map_mappingNames.sublist hsublist) ?_).mono ?_
      · intro path hmem
        obtain rfl | ⟨-, rfl⟩ := chain.mem_map_mappingNames_iff.1 (hsublist.subset hmem)
        · exact hdevice
        · exact hpadded
      · rintro - past after rfl
        exact Program.ensures_done rfl
  · obtain ⟨rfl, rfl, hgrown⟩ := hcomplete device rfl
    exact Program.ensures_done ⟨rfl, rfl, fun hgrows ↦ hgrown (decide_eq_true hgrows)⟩

end Chain

end MicroVm.Storage

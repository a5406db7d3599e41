import MicroVm.Proofs.Storage.Attachment

/-!
# Activation in whole or not at all

The root device of a machine is built in some ten calls, each of which may fail. Whatever fails, the
host ends up either with all mappings of the machine and no loop of the run, or with the nodes that
it had. A padded base that an earlier run has left behind may be gone in both cases.
-/

namespace MicroVm.Storage

open HostDevices

namespace Chain

/-- The nodes of all mappings. -/
def mappingNodes (chain : Chain) (isPadded : Bool) : Set String :=
  if isPadded then {chain.devicePath, chain.paddedBasePath} else {chain.devicePath}

/-- The nodes of a host after an activation on given ones, by the result of it. -/
def AllOrNothing (chain : Chain) (nodes : Set String) (isPadded : Bool)
    (result : Except Failure String) (after : Set String) : Prop :=
  match result with
  | .ok device =>
    device = chain.devicePath ∧
      after = (nodes \ {chain.paddedBasePath}) ∪ chain.mappingNodes isPadded
  | .error _ => after = nodes ∨ after = nodes \ {chain.paddedBasePath}

/-- An activation in whole or not at all, which has grown the filesystem if there is room for
that. -/
structure IsBuiltOrNot (chain : Chain) (nodes : Set String) (isPadded : Bool)
    (result : Except Failure String) (past : History Devices) (after : Set String) : Prop where
  allOrNothing : chain.AllOrNothing nodes isPadded result after
  grown : ∀ device, result = .ok device → isPadded = true → chain.Grown past

variable (chain : Chain) {isPadded : Bool} {host : HostDevices} {nodes attached : Set String}
  {result : Except Failure String} {after : Set String}

theorem nodes_withMappings : (host.withMappings (chain.mappingNames isPadded)).nodes =
    host.nodes ∪ chain.mappingNodes isPadded := by
  ext path
  rw [mem_withMappings_iff, mem_map_mappingNames_iff, or_comm, Set.mem_union]
  cases isPadded <;> simp [mappingNodes]

theorem loopNode_notMem_mappingNodes (number : Nat) :
    loopNode number ∉ chain.mappingNodes isPadded := by
  have hdevice := chain.loopNode_ne_devicePath number
  have hpadded := chain.loopNode_ne_paddedBasePath number
  cases isPadded <;> simp [mappingNodes, hdevice, hpadded]

variable {chain}

theorem isBuiltOrNot_error {failure : Failure} {past : History Devices}
    (hafter : after = nodes ∨ after = nodes \ {chain.paddedBasePath}) :
    chain.IsBuiltOrNot nodes isPadded (.error failure) past after :=
  ⟨hafter, fun _ hok ↦ nomatch hok⟩

/-- Loops that were free before and are detached afterwards change nothing. -/
theorem AllOrNothing.detach
    (hfree : ∀ path ∈ attached, path ∉ nodes ∧ ∃ number, path = loopNode number)
    (hafter : chain.AllOrNothing (nodes ∪ attached) isPadded result after) :
    chain.AllOrNothing nodes isPadded result (after \ attached) := by
  have hnodes : (nodes ∪ attached) \ attached = nodes := by
    rw [Set.union_sdiff_right]
    exact sdiff_eq_left.2 (Set.disjoint_right.2 fun path hpath ↦ (hfree path hpath).1)
  have hpadded : ((nodes ∪ attached) \ {chain.paddedBasePath}) \ attached =
      nodes \ {chain.paddedBasePath} := by
    calc
      _ = ((nodes ∪ attached) \ attached) \ {chain.paddedBasePath} := sdiff_right_comm _ _ _
      _ = nodes \ {chain.paddedBasePath} := by rw [hnodes]
  cases result with
  | error failure =>
    obtain rfl | rfl := hafter
    · exact .inl hnodes
    · exact .inr hpadded
  | ok device =>
    obtain ⟨hdevice, rfl⟩ := hafter
    refine ⟨hdevice, ?_⟩
    have hmappings : chain.mappingNodes isPadded \ attached = chain.mappingNodes isPadded := by
      refine sdiff_eq_left.2 (Set.disjoint_right.2 fun path hpath ↦ ?_)
      obtain ⟨-, number, rfl⟩ := hfree path hpath
      exact chain.loopNode_notMem_mappingNodes number
    calc
      _ = ((nodes ∪ attached) \ {chain.paddedBasePath}) \ attached ∪
          chain.mappingNodes isPadded \ attached := Set.union_sdiff_distrib
      _ = nodes \ {chain.paddedBasePath} ∪ chain.mappingNodes isPadded := by
        rw [hpadded, hmappings]

variable (chain) {faults : FaultPattern} {past : History Devices}

/-- An activation that a device was attached for, seen from before the attachment. -/
theorem IsBuiltOrNot.detachDevice {device : Device} {node : String} {size : Nat}
    {attachedTo : HostDevices} (hattached : device.IsAttached host node size attachedTo)
    (hafter : chain.IsBuiltOrNot attachedTo.nodes isPadded result past after) :
    chain.IsBuiltOrNot host.nodes isPadded result past (after \ device.attached) := by
  obtain ⟨hafter, hgrown⟩ := hafter
  rw [hattached.nodes] at hafter
  exact ⟨hafter.detach hattached.free, hgrown⟩

theorem devicePath_notMem_of_isAttached {device : Device} {node : String} {size : Nat}
    {attachedTo : HostDevices} (hattached : device.IsAttached host node size attachedTo)
    (hdevice : chain.devicePath ∉ host.nodes) : chain.devicePath ∉ attachedTo.nodes := by
  rw [hattached.nodes, Set.mem_union, not_or]
  refine ⟨hdevice, fun hmem ↦ ?_⟩
  obtain ⟨-, number, hloop⟩ := hattached.free _ hmem
  exact chain.loopNode_ne_devicePath number hloop.symm

/-- Reading a size changes nothing, and the size is that of the node. -/
theorem sizeSectors_ensures {node : String} :
    (Devices.sizeSectors node).attempt.Ensures (conduct faults) past host
      fun result _ after ↦ after = host ∧ ∀ size, result = .ok size → size = host.sectors node := by
  apply Program.ensures_perform
  intro result after hstep
  cases result with
  | error failure => exact ⟨hstep.2, fun _ hok ↦ nomatch hok⟩
  | ok size =>
    refine ⟨hstep.2, fun other hok ↦ ?_⟩
    rw [← Except.ok.inj hok, hstep.1]

/-- A padded base that is there is removed alone, or the host stays as it is. -/
theorem removeStaleBase_ensures (hpresent : chain.paddedBasePath ∈ host.nodes) :
    (Devices.removeMappings [paddedBaseName chain.uid]).attempt.Ensures (conduct faults) past host
      fun result _ after ↦
        match result with
        | .ok _ => after = host.remove chain.paddedBasePath
        | .error _ => after = host := by
  apply Program.ensures_perform
  intro result after hstep
  cases result with
  | error failure =>
    obtain ⟨-, rfl⟩ | ⟨-, name, hremoves⟩ := hstep
    · rfl
    · cases hremoves with
      | missing habsent => exact absurd hpresent habsent
      | present _ hrest => cases hrest
  | ok value =>
    cases hstep with
    | present _ hrest =>
      cases hrest
      rfl

theorem stackOnCleanBase_ensures (hfaults : faults.SparesCleanUp) (base overlay : String)
    (baseSectors overlaySectors : Nat) {clean : HostDevices}
    (hclean : clean = host.remove chain.paddedBasePath) (hdevice : chain.devicePath ∉ host.nodes) :
    (stackOrRollBack chain base baseSectors overlay overlaySectors).Ensures (conduct faults) past
      clean fun result past after ↦
        chain.IsBuiltOrNot host.nodes (baseSectors < overlaySectors) result past after.nodes := by
  subst hclean
  have hpadded : chain.paddedBasePath ∉ (host.remove chain.paddedBasePath).nodes :=
    fun hmem ↦ hmem.2 rfl
  have hdevice : chain.devicePath ∉ (host.remove chain.paddedBasePath).nodes :=
    fun hmem ↦ hdevice hmem.1
  refine (chain.stackOrRollBack_ensures hfaults base overlay baseSectors overlaySectors hdevice
    hpadded).mono ?_
  intro result past after hresult
  cases result with
  | error failure =>
    obtain rfl := hresult
    exact isBuiltOrNot_error (.inr rfl)
  | ok device =>
    obtain ⟨hdevice, rfl, hgrown⟩ := hresult
    refine ⟨⟨hdevice, chain.nodes_withMappings⟩, fun _ _ hgrows ↦ ?_⟩
    exact hgrown (of_decide_eq_true hgrows)

theorem build_ensures (hfaults : faults.SparesCleanUp) {base overlay : Device}
    {baseNode overlayNode : String} (hbase : base.node? = some baseNode)
    (hoverlay : overlay.node? = some overlayNode) (hdevice : chain.devicePath ∉ host.nodes) :
    (build chain base overlay).attempt.Ensures (conduct faults) past host fun result past after ↦
      chain.IsBuiltOrNot host.nodes (host.sectors baseNode < host.sectors overlayNode) result past
        after.nodes := by
  unfold build Device.requireNode
  rw [hbase, hoverlay]
  refine Task.ensures_bind (Program.ensures_done ?_)
  refine Task.ensures_bind (Program.ensures_done ?_)
  apply Task.ensures_bind
  apply sizeSectors_ensures.mono
  rintro (failure | baseSectors) past after ⟨rfl, hsize⟩
  · exact isBuiltOrNot_error (.inl rfl)
  obtain rfl := hsize baseSectors rfl
  apply Task.ensures_bind
  apply sizeSectors_ensures.mono
  rintro (failure | overlaySectors) past host ⟨rfl, hsize⟩
  · exact isBuiltOrNot_error (.inl rfl)
  obtain rfl := hsize overlaySectors rfl
  dsimp only
  split
  · exact Program.ensures_done (isBuiltOrNot_error (.inl rfl))
  apply Task.ensures_liftM_bind
  apply Program.ensures_perform
  intro found after hstep
  obtain ⟨hfound, rfl⟩ := hstep
  cases found with
  | false =>
    have habsent : chain.paddedBasePath ∉ after.nodes := fun hmem ↦ nomatch hfound.2 hmem
    exact chain.stackOnCleanBase_ensures hfaults baseNode overlayNode _ _
      (remove_eq_self habsent).symm hdevice
  | true =>
    apply Task.ensures_bind
    apply Task.ensures_within
    apply (chain.removeStaleBase_ensures (hfound.1 rfl)).mono
    rintro (failure | value) past removed rfl
    · exact isBuiltOrNot_error (.inl rfl)
    · exact chain.stackOnCleanBase_ensures hfaults baseNode overlayNode _ _ rfl hdevice

/-- The devices of an attempt, once what was attached for them is detached. -/
theorem assemble_ensures (hfaults : faults.SparesCleanUp) (base overlay : String)
    (hdevice : chain.devicePath ∉ host.nodes) :
    (assemble chain (host.imageDevice base) (.loop overlay false none)).Ensures (conduct faults)
      past host fun (result, base', overlay') past after ↦
        chain.IsBuiltOrNot host.nodes (host.imageSectors base < host.sizes overlay) result past
          ((after.nodes \ base'.attached) \ overlay'.attached) := by
  unfold assemble
  apply Program.ensures_bind
  apply (host.imageDevice_activate_ensures base).mono
  rintro (failure | baseDevice) past after hbase
  · obtain rfl := hbase
    refine Program.ensures_done (isBuiltOrNot_error (.inl ?_))
    rw [imageDevice_attached]
    exact Set.sdiff_empty.trans Set.sdiff_empty
  obtain ⟨baseNode, hbase⟩ := hbase
  apply Program.ensures_bind
  refine Device.loop_activate_ensures.mono ?_
  rintro (failure | overlayDevice) past middle hoverlay
  · obtain rfl := hoverlay
    apply Program.ensures_done
    change chain.IsBuiltOrNot host.nodes _ _ _ (_ \ ∅)
    rw [Set.sdiff_empty]
    exact IsBuiltOrNot.detachDevice chain hbase (isBuiltOrNot_error (.inl rfl))
  obtain ⟨overlayNode, hoverlay⟩ := hoverlay
  have hbaseSectors : middle.sectors baseNode = host.imageSectors base :=
    (hoverlay.keeps baseNode hbase.present).trans hbase.size
  have hoverlaySectors : middle.sectors overlayNode = host.sizes overlay := by
    rw [hoverlay.size, hbase.sizes]
  have hdevice : chain.devicePath ∉ middle.nodes :=
    chain.devicePath_notMem_of_isAttached hoverlay
      (chain.devicePath_notMem_of_isAttached hbase hdevice)
  apply Program.ensures_bind
  apply (chain.build_ensures hfaults hbase.hasNode hoverlay.hasNode hdevice).mono
  intro result past after hbuilt
  rw [hbaseSectors, hoverlaySectors] at hbuilt
  apply Program.ensures_done
  change chain.IsBuiltOrNot host.nodes _ _ _ ((after.nodes \ _) \ _)
  rw [sdiff_right_comm]
  exact IsBuiltOrNot.detachDevice chain hbase (IsBuiltOrNot.detachDevice chain hoverlay hbuilt)

theorem activateLocked_builds (hfaults : faults.SparesCleanUp) (base overlay : String)
    (hdevice : chain.devicePath ∉ host.nodes) :
    (activateLocked chain base overlay).attempt.Ensures (conduct faults) past host
      fun result past after ↦
        chain.IsBuiltOrNot host.nodes (host.imageSectors base < host.sizes overlay) result past
          after.nodes := by
  apply Task.ensures_liftM_bind
  apply Program.ensures_perform
  rintro (_ | _) after ⟨hfound, rfl⟩
  swap
  · exact absurd (hfound.1 rfl) hdevice
  apply Task.ensures_liftM_bind
  apply (baseDevice_ensures base).mono
  rintro device past host ⟨rfl, rfl⟩
  apply Task.ensures_liftM_bind
  apply (chain.assemble_ensures hfaults base overlay hdevice).mono
  rintro ⟨result, baseDevice, overlayDevice⟩ past assembled ⟨hassembled, hgrown⟩
  apply Task.ensures_liftM_bind
  apply (baseDevice.release_ensures hfaults).extends.mono
  rintro _ middle baseReleased ⟨hbegins, hbase⟩
  apply Task.ensures_liftM_bind
  apply (overlayDevice.release_ensures hfaults).extends.mono
  rintro _ last released ⟨hgoesOn, hoverlay⟩
  apply Program.ensures_done
  rw [hoverlay, hbase]
  refine ⟨hassembled, fun device hok hgrows ↦ ?_⟩
  exact (hbegins.trans hgoesOn).subset (hgrown device hok hgrows)

theorem activateLocked_ensures (hfaults : faults.SparesCleanUp) (base overlay : String)
    (hdevice : chain.devicePath ∉ host.nodes) :
    (activateLocked chain base overlay).attempt.Ensures (conduct faults) past host
      fun result _ after ↦
        chain.AllOrNothing host.nodes (host.imageSectors base < host.sizes overlay) result
          after.nodes :=
  (chain.activateLocked_builds hfaults base overlay hdevice).mono
    fun _ _ _ hbuilt ↦ hbuilt.allOrNothing

/-- On a host that leaves the clean-up alone, an activation makes all mappings or none, and none
when the root device is there. -/
theorem activate_all_or_nothing (hfaults : faults.SparesCleanUp) {base overlay : String}
    {history : History Devices} {result : Option (Except Failure String)} {after : HostDevices}
    (hrun : (chain.activate base overlay).attempt.IsRun history result)
    (hallows : (conduct faults).Allows [] host history after) :
    ∃ outcome, result = some outcome ∧
      (chain.devicePath ∉ host.nodes →
        chain.AllOrNothing host.nodes (host.imageSectors base < host.sizes overlay) outcome
          after.nodes) ∧
      (chain.devicePath ∈ host.nodes →
        outcome = .ok chain.devicePath ∧ after = host ∧
          history = [⟨.deviceExists chain.devicePath, true⟩]) := by
  have hactivate : (chain.activate base overlay).attempt.Ensures (conduct faults) [] host
      fun outcome history after ↦
        (chain.devicePath ∉ host.nodes →
          chain.AllOrNothing host.nodes (host.imageSectors base < host.sizes overlay) outcome
            after.nodes) ∧
        (chain.devicePath ∈ host.nodes →
          outcome = .ok chain.devicePath ∧ after = host ∧
            history = [⟨.deviceExists chain.devicePath, true⟩]) := by
    apply Task.ensures_liftM_bind
    apply Program.ensures_perform
    intro found after hstep
    obtain ⟨hfound, rfl⟩ := hstep
    cases found with
    | false =>
      have hdevice : chain.devicePath ∉ after.nodes := fun hmem ↦ nomatch hfound.2 hmem
      refine (withLock_ensures
        (fun past ↦ chain.activateLocked_ensures hfaults base overlay hdevice)
        fun failure _ ↦ .inl rfl).mono ?_
      intro outcome past ended houtcome
      exact ⟨fun _ ↦ houtcome, fun hmem ↦ absurd hmem hdevice⟩
    | true =>
      exact Program.ensures_done
        ⟨fun habsent ↦ absurd (hfound.1 rfl) habsent, fun _ ↦ ⟨rfl, rfl, rfl⟩⟩
  exact hactivate hrun hallows

/-! ## A failure at the last call -/

/-- Faults in growing filesystems only. -/
def growingFails : FaultPattern := fun _ request ↦ ∃ device, request = .growFilesystem device

/-- The history of an activation that finds a padded base and fails at the last of its calls. -/
def failedGrowth (chain : Chain) (failure : Failure) : History Devices :=
  let base := paddedBaseTable? (loopNode 0) 10 20
  let snapshot := snapshotTable 20 chain.paddedBasePath (loopNode 1) chain.chunkSectors
  [⟨.deviceExists chain.devicePath, false⟩,
    ⟨.acquireLock chain.lockPath, .ok ()⟩,
    ⟨.deviceExists chain.devicePath, false⟩,
    ⟨.isBlockDevice "image", false⟩,
    ⟨.attachLoop "image" true, .ok (loopNode 0)⟩,
    ⟨.attachLoop "overlay" false, .ok (loopNode 1)⟩,
    ⟨.sizeSectors (loopNode 0), .ok 10⟩,
    ⟨.sizeSectors (loopNode 1), .ok 20⟩,
    ⟨.mappingExists (paddedBaseName chain.uid), true⟩,
    ⟨.removeMappings [paddedBaseName chain.uid], .ok ()⟩,
    ⟨.createMapping (paddedBaseName chain.uid) (base.getD []).text, .ok ()⟩,
    ⟨.createMapping (snapshotName chain.uid) snapshot.text, .ok ()⟩,
    ⟨.checkFilesystem chain.devicePath, .ok ()⟩,
    ⟨.growFilesystem chain.devicePath, .error failure⟩,
    ⟨.removeMappings (chain.mappingNames true), .ok ()⟩,
    ⟨.detachLoop (loopNode 0), .ok ()⟩,
    ⟨.detachLoop (loopNode 1), .ok ()⟩,
    ⟨.releaseLock chain.lockPath, ()⟩]

/-- The host of that activation before it. -/
def hostOfFailedGrowth (chain : Chain) : HostDevices where
  nodes := {chain.paddedBasePath}
  backing _ := none
  sizes path := if path = "overlay" then 20 else 10
  isBlock _ := false

theorem isRun_failedGrowth (chain : Chain) (failure : Failure) :
    (chain.activate "image" "overlay").attempt.IsRun (chain.failedGrowth failure)
      (some (.error (.within (.growing chain.devicePath) failure))) := by
  iterate 18 refine .ask _ ?_
  exact .done _

/-- What that activation does under the lock until the device is made. -/
def makingOfFailedGrowth (chain : Chain) : History Devices :=
  let base := paddedBaseTable? (loopNode 0) 10 20
  let snapshot := snapshotTable 20 chain.paddedBasePath (loopNode 1) chain.chunkSectors
  [⟨.deviceExists chain.devicePath, false⟩,
    ⟨.isBlockDevice "image", false⟩,
    ⟨.attachLoop "image" true, .ok (loopNode 0)⟩,
    ⟨.attachLoop "overlay" false, .ok (loopNode 1)⟩,
    ⟨.sizeSectors (loopNode 0), .ok 10⟩,
    ⟨.sizeSectors (loopNode 1), .ok 20⟩,
    ⟨.mappingExists (paddedBaseName chain.uid), true⟩,
    ⟨.removeMappings [paddedBaseName chain.uid], .ok ()⟩,
    ⟨.createMapping (paddedBaseName chain.uid) (base.getD []).text, .ok ()⟩,
    ⟨.createMapping (snapshotName chain.uid) snapshot.text, .ok ()⟩]

/-- What it does under the lock after that. -/
def undoingOfFailedGrowth (chain : Chain) (failure : Failure) : History Devices :=
  [⟨.checkFilesystem chain.devicePath, .ok ()⟩,
    ⟨.growFilesystem chain.devicePath, .error failure⟩,
    ⟨.removeMappings (chain.mappingNames true), .ok ()⟩,
    ⟨.detachLoop (loopNode 0), .ok ()⟩,
    ⟨.detachLoop (loopNode 1), .ok ()⟩]

/-- The host with the device made. -/
def hostWithDevice (chain : Chain) : HostDevices :=
  let attached :=
    (chain.hostOfFailedGrowth.attach (loopNode 0) "image").attach (loopNode 1) "overlay"
  (attached.remove chain.paddedBasePath).withMappings (chain.mappingNames true)

/-- The host after all of it. -/
def hostAfterFailedGrowth (chain : Chain) : HostDevices :=
  let rolledBack := (chain.hostWithDevice.remove chain.devicePath).remove chain.paddedBasePath
  (rolledBack.remove (loopNode 0)).remove (loopNode 1)

theorem allows_makingOfFailedGrowth (chain : Chain) : (conduct faults).Allows past
    chain.hostOfFailedGrowth chain.makingOfFailedGrowth chain.hostWithDevice := by
  have hdevice : chain.devicePath ∉ chain.hostOfFailedGrowth.nodes :=
    chain.devicePath_ne_paddedBasePath
  have hfirst : chain.hostOfFailedGrowth.IsFreeLoop (loopNode 0) :=
    ⟨chain.loopNode_ne_paddedBasePath 0, 0, rfl⟩
  have hloops : loopNode 1 ≠ loopNode 0 := by decide
  have hsecond :
      (chain.hostOfFailedGrowth.attach (loopNode 0) "image").IsFreeLoop (loopNode 1) := by
    refine ⟨?_, 1, rfl⟩
    rintro (hequal | hequal)
    · exact hloops hequal
    · exact chain.loopNode_ne_paddedBasePath 1 hequal
  let attached :=
    (chain.hostOfFailedGrowth.attach (loopNode 0) "image").attach (loopNode 1) "overlay"
  have hstale : chain.paddedBasePath ∈ attached.nodes := .inr (.inr rfl)
  refine .cons ⟨iff_of_false Bool.false_ne_true hdevice, rfl⟩ ?_
  refine .cons ⟨rfl, rfl⟩ ?_
  refine .cons ⟨hfirst, rfl⟩ ?_
  refine .cons ⟨hsecond, rfl⟩ ?_
  refine .cons ⟨rfl, rfl⟩ ?_
  refine .cons ⟨rfl, rfl⟩ ?_
  refine .cons ⟨iff_of_true rfl hstale, rfl⟩ ?_
  refine .cons (Removes.present hstale (.nil _)) ?_
  refine .cons rfl ?_
  exact Conduct.allows_singleton rfl

theorem allows_undoingOfFailedGrowth (chain : Chain) (failure : Failure) :
    (conduct growingFails).Allows past chain.hostWithDevice (chain.undoingOfFailedGrowth failure)
      chain.hostAfterFailedGrowth := by
  have hsnapshot : chain.devicePath ∈ chain.hostWithDevice.nodes := .inl rfl
  have hpadded : chain.paddedBasePath ∈ (chain.hostWithDevice.remove chain.devicePath).nodes :=
    ⟨.inr (.inl rfl), chain.devicePath_ne_paddedBasePath.symm⟩
  refine .cons rfl ?_
  refine .cons ⟨⟨_, rfl⟩, rfl⟩ ?_
  refine .cons (Removes.present hsnapshot (Removes.present hpadded (.nil _))) ?_
  refine .cons rfl ?_
  exact Conduct.allows_singleton rfl

/-- Everything up to the failure, and what is undone after it, is allowed. -/
theorem allows_failedGrowth (chain : Chain) (failure : Failure) :
    ∃ after, (conduct growingFails).Allows [] chain.hostOfFailedGrowth
      (chain.failedGrowth failure) after := by
  have hdevice : chain.devicePath ∉ chain.hostOfFailedGrowth.nodes :=
    chain.devicePath_ne_paddedBasePath
  refine ⟨chain.hostAfterFailedGrowth, ?_⟩
  refine .cons ⟨iff_of_false Bool.false_ne_true hdevice, rfl⟩ (.cons rfl ?_)
  refine chain.allows_makingOfFailedGrowth.append ?_
  exact (chain.allows_undoingOfFailedGrowth failure).append (Conduct.allows_singleton rfl)

theorem sparesCleanUp_growingFails : FaultPattern.SparesCleanUp growingFails where
  detaches := by
    rintro past node ⟨device, hequal⟩
    cases hequal
  rollsBack := by
    rintro past names - ⟨device, hequal⟩
    cases hequal

/-- An activation whose last step fails leaves what was there before it. -/
theorem activate_failedGrowth_all_or_nothing :
    let chain : Chain := ⟨"abc", "/run/lock", 8⟩
    ∃ after outcome, chain.devicePath ∉ chain.hostOfFailedGrowth.nodes ∧
      (conduct growingFails).Allows [] chain.hostOfFailedGrowth
        (chain.failedGrowth (.cause .deviceInactive)) after ∧
      outcome = .error (.within (.growing chain.devicePath) (.cause .deviceInactive)) ∧
      chain.AllOrNothing chain.hostOfFailedGrowth.nodes true outcome after.nodes := by
  intro chain
  obtain ⟨after, hallows⟩ := chain.allows_failedGrowth (.cause .deviceInactive)
  have hdevice : chain.devicePath ∉ chain.hostOfFailedGrowth.nodes :=
    chain.devicePath_ne_paddedBasePath
  obtain ⟨outcome, houtcome, habsent, -⟩ := chain.activate_all_or_nothing
    sparesCleanUp_growingFails (chain.isRun_failedGrowth (.cause .deviceInactive)) hallows
  exact ⟨after, outcome, hdevice, hallows, (Option.some.inj houtcome).symm, habsent hdevice⟩

end Chain

end MicroVm.Storage

import MicroVm.Proofs.Storage.Activation
import MicroVm.Proofs.Storage.TableMeaning

/-!
# What an activation without faults lays out

On a host where no call fails an activation of a root device that is not there succeeds. What it
asks for on the way is followed here as far as it makes mappings or touches the filesystem: the
layout of the machine, on the nodes of the image and of the overlay and for the sizes that these
have on the host.
-/

namespace MicroVm.Storage

open HostDevices

/-! ## What is asked for -/

/-- The request of an event, if it makes a mapping or touches the filesystem. -/
def layoutRequest? : Event Devices → Option DeviceRequest
  | ⟨.createMapping name table, _⟩ => some (.createMapping name table)
  | ⟨.checkFilesystem device, _⟩ => some (.checkFilesystem device)
  | ⟨.growFilesystem device, _⟩ => some (.growFilesystem device)
  | _ => none

/-- The requests of a history that make mappings or touch the filesystem, in order. -/
def layoutOf (history : History Devices) : List DeviceRequest := history.filterMap layoutRequest?

/-- Whether the events that were added have made the given requests. -/
structure Lays (past : History Devices) (requests : List DeviceRequest)
    (later : History Devices) : Prop where
  begins : past <+: later
  layout : layoutOf later = layoutOf past ++ requests

section Lays

variable {past middle later : History Devices} {requests others : List DeviceRequest}

theorem Lays.refl (past : History Devices) : Lays past [] past :=
  ⟨List.prefix_rfl, (List.append_nil _).symm⟩

theorem Lays.concat {event : Event Devices} (hevent : (layoutRequest? event).toList = requests) :
    Lays past requests (past ++ [event]) where
  begins := List.prefix_append past [event]
  layout := by
    rw [layoutOf, List.filterMap_append, ← hevent]
    cases hrequest : layoutRequest? event with
    | none => rw [List.filterMap_cons_none hrequest]; rfl
    | some request => rw [List.filterMap_cons_some hrequest]; rfl

/-- What is laid in two parts is laid one after the other. -/
theorem Lays.trans (hfirst : Lays past requests middle) (hlater : Lays middle others later) :
    Lays past (requests ++ others) later where
  begins := hfirst.begins.trans hlater.begins
  layout := by
    calc
      layoutOf later = layoutOf middle ++ others := hlater.layout
      _ = (layoutOf past ++ requests) ++ others := by rw [hfirst.layout]
      _ = layoutOf past ++ (requests ++ others) := List.append_assoc _ _ _

end Lays

/-! ## Calls that do not fail -/

/-- The pattern of a host where nothing fails. -/
def noFaults : FaultPattern := fun _ _ ↦ False

variable {past : History Devices} {host : HostDevices}

/-- Making a mapping succeeds, and its table is all that is laid out. -/
theorem Device.mapper_activate_lays {name table : String} :
    (Device.mapper name table).activate.attempt.Ensures (conduct noFaults) past host
      fun result later _ ↦ result = .ok (.mapper name table) ∧
        Lays past [.createMapping name table] later := by
  apply Task.ensures_bind
  apply Task.ensures_within
  apply Program.ensures_perform
  intro result after hstep
  cases result with
  | error failure => exact hstep.1.elim
  | ok value => exact Program.ensures_done ⟨rfl, Lays.concat rfl⟩

theorem Devices.checkFilesystem_lays {device : String} :
    (Devices.checkFilesystem device).attempt.Ensures (conduct noFaults) past host
      fun _ later _ ↦ Lays past [.checkFilesystem device] later :=
  Program.ensures_perform fun _ _ _ ↦ Lays.concat rfl

/-- Growing the filesystem succeeds and is all that is done for the layout. -/
theorem Devices.growFilesystem_lays {device : String} :
    (Task.within (.growing device) (Devices.growFilesystem device)).attempt.Ensures
      (conduct noFaults) past host
      fun result later _ ↦ result = .ok () ∧ Lays past [.growFilesystem device] later := by
  apply Task.ensures_within
  apply Program.ensures_perform
  intro result after hstep
  cases result with
  | error failure => exact hstep.1.elim
  | ok value => exact ⟨rfl, Lays.concat rfl⟩

theorem Devices.sizeSectors_lays {node : String} :
    (Devices.sizeSectors node).attempt.Ensures (conduct noFaults) past host
      fun result later after ↦ result = .ok (host.sectors node) ∧ after = host ∧
        Lays past [] later := by
  apply Program.ensures_perform
  intro result after hstep
  cases result with
  | error failure => exact hstep.1.elim
  | ok size =>
    obtain ⟨rfl, rfl⟩ := hstep
    exact ⟨rfl, rfl, Lays.concat rfl⟩

/-- A mapping that is there can be removed. -/
theorem Devices.removeMapping_lays {name : String} (hpresent : mapperPath name ∈ host.nodes) :
    (Devices.removeMappings [name]).attempt.Ensures (conduct noFaults) past host
      fun result later _ ↦ result = .ok () ∧ Lays past [] later := by
  apply Program.ensures_perform
  intro result after hstep
  cases result with
  | ok value => exact ⟨rfl, Lays.concat rfl⟩
  | error failure =>
    obtain ⟨hfault, -⟩ | ⟨-, _, hremoves⟩ := hstep
    · exact hfault.elim
    · cases hremoves with
      | missing habsent => exact absurd hpresent habsent
      | present _ hrest => cases hrest

namespace Chain

variable (chain : Chain)

theorem stackSnapshot_lays (grows : Bool) (origin overlay : String) (sectors : ℕ)
    (made : List String) :
    (stackSnapshot chain grows origin overlay sectors made).Ensures (conduct noFaults) past host
      fun (result, _) later _ ↦ result = .ok chain.devicePath ∧
        Lays past ([.createMapping (snapshotName chain.uid)
            (snapshotTable sectors origin overlay chain.chunkSectors).text,
          .checkFilesystem chain.devicePath] ++
            if grows then [.growFilesystem chain.devicePath] else []) later := by
  unfold stackSnapshot
  apply Program.ensures_bind
  apply Device.mapper_activate_lays.mono
  rintro _ middle _ ⟨rfl, hmade⟩
  apply Program.ensures_bind
  apply Devices.checkFilesystem_lays.mono
  intro _ checked _ hchecked
  have hlaid := hmade.trans hchecked
  cases grows with
  | false => exact Program.ensures_done ⟨rfl, hlaid.trans (Lays.refl _)⟩
  | true =>
    apply Program.ensures_bind
    apply Devices.growFilesystem_lays.mono
    rintro _ grown _ ⟨rfl, hgrown⟩
    exact Program.ensures_done ⟨rfl, hlaid.trans hgrown⟩

/-- Without faults, stacking lays the chain out and gives its device. -/
theorem stack_lays (base overlay : String) (baseSectors overlaySectors : ℕ) :
    (stack chain base baseSectors overlay overlaySectors).Ensures (conduct noFaults) past host
      fun (result, _) later _ ↦ result = .ok chain.devicePath ∧
        Lays past (chain.layout base baseSectors overlay overlaySectors) later := by
  unfold stack layout
  by_cases hgrows : baseSectors < overlaySectors
  · rw [if_pos hgrows, if_pos hgrows, paddedBaseTable?, if_pos hgrows.le]
    apply Program.ensures_bind
    apply Device.mapper_activate_lays.mono
    rintro _ middle _ ⟨rfl, hpadded⟩
    apply (chain.stackSnapshot_lays true _ overlay overlaySectors _).mono
    rintro ⟨result, made⟩ later _ ⟨hresult, hlaid⟩
    exact ⟨hresult, hpadded.trans hlaid⟩
  · rw [if_neg hgrows, if_neg hgrows]
    exact chain.stackSnapshot_lays false base overlay overlaySectors []

theorem stackOrRollBack_lays (base overlay : String) (baseSectors overlaySectors : ℕ) :
    (stackOrRollBack chain base baseSectors overlay overlaySectors).Ensures (conduct noFaults)
      past host fun result later _ ↦ result = .ok chain.devicePath ∧
        Lays past (chain.layout base baseSectors overlay overlaySectors) later := by
  unfold stackOrRollBack
  apply Program.ensures_bind
  apply (chain.stack_lays base overlay baseSectors overlaySectors).mono
  rintro ⟨result, made⟩ later _ ⟨rfl, hlaid⟩
  exact Program.ensures_done ⟨rfl, hlaid⟩

/-- Without faults, building lays the chain out on the nodes of its devices. -/
theorem build_lays {base overlay : Device} {baseNode overlayNode : String}
    (hbase : base.node? = some baseNode) (hoverlay : overlay.node? = some overlayNode)
    (hfits : host.sectors baseNode ≤ host.sectors overlayNode) :
    (build chain base overlay).attempt.Ensures (conduct noFaults) past host
      fun result later _ ↦ result = .ok chain.devicePath ∧
        Lays past (chain.layout baseNode (host.sectors baseNode) overlayNode
          (host.sectors overlayNode)) later := by
  unfold build Device.requireNode
  rw [hbase, hoverlay]
  refine Task.ensures_bind (Program.ensures_done ?_)
  refine Task.ensures_bind (Program.ensures_done ?_)
  apply Task.ensures_bind
  apply Devices.sizeSectors_lays.mono
  rintro _ first _ ⟨rfl, rfl, hfirst⟩
  apply Task.ensures_bind
  apply Devices.sizeSectors_lays.mono
  rintro _ second host ⟨rfl, rfl, hsecond⟩
  dsimp only
  rw [if_neg (Nat.not_lt_of_le hfits)]
  have hsized := hfirst.trans hsecond
  apply Task.ensures_liftM_bind
  apply Program.ensures_perform
  rintro found _ ⟨hfound, rfl⟩
  have hasked : Lays past [] (second ++ [⟨.mappingExists (paddedBaseName chain.uid), found⟩]) :=
    hsized.trans (Lays.concat rfl)
  cases found with
  | false =>
    apply (chain.stackOrRollBack_lays _ _ _ _).mono
    rintro _ later _ ⟨rfl, hlaid⟩
    exact ⟨rfl, hasked.trans hlaid⟩
  | true =>
    apply Task.ensures_bind
    apply Task.ensures_within
    apply (Devices.removeMapping_lays (hfound.1 rfl)).mono
    rintro _ removed _ ⟨rfl, hremoved⟩
    apply (chain.stackOrRollBack_lays _ _ _ _).mono
    rintro _ later _ ⟨rfl, hlaid⟩
    exact ⟨rfl, (hasked.trans hremoved).trans hlaid⟩

end Chain

/-! ## The nodes of the image and of the overlay -/

theorem isWord_loopNode (number : ℕ) : Text.IsWord (loopNode number).toList := by
  have hfront : Text.IsWord "/dev/loop".toList := ⟨by decide, by decide⟩
  rw [loopNode, String.toList_append, Text.toList_toString]
  exact hfront.append (Text.isWord_decimal number).hasNoBlank

theorem HostDevices.IsFreeLoop.isWord {node : String} (hfree : host.IsFreeLoop node) :
    Text.IsWord node.toList := by
  obtain ⟨-, number, rfl⟩ := hfree
  exact isWord_loopNode number

/-- Whether a file was attached to a node. -/
def AttachedTo (file : String) (readOnly : Bool) (node : String) (history : History Devices) :
    Prop :=
  (⟨.attachLoop file readOnly, .ok node⟩ : Event Devices) ∈ history

/-- Whether a node is the one of an image: the image itself, or a loop that it was attached to. -/
def HostDevices.IsImageNode (host : HostDevices) (base node : String)
    (history : History Devices) : Prop :=
  if host.isBlock base then node = base else AttachedTo base true node history

theorem HostDevices.IsImageNode.mono {base node : String} {later : History Devices}
    (hnode : host.IsImageNode base node past) (hbegins : past <+: later) :
    host.IsImageNode base node later := by
  unfold IsImageNode at hnode ⊢
  split
  next hblock => rwa [if_pos hblock] at hnode
  next hfile =>
    rw [if_neg hfile] at hnode
    exact hbegins.subset hnode

theorem Device.loop_activate_lays {file : String} {readOnly : Bool} :
    (Device.loop file readOnly none).activate.attempt.Ensures (conduct noFaults) past host
      fun result later after ↦ ∃ device node, result = .ok device ∧
        device.IsAttached host node (host.sizes file) after ∧ AttachedTo file readOnly node later ∧
        Text.IsWord node.toList ∧ Lays past [] later := by
  apply Task.ensures_bind
  apply Task.ensures_within
  apply Program.ensures_perform
  intro result after hstep
  cases result with
  | error failure => exact hstep.1.elim
  | ok node =>
    obtain ⟨hfree, rfl⟩ := hstep
    exact Program.ensures_done ⟨_, node, rfl, isAttached_attach hfree, List.mem_concat_self,
      hfree.isWord, Lays.concat rfl⟩

theorem Device.physical_activate_lays {path : String} (hpresent : path ∈ host.nodes) :
    (Device.physical path).activate.attempt.Ensures (conduct noFaults) past host
      fun result later after ↦ result = .ok (.physical path) ∧ after = host ∧
        Lays past [] later := by
  apply Task.ensures_liftM_bind
  apply Program.ensures_perform
  rintro found _ ⟨hfound, rfl⟩
  obtain rfl := hfound.2 hpresent
  exact Program.ensures_done ⟨rfl, rfl, Lays.concat rfl⟩

/-- The device of an image gets its node, for which nothing is laid out. -/
theorem HostDevices.imageDevice_activate_lays {base : String}
    (hpresent : host.isBlock base = true → base ∈ host.nodes) (hbase : Text.IsWord base.toList) :
    (host.imageDevice base).activate.attempt.Ensures (conduct noFaults) past host
      fun result later after ↦ ∃ device node, result = .ok device ∧
        device.IsAttached host node (host.imageSectors base) after ∧
        host.IsImageNode base node later ∧ Text.IsWord node.toList ∧ Lays past [] later := by
  unfold imageDevice imageSectors IsImageNode
  cases hblock : host.isBlock base with
  | false => exact Device.loop_activate_lays
  | true =>
    have hnode : base ∈ host.nodes := hpresent hblock
    apply (Device.physical_activate_lays hnode).mono
    rintro _ later _ ⟨rfl, rfl, hlaid⟩
    exact ⟨_, base, rfl, isAttached_physical hnode, rfl, hbase, hlaid⟩

theorem Device.release_lays (device : Device) :
    device.release.attempt.Ensures (conduct noFaults) past host
      fun _ later _ ↦ Lays past [] later := by
  obtain ⟨file, readOnly, _ | node⟩ | path | ⟨name, table⟩ := device
  · exact Program.ensures_done (Lays.refl past)
  · exact Task.ensures_within (Program.ensures_perform fun _ _ _ ↦ Lays.concat rfl)
  · exact Program.ensures_done (Lays.refl past)
  · exact Program.ensures_done (Lays.refl past)

/-! ## The whole activation -/

namespace Chain

/-- Whether events have laid out the root device of a machine over the nodes of an image and of an
overlay. -/
structure IsLaidOut (chain : Chain) (host : HostDevices) (base overlay : String)
    (past later : History Devices) (baseNode overlayNode : String) : Prop where
  image : host.IsImageNode base baseNode later
  store : AttachedTo overlay false overlayNode later
  isWord_image : Text.IsWord baseNode.toList
  isWord_store : Text.IsWord overlayNode.toList
  lays : Lays past (chain.layout baseNode (host.imageSectors base) overlayNode
    (host.sizes overlay)) later

variable {chain : Chain} {base overlay : String}

/-- Requests of other kinds may come before and after. -/
theorem IsLaidOut.extend {first later last : History Devices} {baseNode overlayNode : String}
    (hlaid : chain.IsLaidOut host base overlay past later baseNode overlayNode)
    (hbefore : Lays first [] past) (hafter : Lays later [] last) :
    chain.IsLaidOut host base overlay first last baseNode overlayNode where
  image := hlaid.image.mono hafter.begins
  store := hafter.begins.subset hlaid.store
  isWord_image := hlaid.isWord_image
  isWord_store := hlaid.isWord_store
  lays := by
    have hwhole := (hbefore.trans hlaid.lays).trans hafter
    rwa [List.nil_append, List.append_nil] at hwhole

/-- Whether a result is the root device of a machine, and events have laid it out. -/
def IsMade (chain : Chain) (host : HostDevices) (base overlay : String)
    (past : History Devices) (result : Except Failure String) (later : History Devices) : Prop :=
  result = .ok chain.devicePath ∧ ∃ baseNode overlayNode,
    chain.IsLaidOut host base overlay past later baseNode overlayNode

/-- What lays nothing out may come before an activation and after it. -/
theorem IsMade.extend {first later last : History Devices} {result : Except Failure String}
    (hmade : chain.IsMade host base overlay past result later)
    (hbefore : Lays first [] past) (hafter : Lays later [] last) :
    chain.IsMade host base overlay first result last := by
  obtain ⟨hresult, baseNode, overlayNode, hlaid⟩ := hmade
  exact ⟨hresult, baseNode, overlayNode, hlaid.extend hbefore hafter⟩

/-- What an activation needs of the host and of the path of the image. -/
structure IsReady (chain : Chain) (host : HostDevices) (base overlay : String) : Prop where
  absent : chain.devicePath ∉ host.nodes
  /-- A block device has its node. -/
  present : host.isBlock base = true → base ∈ host.nodes
  fits : host.imageSectors base ≤ host.sizes overlay
  isWord : Text.IsWord base.toList

theorem assemble_lays (hready : chain.IsReady host base overlay) :
    (assemble chain (host.imageDevice base) (.loop overlay false none)).Ensures (conduct noFaults)
      past host fun (result, _, _) later _ ↦
        chain.IsMade host base overlay past result later := by
  unfold assemble
  apply Program.ensures_bind
  apply (host.imageDevice_activate_lays hready.present hready.isWord).mono
  rintro _ first after ⟨baseDevice, baseNode, rfl, hattached, hnode, hword, hfirst⟩
  apply Program.ensures_bind
  apply Device.loop_activate_lays.mono
  rintro _ second middle ⟨overlayDevice, overlayNode, rfl, hoverlay, hloop, hloopWord, hsecond⟩
  have hbaseSectors : middle.sectors baseNode = host.imageSectors base :=
    (hoverlay.keeps baseNode hattached.present).trans hattached.size
  have hoverlaySectors : middle.sectors overlayNode = host.sizes overlay := by
    rw [hoverlay.size, hattached.sizes]
  have hfits : middle.sectors baseNode ≤ middle.sectors overlayNode := by
    rw [hbaseSectors, hoverlaySectors]
    exact hready.fits
  apply Program.ensures_bind
  apply (chain.build_lays hattached.hasNode hoverlay.hasNode hfits).mono
  intro result later _ ⟨hresult, hlaid⟩
  rw [hbaseSectors, hoverlaySectors] at hlaid
  refine Program.ensures_done ⟨hresult, baseNode, overlayNode, ?_⟩
  exact {
    image := hnode.mono (hsecond.begins.trans hlaid.begins)
    store := hlaid.begins.subset hloop
    isWord_image := hword
    isWord_store := hloopWord
    lays := (hfirst.trans hsecond).trans hlaid }

/-- A test whether a device is there makes no mapping. -/
theorem exists?_lays {path : String} (habsent : path ∉ host.nodes) :
    (Devices.exists? path).Ensures (conduct noFaults) past host
      fun found later after ↦ found = false ∧ after = host ∧ Lays past [] later := by
  apply Program.ensures_perform
  rintro found _ ⟨hfound, rfl⟩
  cases found with
  | false => exact ⟨rfl, rfl, Lays.concat rfl⟩
  | true => exact absurd (hfound.1 rfl) habsent

theorem baseDevice_lays (base : String) :
    (baseDevice base).Ensures (conduct noFaults) past host
      fun device later after ↦ device = host.imageDevice base ∧ after = host ∧
        Lays past [] later := by
  refine Program.ensures_bind (Program.ensures_perform ?_)
  rintro found after ⟨rfl, rfl⟩
  unfold imageDevice
  cases after.isBlock base with
  | false => exact Program.ensures_done ⟨rfl, rfl, Lays.concat rfl⟩
  | true => exact Program.ensures_done ⟨rfl, rfl, Lays.concat rfl⟩

/-- Without faults, an activation on a host that is ready makes the chain. -/
theorem activateLocked_lays (hready : chain.IsReady host base overlay) :
    (activateLocked chain base overlay).attempt.Ensures (conduct noFaults) past host
      fun result later _ ↦ chain.IsMade host base overlay past result later := by
  apply Task.ensures_liftM_bind
  apply (exists?_lays hready.absent).mono
  rintro _ first _ ⟨rfl, rfl, hfirst⟩
  apply Task.ensures_liftM_bind
  apply (baseDevice_lays base).mono
  rintro _ asked host ⟨rfl, rfl, hasked⟩
  apply Task.ensures_liftM_bind
  apply (assemble_lays hready).mono
  intro ⟨result, baseDevice, overlayDevice⟩ assembled _ hmade
  apply Task.ensures_liftM_bind
  apply baseDevice.release_lays.mono
  intro _ released _ hreleased
  apply Task.ensures_liftM_bind
  apply overlayDevice.release_lays.mono
  intro _ last _ hlast
  apply Program.ensures_done
  exact hmade.extend (hfirst.trans hasked) (hreleased.trans hlast)

/-- Taking the lock and giving it back makes no mapping. -/
theorem withLock_lays {path : String} {task : Task Devices String}
    (htask : ∀ past, task.attempt.Ensures (conduct noFaults) past host
      fun result later _ ↦ chain.IsMade host base overlay past result later) :
    (Devices.withLock path task).attempt.Ensures (conduct noFaults) past host
      fun result later _ ↦ chain.IsMade host base overlay past result later := by
  apply Task.ensures_bind
  apply Program.ensures_perform
  intro acquired after hstep
  cases acquired with
  | error failure => exact hstep.1.elim
  | ok value =>
    obtain rfl := hstep
    apply Task.ensures_liftM_bind
    apply (htask _).mono
    intro result later _ hmade
    apply Task.ensures_liftM_bind
    apply Program.ensures_perform
    rintro - _ -
    exact Program.ensures_done (hmade.extend (Lays.concat rfl) (Lays.concat rfl))

/-- An activation at which nothing fails lays out what its machine needs. -/
theorem activate_lays (hready : chain.IsReady host base overlay) :
    (chain.activate base overlay).attempt.Ensures (conduct noFaults) past host
      fun result later _ ↦ chain.IsMade host base overlay past result later := by
  apply Task.ensures_liftM_bind
  apply (exists?_lays hready.absent).mono
  rintro _ first host ⟨rfl, rfl, hfirst⟩
  apply (withLock_lays fun _ ↦ activateLocked_lays hready).mono
  intro result later _ hmade
  exact hmade.extend hfirst (Lays.refl later)

variable (chain)

/-- Without faults, an activation of a root device that is not there lays it out over the image and
the overlay, for the sizes that these have. -/
theorem activate_laysOut {history : History Devices} {result : Option (Except Failure String)}
    {after : HostDevices}
    (hrun : (chain.activate base overlay).attempt.IsRun history result)
    (hallows : (conduct noFaults).Allows [] host history after)
    (hready : chain.IsReady host base overlay)
    (huid : Text.HasNoBlank chain.uid.toList) :
    result = some (.ok chain.devicePath) ∧
      ∃ baseNode overlayNode, host.IsImageNode base baseNode history ∧
        AttachedTo overlay false overlayNode history ∧
        chain.LaysOut baseNode (host.imageSectors base) overlayNode (host.sizes overlay)
          (layoutOf history) := by
  obtain ⟨_, rfl, rfl, baseNode, overlayNode, hlaid⟩ := activate_lays hready hrun hallows
  have hwords : chain.HasWords baseNode overlayNode :=
    ⟨hlaid.isWord_image, hlaid.isWord_store, huid⟩
  have hlayout : layoutOf history = chain.layout baseNode (host.imageSectors base) overlayNode
      (host.sizes overlay) := hlaid.lays.layout
  refine ⟨rfl, baseNode, overlayNode, hlaid.image, hlaid.store, ?_⟩
  rw [hlayout]
  exact laysOut_layout hready.fits hwords

/-- The activation whose growth fails, but with nothing failing. -/
def grownActivation (chain : Chain) : History Devices :=
  [⟨.deviceExists chain.devicePath, false⟩, ⟨.acquireLock chain.lockPath, .ok ()⟩] ++
    (chain.makingOfFailedGrowth ++
      [⟨.checkFilesystem chain.devicePath, .ok ()⟩,
        ⟨.growFilesystem chain.devicePath, .ok ()⟩,
        ⟨.detachLoop (loopNode 0), .ok ()⟩,
        ⟨.detachLoop (loopNode 1), .ok ()⟩,
        ⟨.releaseLock chain.lockPath, ()⟩])

theorem isRun_grownActivation :
    (chain.activate "image" "overlay").attempt.IsRun chain.grownActivation
      (some (.ok chain.devicePath)) := by
  iterate 17 refine .ask _ ?_
  exact .done _

theorem allows_grownActivation :
    (conduct noFaults).Allows [] chain.hostOfFailedGrowth chain.grownActivation
      ((chain.hostWithDevice.remove (loopNode 0)).remove (loopNode 1)) := by
  have hdevice : chain.devicePath ∉ chain.hostOfFailedGrowth.nodes :=
    chain.devicePath_ne_paddedBasePath
  refine .cons ⟨iff_of_false Bool.false_ne_true hdevice, rfl⟩ (.cons rfl ?_)
  apply chain.allows_makingOfFailedGrowth.append
  refine .cons rfl (.cons rfl (.cons rfl (.cons rfl ?_)))
  exact Conduct.allows_singleton rfl

/-- An image of ten sectors under an overlay of twenty is filled up with ten that are zero. -/
theorem activate_laysOut_grown :
    let chain : Chain := ⟨"abc", "/run/lock", 8⟩
    ∃ after baseNode overlayNode,
      (conduct noFaults).Allows [] chain.hostOfFailedGrowth chain.grownActivation after ∧
      chain.LaysOut baseNode 10 overlayNode 20 (layoutOf chain.grownActivation) := by
  intro chain
  have hready : chain.IsReady chain.hostOfFailedGrowth "image" "overlay" := {
    absent := chain.devicePath_ne_paddedBasePath
    present := nofun
    fits := by decide
    isWord := ⟨by decide, by decide⟩ }
  obtain ⟨-, baseNode, overlayNode, -, -, hlaysOut⟩ := chain.activate_laysOut
    chain.isRun_grownActivation chain.allows_grownActivation hready (by decide)
  exact ⟨_, baseNode, overlayNode, chain.allows_grownActivation, hlaysOut⟩

end Chain

end MicroVm.Storage

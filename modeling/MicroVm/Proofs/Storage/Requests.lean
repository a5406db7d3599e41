import MicroVm.Proofs.Program.Requests
import MicroVm.Proofs.Storage.Attachment

/-!
# What is asked for under the lock

Under the lock of the host, an activation and a deactivation make and remove mappings of their own
machine only, detach only loops that they have attached, and leave the lock alone. An activation
attaches before it takes anything away, and it removes the snapshot only after a filesystem could
not be grown. None of the two crashes.
-/

namespace MicroVm.Storage

open HostDevices

/-- Whether a loop was attached. -/
def WasAttached (past : History Devices) (node : String) : Prop :=
  ∃ file readOnly, (⟨.attachLoop file readOnly, .ok node⟩ : Event Devices) ∈ past

/-- Whether a request is to take nodes away. -/
def DeviceRequest.takesAway : DeviceRequest → Bool
  | .detachLoop _ => true
  | .removeMappings _ => true
  | _ => false

/-- Whether a request is to attach a file. -/
def DeviceRequest.attaches : DeviceRequest → Bool
  | .attachLoop _ _ => true
  | _ => false

/-- Whether a request attaches or detaches a loop. -/
def DeviceRequest.isLoopCall : DeviceRequest → Bool
  | .attachLoop _ _ => true
  | .detachLoop _ => true
  | _ => false

/-- Whether a request asks for the size of a device. -/
def DeviceRequest.measures : DeviceRequest → Bool
  | .sizeSectors _ => true
  | _ => false

/-- Whether nothing was to be taken away so far. -/
def NothingTaken (past : History Devices) : Prop :=
  ∀ event ∈ past, DeviceRequest.takesAway event.request = false

theorem nothingTaken_concat {past : History Devices} (hpast : NothingTaken past)
    (event : Event Devices) (hevent : DeviceRequest.takesAway event.request = false) :
    NothingTaken (past ++ [event]) :=
  List.forall_mem_append.2 ⟨hpast, List.forall_mem_singleton.2 hevent⟩

/-- Whether what is there for a device only was attached. -/
def Device.IsAttachedIn (device : Device) (past : History Devices) : Prop :=
  ∀ node ∈ device.attached, WasAttached past node

theorem Device.IsAttachedIn.later {device : Device} {past later : History Devices}
    (hattached : device.IsAttachedIn past) (hbegins : past <+: later) :
    device.IsAttachedIn later := by
  intro node hnode
  obtain ⟨file, readOnly, hmem⟩ := hattached node hnode
  exact ⟨file, readOnly, hbegins.subset hmem⟩

namespace Chain

/-- Whether the filesystem of the root device could not be grown. -/
def GrowthFailed (chain : Chain) (past : History Devices) : Prop :=
  ∃ failure, (⟨.growFilesystem chain.devicePath, .error failure⟩ : Event Devices) ∈ past

/-- The requests that touch no mapping of another machine, no loop that was there before and no
lock. -/
def KeepsToItself (chain : Chain) (past : History Devices) : DeviceRequest → Prop
  | .createMapping name _ => name ∈ chain.mappingNames true
  | .removeMappings names => names ⊆ chain.mappingNames true
  | .detachLoop node => WasAttached past node
  | .acquireLock _ => False
  | .releaseLock _ => False
  | _ => True

/-- The order that an activation keeps: loops are attached before anything is taken away, and the
snapshot is removed only after a failure to grow. -/
def KeepsOrder (chain : Chain) (past : History Devices) : DeviceRequest → Prop
  | .attachLoop _ _ => NothingTaken past
  | .removeMappings names => snapshotName chain.uid ∈ names → chain.GrowthFailed past
  | _ => True

/-- The requests of an activation under the lock. -/
def ActivationKind (chain : Chain) : Program.RequestKind Devices :=
  fun past request ↦ chain.KeepsToItself past request ∧ chain.KeepsOrder past request

/-- The requests of an activation that builds on two devices, which leaves loops alone. -/
def BuildKind (chain : Chain) : Program.RequestKind Devices :=
  fun past request ↦ chain.ActivationKind past request ∧ request.isLoopCall = false

/-- The requests of an activation that makes mappings, for which the sizes are known. -/
def StackKind (chain : Chain) : Program.RequestKind Devices :=
  fun past request ↦ chain.BuildKind past request ∧ request.measures = false

/-- The requests of a deactivation under the lock. -/
def DeactivationKind (chain : Chain) : Program.RequestKind Devices :=
  fun past request ↦ chain.KeepsToItself past request ∧ request.attaches = false

variable (chain : Chain) {past : History Devices}

theorem snapshotName_ne_paddedBaseName :
    snapshotName chain.uid ≠ paddedBaseName chain.uid :=
  fun hequal ↦ chain.devicePath_ne_paddedBasePath (congrArg mapperPath hequal)

/-! ## Devices -/

theorem loop_activate_asks (file : String) (readOnly : Bool) (hpast : NothingTaken past) :
    (Device.loop file readOnly none).activate.attempt.Asks chain.ActivationKind past
      fun result later ↦ NothingTaken later ∧
        ∀ device, result = .ok device → device.IsAttachedIn later := by
  apply Task.asks_bind
  apply Task.asks_within
  apply Program.asks_perform
  · exact ⟨trivial, hpast⟩
  intro answer
  have hlater := nothingTaken_concat hpast ⟨.attachLoop file readOnly, answer⟩ rfl
  cases answer with
  | error failure => exact ⟨hlater, fun _ hok ↦ nomatch hok⟩
  | ok node =>
    refine .done ⟨hlater, fun device hok ↦ ?_⟩
    cases hok
    rintro path rfl
    exact ⟨file, readOnly, List.mem_concat_self⟩

theorem physical_activate_asks (path : String) (hpast : NothingTaken past) :
    (Device.physical path).activate.attempt.Asks chain.ActivationKind past
      fun result later ↦ NothingTaken later ∧
        ∀ device, result = .ok device → device.IsAttachedIn later := by
  apply Task.asks_liftM_bind
  apply Program.asks_perform
  · exact ⟨trivial, trivial⟩
  intro found
  have hlater := nothingTaken_concat hpast ⟨.deviceExists path, found⟩ rfl
  cases found with
  | false => exact .done ⟨hlater, fun _ hok ↦ nomatch hok⟩
  | true =>
    refine .done ⟨hlater, fun device hok ↦ ?_⟩
    cases hok
    exact fun _ hmem ↦ absurd hmem (Set.notMem_empty _)

/-- The device of an image can be activated and has nothing attached before that. -/
theorem baseDevice_asks (base : String) (hpast : NothingTaken past) :
    (baseDevice base).Asks chain.ActivationKind past
      fun device later ↦ NothingTaken later ∧ device.attached = ∅ ∧
        device.activate.attempt.Asks chain.ActivationKind later
          fun result later ↦ NothingTaken later ∧
            ∀ device, result = .ok device → device.IsAttachedIn later := by
  apply Program.asks_bind
  apply Program.asks_perform
  · exact ⟨trivial, trivial⟩
  intro found
  have hlater := nothingTaken_concat hpast ⟨.isBlockDevice base, found⟩ rfl
  cases found with
  | false => exact .done ⟨hlater, rfl, chain.loop_activate_asks base true hlater⟩
  | true => exact .done ⟨hlater, rfl, chain.physical_activate_asks base hlater⟩

/-- Making a mapping of a machine is a step of stacking for it. -/
theorem mapper_activate_asks {name table : String} (hname : name ∈ chain.mappingNames true) :
    (Device.mapper name table).activate.attempt.Asks chain.StackKind past fun _ _ ↦ True := by
  apply Task.asks_bind
  apply Task.asks_within
  apply Program.asks_perform
  · exact ⟨⟨⟨hname, trivial⟩, rfl⟩, rfl⟩
  intro answer
  cases answer with
  | error failure => trivial
  | ok value => exact .done trivial

/-- Only what was attached is detached. -/
theorem release_asks {device : Device} (hattached : device.IsAttachedIn past) :
    device.release.attempt.Asks chain.ActivationKind past fun _ _ ↦ True := by
  obtain ⟨file, readOnly, _ | node⟩ | path | ⟨name, table⟩ := device
  · exact .done trivial
  · apply Task.asks_within
    apply Program.asks_perform
    · exact ⟨hattached node rfl, trivial⟩
    · exact fun _ ↦ trivial
  · exact .done trivial
  · exact .done trivial

/-! ## Mappings -/

/-- Whether mappings that were made may be removed. -/
structure IsRemovable (chain : Chain) (names : List String) (past : History Devices) : Prop where
  subset : names ⊆ chain.mappingNames true
  failed : snapshotName chain.uid ∈ names → chain.GrowthFailed past

variable {chain} in
theorem IsRemovable.stackKind {names : List String} (hremovable : chain.IsRemovable names past) :
    chain.StackKind past (.removeMappings names) :=
  ⟨⟨⟨hremovable.subset, hremovable.failed⟩, rfl⟩, rfl⟩

theorem paddedBaseName_mem : paddedBaseName chain.uid ∈ chain.mappingNames true :=
  List.mem_cons_of_mem _ List.mem_cons_self

/-- The padded base may be removed without the snapshot. -/
theorem isRemovable_baseNames (isPadded : Bool) :
    chain.IsRemovable (chain.baseNames isPadded) past := by
  cases isPadded with
  | false =>
    exact ⟨List.nil_subset _, fun hmem ↦ absurd hmem List.not_mem_nil⟩
  | true =>
    refine ⟨List.subset_cons_self _ _, fun hmem ↦ ?_⟩
    exact absurd (List.mem_singleton.1 hmem) chain.snapshotName_ne_paddedBaseName

theorem stackSnapshot_asks (isPadded : Bool) (origin overlay : String) (sectors : Nat) :
    (stackSnapshot chain isPadded origin overlay sectors (chain.baseNames isPadded)).Asks
      chain.StackKind past
      fun made later ↦ ∀ failure, made.1 = .error failure → chain.IsRemovable made.2 later := by
  unfold stackSnapshot
  apply Program.asks_bind
  refine (chain.mapper_activate_asks List.mem_cons_self).mono ?_
  rintro (failure | device) past -
  · exact .done fun _ _ ↦ chain.isRemovable_baseNames isPadded
  apply Program.asks_bind
  apply Program.asks_perform
  · exact ⟨⟨⟨trivial, trivial⟩, rfl⟩, rfl⟩
  intro checked
  cases isPadded with
  | false => exact .done fun _ herror ↦ nomatch herror
  | true =>
    apply Program.asks_bind
    apply Task.asks_within
    apply Program.asks_perform
    · exact ⟨⟨⟨trivial, trivial⟩, rfl⟩, rfl⟩
    intro grown
    cases grown with
    | error failure =>
      refine .done fun _ _ ↦ ⟨List.Subset.refl _, fun _ ↦ ?_⟩
      exact ⟨failure, List.mem_concat_self⟩
    | ok value => exact .done fun _ herror ↦ nomatch herror

theorem stack_asks (base overlay : String) (baseSectors overlaySectors : Nat) :
    (stack chain base baseSectors overlay overlaySectors).Asks chain.StackKind past
      fun made later ↦ ∀ failure, made.1 = .error failure → chain.IsRemovable made.2 later := by
  unfold stack
  by_cases hgrows : baseSectors < overlaySectors
  · rw [if_pos hgrows, paddedBaseTable?, if_pos hgrows.le]
    apply Program.asks_bind
    refine (chain.mapper_activate_asks chain.paddedBaseName_mem).mono ?_
    rintro (failure | device) past -
    · exact .done fun _ _ ↦ chain.isRemovable_baseNames false
    · exact chain.stackSnapshot_asks true _ overlay overlaySectors
  · rw [if_neg hgrows]
    exact chain.stackSnapshot_asks false base overlay overlaySectors

theorem stackOrRollBack_asks (base overlay : String) (baseSectors overlaySectors : Nat) :
    (stackOrRollBack chain base baseSectors overlay overlaySectors).Asks chain.StackKind past
      fun _ _ ↦ True := by
  unfold stackOrRollBack
  apply Program.asks_bind
  refine (chain.stack_asks base overlay baseSectors overlaySectors).mono ?_
  rintro ⟨failure | device, made⟩ past hmade
  · have hremovable := hmade failure rfl
    cases made with
    | nil => exact .done trivial
    | cons name made =>
      apply Program.asks_bind
      apply Program.asks_perform
      · exact hremovable.stackKind
      · exact fun _ ↦ .done trivial
  · exact .done trivial

/-- What is asked for once the sizes are known to fit. -/
theorem stackOnCleanBase_asks (base overlay : String) (baseSectors overlaySectors : Nat) :
    Program.Asks chain.StackKind past (Task.attempt (do
      if ← Devices.mappingExists (paddedBaseName chain.uid) then
        Task.within .removingStaleBase (Devices.removeMappings [paddedBaseName chain.uid])
      Task.of (stackOrRollBack chain base baseSectors overlay overlaySectors)))
      fun _ _ ↦ True := by
  apply Task.asks_liftM_bind
  apply Program.asks_perform
  · exact ⟨⟨⟨trivial, trivial⟩, rfl⟩, rfl⟩
  intro found
  cases found with
  | false => exact chain.stackOrRollBack_asks base overlay baseSectors overlaySectors
  | true =>
    apply Task.asks_bind
    apply Task.asks_within
    apply Program.asks_perform
    · exact (chain.isRemovable_baseNames true).stackKind
    intro removed
    cases removed with
    | error failure => trivial
    | ok value => exact chain.stackOrRollBack_asks base overlay baseSectors overlaySectors

theorem build_asks (base overlay : Device) :
    (build chain base overlay).attempt.Asks chain.BuildKind past fun _ _ ↦ True := by
  unfold build
  cases base.requireNode with
  | error failure => exact .done trivial
  | ok baseNode =>
  cases overlay.requireNode with
  | error failure => exact .done trivial
  | ok overlayNode =>
  refine Task.asks_bind (.done ?_)
  refine Task.asks_bind (.done ?_)
  apply Task.asks_bind
  apply Program.asks_perform
  · exact ⟨⟨trivial, trivial⟩, rfl⟩
  intro size
  obtain failure | baseSectors := size
  · trivial
  apply Task.asks_bind
  apply Program.asks_perform
  · exact ⟨⟨trivial, trivial⟩, rfl⟩
  intro size
  obtain failure | overlaySectors := size
  · trivial
  dsimp only
  split
  · exact .done trivial
  · apply (chain.stackOnCleanBase_asks baseNode overlayNode baseSectors overlaySectors).weaken
    exact fun past request hkind ↦ hkind.1

theorem assemble_asks {base : Device} (overlay : String) (hbase : base.attached = ∅)
    (hactivate : base.activate.attempt.Asks chain.ActivationKind past
      fun result later ↦ NothingTaken later ∧
        ∀ device, result = .ok device → device.IsAttachedIn later) :
    (assemble chain base (.loop overlay false none)).Asks chain.ActivationKind past
      fun (_, base', overlay') later ↦
        base'.IsAttachedIn later ∧ overlay'.IsAttachedIn later := by
  have hnothing (device : Device) (past : History Devices) (hempty : device.attached = ∅) :
      device.IsAttachedIn past := by
    intro node hnode
    rw [hempty] at hnode
    exact absurd hnode (Set.notMem_empty node)
  unfold assemble
  apply Program.asks_bind
  refine hactivate.mono ?_
  rintro (failure | baseDevice) past ⟨hpast, hattached⟩
  · exact .done ⟨hnothing _ _ hbase, hnothing _ _ rfl⟩
  apply Program.asks_bind
  refine (chain.loop_activate_asks overlay false hpast).extends.mono ?_
  rintro (failure | overlayDevice) later ⟨hbegins, -, hoverlay⟩
  · exact .done ⟨(hattached _ rfl).later hbegins, hnothing _ _ rfl⟩
  apply Program.asks_bind
  have hbuild : (build chain baseDevice overlayDevice).attempt.Asks chain.ActivationKind later
      fun _ _ ↦ True := (chain.build_asks baseDevice overlayDevice).weaken fun _ _ hkind ↦ hkind.1
  refine hbuild.extends.mono ?_
  rintro result last ⟨hlast, -⟩
  exact .done ⟨(hattached _ rfl).later (hbegins.trans hlast), (hoverlay _ rfl).later hlast⟩

/-! ## Under the lock -/

theorem activateLocked_asks (base overlay : String) (hpast : NothingTaken past) :
    (activateLocked chain base overlay).attempt.Asks chain.ActivationKind past fun _ _ ↦ True := by
  unfold activateLocked
  apply Task.asks_liftM_bind
  apply Program.asks_perform
  · exact ⟨trivial, trivial⟩
  intro found
  have hpast := nothingTaken_concat hpast ⟨.deviceExists chain.devicePath, found⟩ rfl
  cases found with
  | true => exact .done trivial
  | false =>
    apply Task.asks_liftM_bind
    refine (chain.baseDevice_asks base hpast).mono ?_
    rintro device past ⟨-, hempty, hactivate⟩
    apply Task.asks_liftM_bind
    refine (chain.assemble_asks overlay hempty hactivate).mono ?_
    rintro ⟨result, baseDevice, overlayDevice⟩ past ⟨hbase, hoverlay⟩
    apply Task.asks_liftM_bind
    refine (chain.release_asks hbase).extends.mono ?_
    rintro _ later ⟨hbegins, -⟩
    apply Task.asks_liftM_bind
    refine (chain.release_asks (hoverlay.later hbegins)).mono ?_
    intro _ _ _
    exact .done trivial

/-- What is removed for a machine are its own mappings. -/
theorem mappings_asks : chain.mappings.Asks chain.DeactivationKind past
    fun names _ ↦ names ⊆ chain.mappingNames true := by
  unfold mappings
  apply Program.asks_bind
  apply Program.asks_perform
  · exact ⟨trivial, rfl⟩
  intro found
  cases found with
  | false => exact .done (List.cons_subset_cons _ (List.nil_subset _))
  | true => exact .done (List.Subset.refl _)

theorem deactivateLocked_asks :
    (deactivateLocked chain).attempt.Asks chain.DeactivationKind past fun _ _ ↦ True := by
  apply Task.asks_liftM_bind
  refine chain.mappings_asks.mono ?_
  intro names past hnames
  apply Task.asks_liftM_bind
  apply Program.asks_perform
  · exact ⟨hnames, rfl⟩
  intro removed
  cases removed with
  | ok value => exact .done trivial
  | error failure =>
    dsimp only
    split
    · exact .done trivial
    · exact .done trivial

end Chain

end MicroVm.Storage

import MicroVm.Proofs.Storage.BuildSteps
import MicroVm.Proofs.Storage.Requests

/-!
# Activations with room in the overlay

An activation asks for the size of the image and after that for the size of the overlay, and it
fails when the second is smaller than the first. On a host where the overlay has room for the image
this does not happen, and as each other step fails by a failing call, an activation fails there only
when a call does or when the image is a block device that is gone.
-/

namespace MicroVm.Storage

open HostDevices

/-! ## Sizes that were asked for -/

/-- Whether a size is smaller than the one that was asked for just before. -/
inductive ShowsShortage (before : History Devices) : Event Devices → Prop
  | intro {base overlay : String} {baseSectors overlaySectors : Nat}
      (hbase : before.getLast? = some ⟨.sizeSectors base, .ok baseSectors⟩)
      (hsmall : overlaySectors < baseSectors) :
      ShowsShortage before ⟨.sizeSectors overlay, .ok overlaySectors⟩

/-- Whether there was room whenever sizes were compared. -/
def HasShownRoom (past : History Devices) : Prop := ¬ Happens ShowsShortage past

/-- Whether no sizes were asked for so far. -/
def NothingMeasured (past : History Devices) : Prop :=
  ∀ event ∈ past, DeviceRequest.measures event.request = false

/-- All requests but those for sizes. -/
def NoMeasuring : Program.RequestKind Devices := fun _ request ↦ request.measures = false

variable {past history : History Devices} {event : Event Devices}

theorem NothingMeasured.concat (hpast : NothingMeasured past)
    (hevent : DeviceRequest.measures event.request = false) : NothingMeasured (past ++ [event]) :=
  List.forall_mem_append.2 ⟨hpast, List.forall_mem_singleton.2 hevent⟩

theorem HasShownRoom.concat (hpast : HasShownRoom past) (hevent : ¬ ShowsShortage past event) :
    HasShownRoom (past ++ [event]) := by
  intro hshort
  obtain hearlier | hnow := happens_concat_iff.1 hshort
  · exact hpast hearlier
  · exact hevent hnow

theorem not_showsShortage (hevent : DeviceRequest.measures event.request = false) :
    ¬ ShowsShortage past event := by
  rintro ⟨⟩
  cases hevent

theorem NothingMeasured.hasShownRoom (hpast : NothingMeasured past) : HasShownRoom past := by
  rintro ⟨before, event, after, rfl, hshort⟩
  exact not_showsShortage (hpast event (List.mem_append_right before List.mem_cons_self)) hshort

/-- The first size is not compared. -/
theorem NothingMeasured.not_showsShortage (hpast : NothingMeasured past) :
    ¬ ShowsShortage past event := by
  rintro ⟨hbase, -⟩
  have hmeasured := hpast _ (List.mem_of_getLast? hbase)
  cases hmeasured

variable {faults : FaultPattern} {host : HostDevices} {α : Type} {program : Program Devices α}
  {post : α → History Devices → Prop}

theorem NothingMeasured.ensures (hpast : NothingMeasured past)
    (hprogram : program.Asks NoMeasuring past post) :
    program.Ensures (conduct faults) past host fun _ later _ ↦ NothingMeasured later :=
  hprogram.ensures_keeps (fun _ _ hpast hkind ↦ hpast.concat hkind) hpast

/-- A program that asks for no sizes finds no shortage. -/
theorem HasShownRoom.ensures (hpast : HasShownRoom past)
    (hprogram : program.Asks NoMeasuring past post) :
    program.Ensures (conduct faults) past host fun _ later _ ↦ HasShownRoom later :=
  hprogram.ensures_keeps (fun _ _ hpast hkind ↦ hpast.concat (not_showsShortage hkind)) hpast

/-! ## Why steps fail -/

/-- The failure that a call was answered with. -/
def callFailure? : Event Devices → Option Failure
  | ⟨.attachLoop _ _, .error failure⟩ => some failure
  | ⟨.detachLoop _, .error failure⟩ => some failure
  | ⟨.sizeSectors _, .error failure⟩ => some failure
  | ⟨.createMapping _ _, .error failure⟩ => some failure
  | ⟨.removeMappings _, .error failure⟩ => some failure
  | ⟨.checkFilesystem _, .error failure⟩ => some failure
  | ⟨.growFilesystem _, .error failure⟩ => some failure
  | ⟨.acquireLock _, .error failure⟩ => some failure
  | _ => none

/-- Whether a call has failed for a certain cause. -/
def IsReported (past : History Devices) (cause : Cause) : Prop :=
  ∃ event ∈ past, ∃ failure, callFailure? event = some failure ∧ failure.root = cause

/-- A step that fails does so because of a call, because the image is gone, or for want of room. -/
theorem cause_of_failsStep {failure : Failure} (hfails : FailsStep past event failure)
    (hroom : ¬ ShowsShortage past event) :
    (∃ reported, callFailure? event = some reported ∧ reported.root = failure.root) ∨
      ∃ path, failure.root = .noBlockDevice path := by
  cases hfails with
  | image => exact .inr ⟨_, rfl⟩
  | comparing hbase hsmall => exact absurd (.intro hbase hsmall) hroom
  | lock | attaching | measuring | clearing | creating | growing => exact .inl ⟨_, rfl, rfl⟩

/-! ## Devices -/

theorem Device.activate_asks_noMeasuring (device : Device) :
    device.activate.attempt.Asks NoMeasuring past fun _ _ ↦ True := by
  obtain ⟨file, readOnly, _ | node⟩ | path | ⟨name, table⟩ := device
  · apply Task.asks_seq
    · exact Task.asks_within (Program.asks_perform rfl fun _ ↦ trivial)
    · exact fun _ _ ↦ .done trivial
  · exact .done trivial
  · apply Task.asks_liftM_bind
    apply Program.asks_perform rfl
    intro found
    cases found with
    | false => exact .done trivial
    | true => exact .done trivial
  · apply Task.asks_seq
    · exact Task.asks_within (Program.asks_perform rfl fun _ ↦ trivial)
    · exact fun _ _ ↦ .done trivial

theorem Device.release_asks_noMeasuring (device : Device) :
    device.release.attempt.Asks NoMeasuring past fun _ _ ↦ True := by
  obtain ⟨file, readOnly, _ | node⟩ | path | ⟨name, table⟩ := device
  · exact .done trivial
  · exact Task.asks_within (Program.asks_perform rfl fun _ ↦ trivial)
  · exact .done trivial
  · exact .done trivial

namespace Chain

variable (chain : Chain)

theorem baseDevice_asks_noMeasuring (base : String) :
    (baseDevice base).Asks NoMeasuring past fun _ _ ↦ True := by
  apply Program.asks_bind
  apply Program.asks_perform rfl
  intro found
  cases found with
  | false => exact .done trivial
  | true => exact .done trivial

/-! ## The activation -/

theorem build_finds_room {base overlay : Device} {baseNode overlayNode : String}
    (hbase : base.node? = some baseNode) (hoverlay : overlay.node? = some overlayNode)
    (hroom : host.sectors baseNode ≤ host.sectors overlayNode) (hpast : NothingMeasured past) :
    (build chain base overlay).attempt.Ensures (conduct faults) past host
      fun _ later _ ↦ HasShownRoom later := by
  unfold build Device.requireNode
  rw [hbase, hoverlay]
  refine Task.ensures_bind (Program.ensures_done ?_)
  refine Task.ensures_bind (Program.ensures_done ?_)
  apply Task.ensures_bind
  apply Program.ensures_perform
  intro size middle hstep
  have hfirst : HasShownRoom (past ++ [⟨.sizeSectors baseNode, size⟩]) :=
    hpast.hasShownRoom.concat hpast.not_showsShortage
  obtain failure | baseSectors := size
  · exact hfirst
  obtain ⟨rfl, rfl⟩ := hstep
  apply Task.ensures_bind
  apply Program.ensures_perform
  intro size after hstep
  obtain failure | overlaySectors := size
  · exact hfirst.concat nofun
  obtain ⟨rfl, rfl⟩ := hstep
  have hsecond : HasShownRoom (past ++ [⟨.sizeSectors baseNode, .ok (after.sectors baseNode)⟩] ++
      [⟨.sizeSectors overlayNode, .ok (after.sectors overlayNode)⟩]) := by
    refine hfirst.concat ?_
    rintro ⟨hlast, hsmall⟩
    rw [List.getLast?_concat] at hlast
    cases hlast
    exact hroom.not_gt hsmall
  dsimp only
  rw [if_neg hroom.not_gt]
  apply hsecond.ensures
  apply (chain.stackOnCleanBase_asks baseNode overlayNode _ _).weaken
  exact fun past request hkind ↦ hkind.2

theorem assemble_finds_room {base overlay : String}
    (hroom : host.imageSectors base ≤ host.sizes overlay) (hpast : NothingMeasured past) :
    (assemble chain (host.imageDevice base) (.loop overlay false none)).Ensures (conduct faults)
      past host fun _ later _ ↦ HasShownRoom later := by
  unfold assemble
  apply Program.ensures_bind
  refine ((host.imageDevice_activate_ensures base).and
    (hpast.ensures (host.imageDevice base).activate_asks_noMeasuring)).mono ?_
  rintro (failure | baseDevice) past after ⟨hbase, hpast⟩
  · exact Program.ensures_done hpast.hasShownRoom
  obtain ⟨baseNode, hbase⟩ := hbase
  apply Program.ensures_bind
  refine (Device.loop_activate_ensures.and
    (hpast.ensures (Device.loop overlay false none).activate_asks_noMeasuring)).mono ?_
  rintro (failure | overlayDevice) past middle ⟨hoverlay, hpast⟩
  · exact Program.ensures_done hpast.hasShownRoom
  obtain ⟨overlayNode, hoverlay⟩ := hoverlay
  have hfits : middle.sectors baseNode ≤ middle.sectors overlayNode :=
    calc
      middle.sectors baseNode = after.sectors baseNode := hoverlay.keeps baseNode hbase.present
      _ = host.imageSectors base := hbase.size
      _ ≤ host.sizes overlay := hroom
      _ = after.sizes overlay := by rw [hbase.sizes]
      _ = middle.sectors overlayNode := hoverlay.size.symm
  apply Program.ensures_bind
  refine (chain.build_finds_room hbase.hasNode hoverlay.hasNode hfits hpast).mono ?_
  intro result past after hshown
  exact Program.ensures_done hshown

theorem activateLocked_finds_room {base overlay : String}
    (hroom : host.imageSectors base ≤ host.sizes overlay) (hpast : NothingMeasured past) :
    (activateLocked chain base overlay).attempt.Ensures (conduct faults) past host
      fun _ later _ ↦ HasShownRoom later := by
  unfold activateLocked
  apply Task.ensures_liftM_bind
  apply Program.ensures_perform
  rintro found after ⟨-, rfl⟩
  have hlooked : NothingMeasured (past ++ [⟨.deviceExists chain.devicePath, found⟩]) :=
    hpast.concat rfl
  cases found with
  | true => exact Program.ensures_done hlooked.hasShownRoom
  | false =>
    apply Task.ensures_liftM_bind
    refine ((baseDevice_ensures base).and
      (hlooked.ensures (baseDevice_asks_noMeasuring base))).mono ?_
    rintro device past host ⟨⟨rfl, rfl⟩, hpast⟩
    apply Task.ensures_liftM_bind
    refine (chain.assemble_finds_room hroom hpast).mono ?_
    rintro ⟨result, baseDevice, overlayDevice⟩ past after hshown
    apply Task.ensures_liftM_bind
    refine (hshown.ensures baseDevice.release_asks_noMeasuring).mono ?_
    intro _ past _ hshown
    apply Task.ensures_liftM_bind
    refine (hshown.ensures overlayDevice.release_asks_noMeasuring).mono ?_
    intro _ past _ hshown
    exact Program.ensures_done hshown

theorem activate_finds_room {base overlay : String}
    (hroom : host.imageSectors base ≤ host.sizes overlay) :
    (chain.activate base overlay).attempt.Ensures (conduct faults) [] host
      fun _ later _ ↦ HasShownRoom later := by
  have hstart : NothingMeasured [] := fun _ hmem ↦ absurd hmem List.not_mem_nil
  apply Task.ensures_liftM_bind
  apply Program.ensures_perform
  rintro found after ⟨-, rfl⟩
  have hlooked : NothingMeasured ([] ++ [⟨.deviceExists chain.devicePath, found⟩]) :=
    hstart.concat rfl
  cases found with
  | true => exact Program.ensures_done hlooked.hasShownRoom
  | false =>
    apply Task.ensures_bind
    apply Program.ensures_perform
    intro acquired locked hstep
    obtain failure | value := acquired
    · exact (hlooked.concat rfl).hasShownRoom
    obtain rfl := hstep
    apply Task.ensures_liftM_bind
    refine (chain.activateLocked_finds_room hroom (hlooked.concat rfl)).mono ?_
    intro result past after hshown
    apply Task.ensures_liftM_bind
    apply Program.ensures_perform
    intro _ _ _
    exact Program.ensures_done (hshown.concat nofun)

/-- Where the overlay has room for the image, an activation ends, and it fails only because of a
call or because the image is gone. -/
theorem activate_fails_by_calls {base overlay : String}
    (hroom : host.imageSectors base ≤ host.sizes overlay) {result : Option (Except Failure String)}
    {after : HostDevices} (hrun : (chain.activate base overlay).attempt.IsRun history result)
    (hallows : (conduct faults).Allows [] host history after) :
    ∃ outcome, result = some outcome ∧ ∀ failure, outcome = .error failure →
      IsReported history failure.root ∨ ∃ path, failure.root = .noBlockDevice path := by
  obtain ⟨outcome, rfl, hshown⟩ := chain.activate_finds_room hroom hrun hallows
  have hasks : Program.Asks (fun _ _ ↦ True) [] (chain.activate base overlay).attempt
      chain.IsResultFor :=
    (chain.activate_heeds base overlay).asks (fun _ _ _ ↦ trivial) fun _ _ _ ↦ trivial
  obtain ⟨same, hsame, hresult, -⟩ := hasks.exists_value hrun
  obtain rfl := Option.some.inj hsame
  refine ⟨outcome, rfl, ?_⟩
  rintro failure rfl
  obtain ⟨before, event, later, rfl, -, hfails⟩ := hresult
  have hevent : ¬ ShowsShortage before event := fun hshort ↦
    hshown ⟨before, event, later, rfl, hshort⟩
  obtain ⟨reported, hcall, hroot⟩ | hgone := cause_of_failsStep hfails hevent
  · exact .inl ⟨event, List.mem_append_right before List.mem_cons_self, reported, hcall, hroot⟩
  · exact .inr hgone

/-- Where the overlay has room for the image, an activation does not find it too small, unless a
call says so. -/
theorem activate_not_short {base overlay : String}
    (hroom : host.imageSectors base ≤ host.sizes overlay) {result : Option (Except Failure String)}
    {after : HostDevices} (hrun : (chain.activate base overlay).attempt.IsRun history result)
    (hallows : (conduct faults).Allows [] host history after) :
    ∃ outcome, result = some outcome ∧ ∀ failure overlaySectors baseSectors,
      outcome = .error failure → failure.root = .overlayTooSmall overlaySectors baseSectors →
        IsReported history (.overlayTooSmall overlaySectors baseSectors) := by
  obtain ⟨outcome, hresult, hcauses⟩ := chain.activate_fails_by_calls hroom hrun hallows
  refine ⟨outcome, hresult, ?_⟩
  intro failure overlaySectors baseSectors hfailed hshort
  have hcause := hcauses failure hfailed
  rw [hshort] at hcause
  obtain hreported | ⟨path, hgone⟩ := hcause
  · exact hreported
  · cases hgone

end Chain

end MicroVm.Storage

import MicroVm.Proofs.Storage.Stacking

/-!
# Devices attached and detached again

A device that got its node adds at most one node to the host, a loop that was free. Nothing that was
there before changes its size by that. Releasing the device takes the node away again.
-/

namespace MicroVm.Storage

open HostDevices

/-- The nodes that are there for a device only. -/
def Device.attached : Device → Set String
  | .loop _ _ (some node) => {node}
  | _ => ∅

/-- The device of an image on a host. -/
def HostDevices.imageDevice (host : HostDevices) (base : String) : Device :=
  if host.isBlock base then .physical base else .loop base true none

/-- The sectors that the device of an image has. -/
def HostDevices.imageSectors (host : HostDevices) (base : String) : Nat :=
  if host.isBlock base then host.sectors base else host.sizes base

/-- What holds on a host after a device got its node. -/
structure Device.IsAttached (device : Device) (host : HostDevices) (node : String) (size : Nat)
    (after : HostDevices) : Prop where
  hasNode : device.node? = some node
  nodes : after.nodes = host.nodes ∪ device.attached
  free : ∀ path ∈ device.attached, host.IsFreeLoop path
  present : node ∈ after.nodes
  size : after.sectors node = size
  sizes : after.sizes = host.sizes
  keeps : ∀ path ∈ host.nodes, after.sectors path = host.sectors path

/-- A device gets its node, or the host stays as it is. -/
def Device.AttachesOrNot (host : HostDevices) (size : Nat) (result : Except Failure Device)
    (after : HostDevices) : Prop :=
  match result with
  | .ok device => ∃ node, device.IsAttached host node size after
  | .error _ => after = host

variable {faults : FaultPattern} {past : History Devices} {host : HostDevices}

theorem HostDevices.isAttached_attach {file node : String} {readOnly : Bool}
    (hfree : host.IsFreeLoop node) :
    (Device.loop file readOnly (some node)).IsAttached host node (host.sizes file)
      (host.attach node file) where
  hasNode := rfl
  nodes := by
    change insert node host.nodes = host.nodes ∪ {node}
    rw [Set.union_singleton]
  free := by
    rintro path rfl
    exact hfree
  present := Set.mem_insert node host.nodes
  size := by simp [sectors, attach, add]
  sizes := rfl
  keeps := by
    intro path hpath
    have hother : path ≠ node := by
      rintro rfl
      exact hfree.1 hpath
    simp [sectors, attach, add, hother]

/-- A node that is there anyway. -/
theorem HostDevices.isAttached_physical {path : String} (hpresent : path ∈ host.nodes) :
    (Device.physical path).IsAttached host path (host.sectors path) host where
  hasNode := rfl
  nodes := (Set.union_empty _).symm
  free := fun _ hmem ↦ absurd hmem (Set.notMem_empty _)
  present := hpresent
  size := rfl
  sizes := rfl
  keeps := fun _ _ ↦ rfl

/-- Making sure of a loop attaches it, or changes nothing. -/
theorem Device.loop_activate_ensures {file : String} {readOnly : Bool} :
    (Device.loop file readOnly none).activate.attempt.Ensures (conduct faults) past host
      fun result _ after ↦ Device.AttachesOrNot host (host.sizes file) result after := by
  apply Task.ensures_bind
  apply Task.ensures_within
  apply Program.ensures_perform
  intro result after hstep
  cases result with
  | error failure => exact hstep.2
  | ok node =>
    obtain ⟨hfree, rfl⟩ := hstep
    exact Program.ensures_done ⟨node, isAttached_attach hfree⟩

/-- Making sure of a device of the host finds it, or changes nothing. -/
theorem Device.physical_activate_ensures {path : String} :
    (Device.physical path).activate.attempt.Ensures (conduct faults) past host
      fun result _ after ↦ Device.AttachesOrNot host (host.sectors path) result after := by
  apply Task.ensures_liftM_bind
  apply Program.ensures_perform
  intro found after hstep
  obtain ⟨hfound, rfl⟩ := hstep
  cases found with
  | false => exact Program.ensures_done rfl
  | true => exact Program.ensures_done ⟨path, isAttached_physical (hfound.1 rfl)⟩

theorem HostDevices.imageDevice_activate_ensures (base : String) :
    (host.imageDevice base).activate.attempt.Ensures (conduct faults) past host
      fun result _ after ↦ Device.AttachesOrNot host (host.imageSectors base) result after := by
  unfold imageDevice imageSectors
  cases host.isBlock base with
  | false => exact Device.loop_activate_ensures
  | true => exact Device.physical_activate_ensures

@[simp]
theorem HostDevices.imageDevice_attached (base : String) :
    (host.imageDevice base).attached = ∅ := by
  unfold imageDevice
  cases host.isBlock base <;> rfl

/-- Choosing the device of an image changes nothing. -/
theorem baseDevice_ensures (base : String) :
    (Chain.baseDevice base).Ensures (conduct faults) past host
      fun device _ after ↦ device = host.imageDevice base ∧ after = host := by
  refine Program.ensures_bind (Program.ensures_perform ?_)
  rintro found after ⟨rfl, rfl⟩
  unfold imageDevice
  cases after.isBlock base with
  | false => exact Program.ensures_done ⟨rfl, rfl⟩
  | true => exact Program.ensures_done ⟨rfl, rfl⟩

/-- A release that is not hindered leaves no node of the device. -/
theorem Device.release_ensures (hfaults : faults.SparesCleanUp) (device : Device) :
    device.release.attempt.Ensures (conduct faults) past host
      fun _ _ after ↦ after.nodes = host.nodes \ device.attached := by
  obtain ⟨file, readOnly, _ | node⟩ | path | ⟨name, table⟩ := device
  · exact Program.ensures_done Set.sdiff_empty.symm
  · apply Task.ensures_within
    apply Program.ensures_perform
    intro result after hstep
    cases result with
    | error failure => exact absurd hstep.1 (hfaults.detaches past node)
    | ok value =>
      obtain rfl := hstep
      rfl
  · exact Program.ensures_done Set.sdiff_empty.symm
  · exact Program.ensures_done Set.sdiff_empty.symm

end MicroVm.Storage

import MicroVm.Json.Parser
import MicroVm.Json.Printer
import MicroVm.Json.Record

/-!
# The control interface of the hypervisor

The hypervisor is configured and steered by requests that each put a JSON body at a path.
-/

namespace MicroVm.Hypervisor

open MicroVm.Json

structure BootSource where
  kernelImage : String
  bootArguments : Option String
  deriving DecidableEq, Repr

structure MachineConfig where
  vcpus : Nat
  memoryMib : Nat
  deriving DecidableEq, Repr

structure Drive where
  id : String
  hostPath : String
  isRoot : Bool
  isReadOnly : Bool
  deriving DecidableEq, Repr

structure NetworkInterface where
  id : String
  hostDevice : String
  guestMac : String
  deriving DecidableEq, Repr

inductive Action
  | start
  /-- Presses the power button; what follows is up to the guest. -/
  | sendCtrlAltDel
  deriving DecidableEq, Repr

def Action.text : Action → String
  | .start => "InstanceStart"
  | .sendCtrlAltDel => "SendCtrlAltDel"

def Action.parse? (text : String) : Option Action :=
  if text = "InstanceStart" then some .start
  else if text = "SendCtrlAltDel" then some .sendCtrlAltDel
  else none

inductive Call
  | bootSource (source : BootSource)
  | machineConfig (size : MachineConfig)
  | drive (disk : Drive)
  | networkInterface (card : NetworkInterface)
  | action (request : Action)
  deriving DecidableEq, Repr

/-! ## Writing -/

/-- The JSON value of a boot source. Absent arguments are left out. -/
def BootSource.toJson (source : BootSource) : Value :=
  .record <| ("kernel_image_path", .text source.kernelImage) ::
    match source.bootArguments with
    | some arguments => [("boot_args", .text arguments)]
    | none => []

def MachineConfig.toJson (config : MachineConfig) : Value :=
  .record [("vcpu_count", .natural config.vcpus), ("mem_size_mib", .natural config.memoryMib)]

def Drive.toJson (drive : Drive) : Value :=
  .record [
    ("drive_id", .text drive.id),
    ("path_on_host", .text drive.hostPath),
    ("is_root_device", .bool drive.isRoot),
    ("is_read_only", .bool drive.isReadOnly)]

def NetworkInterface.toJson (interface : NetworkInterface) : Value :=
  .record [
    ("iface_id", .text interface.id),
    ("host_dev_name", .text interface.hostDevice),
    ("guest_mac", .text interface.guestMac)]

def Action.toJson (action : Action) : Value := .record [("action_type", .text action.text)]

namespace Call

def path : Call → String
  | .bootSource _ => "/boot-source"
  | .machineConfig _ => "/machine-config"
  | .drive disk => "/drives/" ++ disk.id
  | .networkInterface card => "/network-interfaces/" ++ card.id
  | .action _ => "/actions"

def body : Call → Value
  | .bootSource source => source.toJson
  | .machineConfig size => size.toJson
  | .drive disk => disk.toJson
  | .networkInterface card => card.toJson
  | .action request => request.toJson

end Call

/-! ## Reading -/

def BootSource.ofJson? (value : Value) : Option BootSource := do
  let fields ← value.fields? ["kernel_image_path", "boot_args"]
  let kernelImage ← fields.required "kernel_image_path" Value.text?
  let bootArguments ← fields.nullable "boot_args" Value.text?
  return { kernelImage, bootArguments }

def MachineConfig.ofJson? (value : Value) : Option MachineConfig := do
  let fields ← value.fields? ["vcpu_count", "mem_size_mib"]
  let vcpus ← fields.required "vcpu_count" (Value.natural? 0xff)
  let memoryMib ← fields.required "mem_size_mib" (Value.natural? 0xffffffff)
  return { vcpus, memoryMib }

def Drive.ofJson? (value : Value) : Option Drive := do
  let fields ← value.fields? ["drive_id", "path_on_host", "is_root_device", "is_read_only"]
  let id ← fields.required "drive_id" Value.text?
  let hostPath ← fields.required "path_on_host" Value.text?
  let isRoot ← fields.required "is_root_device" Value.bool?
  let isReadOnly ← fields.required "is_read_only" Value.bool?
  return { id, hostPath, isRoot, isReadOnly }

def NetworkInterface.ofJson? (value : Value) : Option NetworkInterface := do
  let fields ← value.fields? ["iface_id", "host_dev_name", "guest_mac"]
  let id ← fields.required "iface_id" Value.text?
  let hostDevice ← fields.required "host_dev_name" Value.text?
  let guestMac ← fields.required "guest_mac" Value.text?
  return { id, hostDevice, guestMac }

/-- How deep a value may be nested that is held before its meaning is known. -/
def maxHeldDepth : Nat := 127

/-- The action that a value holds: an object with one member that names it, whatever the other
members are, or an array of that name alone. -/
def Action.ofJson? (value : Value) : Option Action :=
  match value with
  | .array [name] => name.text? >>= Action.parse?
  | .object members =>
    match membersNamed "action_type" members with
    | [name] =>
      if value.isHoldable ∧ value.depth ≤ maxHeldDepth then name.text? >>= Action.parse? else none
    | _ => none
  | _ => none

end MicroVm.Hypervisor

import MicroVm.Layout
import MicroVm.Storage.Devices

/-!
# Block devices to build on

A device is a loop over a file, a node that the host has anyway, or a mapping with a fixed table.
A loop has a node only while it is attached; the other two have one from the start.
-/

namespace MicroVm.Storage

inductive Device
  | loop (file : String) (readOnly : Bool) (node : Option String)
  | physical (path : String)
  | mapper (name table : String)
  deriving DecidableEq, Repr

namespace Device

def node? : Device → Option String
  | .loop _ _ node => node
  | .physical path => some path
  | .mapper name _ => some (mapperPath name)

def requireNode (device : Device) : Except Failure String :=
  match device.node? with
  | some node => .ok node
  | none => .error (.cause .deviceInactive)

def isActive (device : Device) : Program Devices Bool :=
  match device.node? with
  | some node => Devices.exists? node
  | none => return false

/-- Makes sure that a device has its node. -/
def activate : Device → Task Devices Device
  | .loop file readOnly none => do
    let node ← Task.within (.attachingLoop file) (Devices.attachLoop file readOnly)
    return .loop file readOnly (some node)
  | .loop file readOnly (some node) => return .loop file readOnly (some node)
  | .physical path => do
    if ← Devices.exists? path then return .physical path
    else Task.fail (.noBlockDevice path)
  | .mapper name table => do
    Task.within (.creatingMapping name) (Devices.createMapping name table)
    return .mapper name table

/-- A device after what was attached for it is detached. -/
def released : Device → Device
  | .loop file readOnly _ => .loop file readOnly none
  | device => device

/-- Detaches what a mapping on top of the device no longer needs. -/
def release : Device → Task Devices Unit
  | .loop _ _ (some node) => Task.within (.detachingLoop node) (Devices.detachLoop node)
  | _ => return ()

end Device

end MicroVm.Storage

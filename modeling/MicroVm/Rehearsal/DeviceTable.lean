import MicroVm.Layout
import MicroVm.Rehearsal.Faults
import MicroVm.Rehearsal.FileTree
import MicroVm.Storage.Devices

/-!
# Block devices in memory

The nodes of a table are loop devices, mappings and whatever was there before. Attaching makes a new
loop node, creating makes the node of a mapping, and removing takes the nodes of mappings away in
turn until one is missing. A call is put into the history, then it may fail as planned, and only
then it takes effect.
-/

namespace MicroVm.Rehearsal

open MicroVm.Storage

inductive DeviceCall
  | attach (file node : String) (readOnly : Bool)
  | detach (node : String)
  | create (name table : String)
  | remove (names : List String)
  | check (node : String)
  | grow (node : String)
  deriving DecidableEq, Repr

def DeviceCall.text : DeviceCall → String
  | .attach file node readOnly => s!"attach {file} {node}" ++ if readOnly then " ro" else ""
  | .detach node => s!"detach {node}"
  | .create name table => s!"create {name} {table}"
  | .remove names => "remove " ++ " ".intercalate names
  | .check node => s!"fsck {node}"
  | .grow node => s!"resize {node}"

/-- A node that is there from a look on, without any call. -/
structure Appearance where
  /-- The number of the look, from one on. -/
  look : Nat
  node : String

structure DeviceTable where
  nodes : List String := []
  blockDevices : List String := []
  sizes : List (String × Nat) := []
  /-- Whether a file without a given size has the size of its content. -/
  measuresFiles : Bool := false
  appearances : List Appearance := []
  /-- The loop nodes made so far and their files. -/
  loops : List (String × String) := []
  looks : Nat := 0
  /-- The calls with the lock state at that time, in order. -/
  history : List (DeviceCall × Bool) := []

def unknownSize (file : String) : String := s!"no size for {file}"

def missingMapping (name : String) : String :=
  s!"dmsetup remove {name} failed: device-mapper: remove ioctl on {name} failed: " ++
    "No such device or address"

namespace DeviceTable

def addNode (table : DeviceTable) (node : String) : DeviceTable :=
  { table with nodes := table.nodes.insert node }

def dropNode (table : DeviceTable) (node : String) : DeviceTable :=
  { table with nodes := table.nodes.erase node }

def record (table : DeviceTable) (call : DeviceCall) (isLocked : Bool) : DeviceTable :=
  { table with history := table.history ++ [(call, isLocked)] }

def nextLoop (table : DeviceTable) : String := s!"/dev/loop{table.loops.length}"

def attach (table : DeviceTable) (file : String) : DeviceTable :=
  { table.addNode table.nextLoop with loops := (table.nextLoop, file) :: table.loops }

def size? (table : DeviceTable) (files : FileTree) (device : String) : Except String Nat :=
  let file := (table.loops.lookup device).getD device
  let measured := if table.measuresFiles then (files.length? file).map (· / 512) else none
  match (table.sizes.lookup file).or measured with
  | some size => .ok size
  | none => .error (unknownSize file)

def removeMappings (table : DeviceTable) : List String → Except String Unit × DeviceTable
  | [] => (.ok (), table)
  | name :: names =>
    if mapperPath name ∈ table.nodes then
      (table.dropNode (mapperPath name)).removeMappings names
    else (.error (missingMapping name), table)

/-- Lets those nodes appear that are there from the next look on. -/
def look (table : DeviceTable) : DeviceTable :=
  let table := { table with looks := table.looks + 1 }
  let new := table.appearances.filter fun appearance ↦ appearance.look == table.looks
  new.foldl (fun table appearance ↦ table.addNode appearance.node) table

def has (table : DeviceTable) (path : String) : Bool :=
  path ∈ table.nodes || path ∈ table.blockDevices

end DeviceTable

end MicroVm.Rehearsal

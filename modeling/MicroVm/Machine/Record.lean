import MicroVm.Json.Parser
import MicroVm.Json.Printer
import MicroVm.Network.InterfaceMode
import MicroVm.Network.Ipv4
import MicroVm.Network.PortMapping
import MicroVm.Time.Timestamp

/-!
# Machine records

A record says what a machine is and how it stands. A run changes the status alone: it marks the
machine as running with its addresses and ports, and takes that back at the end.
-/

namespace MicroVm.Machine

open MicroVm.Network

structure Metadata where
  uid : String
  name : String
  annotations : Annotations
  created : Timestamp
  deriving DecidableEq

structure Spec where
  image : String
  kernel : String
  bootArguments : String
  cpus : Nat
  memoryMib : Nat
  diskSize : Nat
  ports : List PortMapping
  ssh : Bool
  cpus_le : cpus ≤ 0xff
  memoryMib_le : memoryMib ≤ 0xffffffff
  diskSize_le : diskSize ≤ 0xffffffffffffffff
  deriving DecidableEq

structure Content where
  id : String
  size : Nat
  size_le : size ≤ 0xffffffffffffffff
  deriving DecidableEq

def Content.none : Content := ⟨"", 0, by decide⟩

structure NetworkStatus where
  addresses : List Ipv4
  ports : List PortMapping
  deriving DecidableEq

structure Status where
  isRunning : Bool
  /-- The id of the sandbox that the machine runs in. -/
  runtime : Option String
  startTime : Option Timestamp
  network : Option NetworkStatus
  image : Content
  kernel : Content
  deriving DecidableEq

def Status.initial : Status := ⟨false, none, none, none, .none, .none⟩

@[ext]
structure Record where
  metadata : Metadata
  spec : Spec
  status : Status
  deriving DecidableEq

inductive Phase
  | created
  | running
  | stopped
  deriving DecidableEq, Repr

def Phase.text : Phase → String
  | .created => "created"
  | .running => "running"
  | .stopped => "stopped"

namespace Record

def uid (record : Record) : String := record.metadata.uid

def name (record : Record) : String := record.metadata.name

def phase (record : Record) : Phase :=
  if record.status.isRunning then .running
  else if record.status.startTime.isSome then .stopped
  else .created

def updateStatus (record : Record) (update : Status → Status) : Record :=
  { record with status := update record.status }

/-- Marks the machine as running since `now`, with the given addresses and the declared ports. -/
def markRunning (record : Record) (addresses : List Ipv4) (now : Timestamp) : Record :=
  record.updateStatus fun status ↦
    { status with
      isRunning := true
      startTime := some now
      network := some ⟨addresses, record.spec.ports⟩ }

def clearPorts (record : Record) : Record :=
  record.updateStatus fun status ↦
    { status with network := status.network.map fun network ↦ { network with ports := [] } }

def clearAddresses (record : Record) : Record :=
  record.updateStatus fun status ↦
    { status with network := status.network.map fun network ↦ { network with addresses := [] } }

def markStopped (record : Record) : Record :=
  record.updateStatus fun status ↦ { status with isRunning := false }

def addresses (record : Record) : List Ipv4 :=
  match record.status.network with
  | some network => network.addresses
  | none => []

def ports (record : Record) : List PortMapping :=
  match record.status.network with
  | some network => network.ports
  | none => []

end Record

/-! ## Writing -/

def annotationsToJson (annotations : Annotations) : Json.Value :=
  .record (annotations.entries.map fun (key, value) ↦ (key, .text value))

def timestampToJson (t : Timestamp) : Json.Value := .text t.text

def portsToJson (ports : List PortMapping) : Json.Value := .array (ports.map PortMapping.toJson)

def addressesToJson (addresses : List Ipv4) : Json.Value :=
  .array (addresses.map fun address ↦ .text address.text)

def Metadata.toJson (metadata : Metadata) : Json.Value :=
  .record [
    ("uid", .text metadata.uid),
    ("name", .text metadata.name),
    ("annotations", annotationsToJson metadata.annotations),
    ("created", timestampToJson metadata.created)]

def Spec.toJson (spec : Spec) : Json.Value :=
  .record [
    ("image", .record [("oci", .text spec.image)]),
    ("kernel", .record [("oci", .text spec.kernel), ("cmd_line", .text spec.bootArguments)]),
    ("cpus", .natural spec.cpus),
    ("memory_mib", .natural spec.memoryMib),
    ("disk_size_bytes", .natural spec.diskSize),
    ("network", .record [("ports", portsToJson spec.ports)]),
    ("ssh", .bool spec.ssh)]

def Content.toJson (content : Content) : Json.Value :=
  .record [("id", .text content.id), ("size_bytes", .natural content.size)]

def NetworkStatus.toJson (network : NetworkStatus) : Json.Value :=
  .record [
    ("ip_addresses", addressesToJson network.addresses),
    ("ports", portsToJson network.ports)]

def Status.toJson (status : Status) : Json.Value :=
  .record [
    ("running", .bool status.isRunning),
    ("runtime", .ofOption (status.runtime.map fun id ↦ .record [("id", .text id)])),
    ("start_time", .ofOption (status.startTime.map timestampToJson)),
    ("network", .ofOption (status.network.map NetworkStatus.toJson)),
    ("image", status.image.toJson),
    ("kernel", status.kernel.toJson)]

def Record.toJson (record : Record) : Json.Value :=
  .record [
    ("metadata", record.metadata.toJson),
    ("spec", record.spec.toJson),
    ("status", record.status.toJson)]

def Record.text (record : Record) : String := record.toJson.pretty

/-! ## Reading -/

def annotationsOfJson? : Json.Value → Option Annotations
  | .object members => do
    let entries ← members.mapM fun (key, value) ↦ do return (← key, ← value.text?)
    return Annotations.ofList entries
  | _ => none

def timestampOfJson? (value : Json.Value) : Option Timestamp := do
  Timestamp.parse? (← value.text?).toList

def addressOfJson? (value : Json.Value) : Option Ipv4 := do Ipv4.parse? (← value.text?).toList

def Metadata.ofJson? (value : Json.Value) : Option Metadata := do
  let fields ← value.fields? ["uid", "name", "annotations", "created"]
  let uid ← fields.required "uid" Json.Value.text?
  let name ← fields.required "name" Json.Value.text?
  let annotations ← fields.withDefault "annotations" annotationsOfJson? .empty
  let created ← fields.required "created" timestampOfJson?
  return { uid, name, annotations, created }

def imageNameOfJson? (value : Json.Value) : Option String := do
  (← value.fields? ["oci"]).required "oci" Json.Value.text?

def kernelOfJson? (value : Json.Value) : Option (String × String) := do
  let fields ← value.fields? ["oci", "cmd_line"]
  return (← fields.required "oci" Json.Value.text?, ← fields.required "cmd_line" Json.Value.text?)

def declaredPortsOfJson? (value : Json.Value) : Option (List PortMapping) := do
  (← value.fields? ["ports"]).withDefault "ports" (Json.Value.items? PortMapping.ofJson?) []

def Spec.ofJson? (value : Json.Value) : Option Spec := do
  let fields ← value.fields?
    ["image", "kernel", "cpus", "memory_mib", "disk_size_bytes", "network", "ssh"]
  let image ← fields.required "image" imageNameOfJson?
  let (kernel, bootArguments) ← fields.required "kernel" kernelOfJson?
  let cpus ← fields.required "cpus" (Json.Value.natural? 0xff)
  let memoryMib ← fields.required "memory_mib" (Json.Value.natural? 0xffffffff)
  let diskSize ← fields.required "disk_size_bytes" (Json.Value.natural? 0xffffffffffffffff)
  let ports ← fields.withDefault "network" declaredPortsOfJson? []
  let ssh ← fields.withDefault "ssh" Json.Value.bool? false
  if h : cpus ≤ 0xff ∧ memoryMib ≤ 0xffffffff ∧ diskSize ≤ 0xffffffffffffffff then
    return {
      image, kernel, bootArguments, cpus, memoryMib, diskSize, ports, ssh
      cpus_le := h.1, memoryMib_le := h.2.1, diskSize_le := h.2.2 }
  else none

def Content.ofJson? (value : Json.Value) : Option Content := do
  let fields ← value.fields? ["id", "size_bytes"]
  let id ← fields.withDefault "id" Json.Value.text? ""
  let size ← fields.withDefault "size_bytes" (Json.Value.natural? 0xffffffffffffffff) 0
  if h : size ≤ 0xffffffffffffffff then return ⟨id, size, h⟩ else none

def runtimeOfJson? (value : Json.Value) : Option String := do
  (← value.fields? ["id"]).required "id" Json.Value.text?

def NetworkStatus.ofJson? (value : Json.Value) : Option NetworkStatus := do
  let fields ← value.fields? ["ip_addresses", "ports"]
  let addresses ← fields.withDefault "ip_addresses" (Json.Value.items? addressOfJson?) []
  let ports ← fields.withDefault "ports" (Json.Value.items? PortMapping.ofJson?) []
  return { addresses, ports }

def Status.ofJson? (value : Json.Value) : Option Status := do
  let fields ← value.fields? ["running", "runtime", "start_time", "network", "image", "kernel"]
  let isRunning ← fields.withDefault "running" Json.Value.bool? false
  let runtime ← fields.optional "runtime" runtimeOfJson?
  let startTime ← fields.optional "start_time" timestampOfJson?
  let network ← fields.optional "network" NetworkStatus.ofJson?
  let image ← fields.withDefault "image" Content.ofJson? .none
  let kernel ← fields.withDefault "kernel" Content.ofJson? .none
  return { isRunning, runtime, startTime, network, image, kernel }

def Record.ofJson? (value : Json.Value) : Option Record := do
  let fields ← value.fields? ["metadata", "spec", "status"]
  let metadata ← fields.required "metadata" Metadata.ofJson?
  let spec ← fields.required "spec" Spec.ofJson?
  let status ← fields.withDefault "status" Status.ofJson? .initial
  return { metadata, spec, status }

def Record.parse? (text : List Char) : Option Record := Json.parse? text >>= Record.ofJson?

end MicroVm.Machine

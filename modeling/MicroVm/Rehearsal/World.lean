import MicroVm.Rehearsal.CommandScript
import MicroVm.Rehearsal.DeviceTable
import MicroVm.Rehearsal.HypervisorScript
import MicroVm.Rehearsal.NetworkScript
import MicroVm.Run.Sandbox

/-!
# A world for rehearsals

A world holds everything that programs ask for: files, devices, a network, a store of one record,
commands, a hypervisor and a clock on which time passes only when a program sleeps. A program that
is run in a world leaves the world as it is afterwards, with a history of all that was done.
-/

namespace MicroVm.Rehearsal

open MicroVm.Host MicroVm.Hypervisor MicroVm.Machine MicroVm.Network MicroVm.Run MicroVm.Storage

structure World where
  clock : Duration := ⟨0⟩
  /-- The time of day, which stands still. -/
  today : Timestamp
  faults : Faults := {}
  files : FileTree := {}
  devices : DeviceTable := {}
  network : NetworkScript := {}
  commands : CommandScript := {}
  hypervisor : HypervisorScript := {}
  server : ControlServer := {}
  stored : Option Record := none
  /-- The records that were saved, in order. -/
  saved : List Record := []
  ending : Supervised := .returned (.ok ())
  /-- How many tasks were started, and those that were not aborted. -/
  started : Nat := 0
  tasks : List TaskHandle := []
  /-- What a supervisor was asked for, and how many records were saved by then. -/
  booted : Option (String × BootConfig × Nat) := none

namespace World

def plant (path : String) (node : FileNode) (world : World) : World :=
  { world with files := world.files.plant path node }

/-- The world with a file of zeros, or without one when there is no length. -/
def plantZeros (path : String) (length : Option Nat) (world : World) : World :=
  match length with
  | some length => world.plant path (.resized [] newFileMode length)
  | none => world

/-- The world with a file that holds a text, or without one when there is no text. -/
def plantText (path : String) (text : Option String) (world : World) : World :=
  match text with
  | some text => world.plant path (.file (Text.bytesOfText text) 0 newFileMode)
  | none => world

/-- Starts a task under a handle of its own. -/
def startTask (world : World) : TaskHandle × World :=
  let handle : TaskHandle := ⟨world.started⟩
  (handle, { world with started := world.started + 1, tasks := handle :: world.tasks })

def abort (handle : TaskHandle) (world : World) : World :=
  { world with tasks := world.tasks.erase handle }

def unlessFault {α : Type} (operation : String) (act : World → Except Failure α × World)
    (world : World) : Except Failure α × World :=
  let (fault, faults) := world.faults.call operation
  let world := { world with faults }
  match fault with
  | some text => (.error (.cause (.reported text)), world)
  | none => act world

/-- Runs a program on the files. A program that halts has no result. -/
def onFiles {α : Type} (program : Program Files α) (world : World) : Option α × World :=
  let (result, files) := program.run FileTree.answer world.files
  (result, { world with files })

def updateDevices (world : World) (update : DeviceTable → DeviceTable) : World :=
  { world with devices := update world.devices }

def record (world : World) (call : DeviceCall) : World :=
  world.updateDevices fun table ↦ table.record call (!world.files.locks.isEmpty)

def succeed (update : DeviceTable → DeviceTable) (world : World) : Except Failure Unit × World :=
  (.ok (), world.updateDevices update)

def device : Handler Devices World
  | .attachLoop file readOnly, world =>
    (world.record (.attach file world.devices.nextLoop readOnly)).unlessFault "attach_loop"
      fun world ↦
        (.ok world.devices.nextLoop, world.updateDevices fun table ↦ table.attach file)
  | .detachLoop node, world =>
    (world.record (.detach node)).unlessFault "detach_loop"
      (succeed fun table ↦ table.dropNode node)
  | .sizeSectors node, world =>
    world.unlessFault "size_sectors" fun world ↦
      (reported (world.devices.size? world.files node), world)
  | .createMapping name table, world =>
    (world.record (.create name table)).unlessFault "dm_create"
      (succeed fun table ↦ table.addNode (mapperPath name))
  | .mappingExists name, world => (decide (mapperPath name ∈ world.devices.nodes), world)
  | .removeMappings names, world =>
    (world.record (.remove names)).unlessFault "dm_remove" fun world ↦
      let (result, devices) := world.devices.removeMappings names
      (reported result, { world with devices })
  | .checkFilesystem node, world => (world.record (.check node)).unlessFault "fsck" (succeed id)
  | .growFilesystem node, world => (world.record (.grow node)).unlessFault "resize_fs" (succeed id)
  | .deviceExists path, world =>
    let world := world.updateDevices DeviceTable.look
    (world.devices.has path, world)
  | .isBlockDevice path, world => (world.devices.blockDevices.contains path, world)
  | .acquireLock path, world =>
    let (result, world) := world.onFiles (acquireHostLock path).attempt
    (result.getD (.ok ()), world)
  | .releaseLock path, world => ((), (world.onFiles (Files.unlock path)).2)

def link : Handler Links World
  | .list, world =>
    let (links, network) := world.network.read
    (links, { world with network })
  | .gateway device, world =>
    let (gateway, network) := world.network.gateway device
    (gateway, { world with network })
  | .change change, world =>
    let world := { world with network.changes := world.network.changes ++ [change] }
    world.unlessFault (changeName change) fun world ↦ (.ok (), world)
  | .randomBytes, world => ((default : Octets 6), world)
  | .now, world => (world.clock, world)
  | .sleep duration, world => ((), { world with clock := world.clock + duration })
  | .warn interface text, world =>
    ((), { world with network.warnings := world.network.warnings ++ [(interface, text)] })

def file : Handler Files World
  | request, world =>
    let (answer, files) := FileTree.answer request world.files
    (answer, { world with files })

def disk : Handler (Devices.both Files) World
  | .inl request, world => world.device request
  | .inr request, world => world.file request

def load (id : String) (world : World) : Except Failure Record :=
  match world.stored with
  | some record =>
    if record.uid = id ∨ record.name = id then .ok record
    else .error (.cause (.unknownMachine id))
  | none => .error (.cause (.unknownMachine id))

def run : Handler Surroundings World
  | .link request, world => world.link request
  | .device request, world => world.device request
  | .file request, world => world.file request
  | .load id, world => world.unlessFault "load" fun world ↦ (world.load id, world)
  | .save record, world =>
    world.unlessFault "save" fun world ↦ (.ok (), { world with saved := world.saved ++ [record] })
  | .startResponder _, world => world.startTask
  | .abort handle, world => ((), world.abort handle)
  | .captureSignals, world => (.ok (), world)
  | .today, world => (world.today, world)
  | .supervise uid config, world =>
    (world.ending, { world with booted := some (uid, config, world.saved.length) })

def process : Handler Process World
  | request, world =>
    let host : HypervisorHost := ⟨world.hypervisor, world.server, world.files⟩
    let (answer, host) := HypervisorHost.answer request host
    (answer, { world with hypervisor := host.script, server := host.server, files := host.files })

def sandbox : Handler Sandbox World
  | .command command, world =>
    let (answer, commands) := CommandScript.answer command world.commands
    (answer, { world with commands })
  | .file request, world => world.file request
  | .process request, world => world.process request
  | .randomBytes, world => ((default : Octets 6), world)
  | .now, world => (world.clock, world)
  | .sleep duration, world => ((), { world with clock := world.clock + duration })
  | .warn interface text, world => world.link (.warn interface text)
  | .today, world => (world.today, world)
  | .captureSignals, world => (.ok (), world)
  | .startResponder _, world => world.startTask
  | .abort handle, world => ((), world.abort handle)

end World

end MicroVm.Rehearsal

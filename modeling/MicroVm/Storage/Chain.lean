import MicroVm.Storage.Device
import MicroVm.Storage.Table
import MicroVm.Text.Split

/-!
# The root device of a machine

The root device is a snapshot: a copy-on-write view of the image, with the overlay file of the
machine as its store. An image smaller than the overlay is first filled up with zeros to the same
size by a mapping of its own, the padded base.

```text
fcspawn-<uid>         snapshot of the origin, written to the overlay
  fcspawn-<uid>-base  the image and zeros after it, only under a larger overlay
```

Loops are detached as soon as the mappings stand on them. When something fails on the way, the
mappings made so far are removed again. Checking the filesystem, detaching and removing after a
failure are best effort, and the result does not depend on them.
-/

namespace MicroVm.Storage

/-- What identifies the root device of a machine, and how it is built. -/
structure Chain where
  uid : String
  lockPath : String
  chunkSectors : Nat
  deriving DecidableEq, Repr

namespace Chain

def devicePath (chain : Chain) : String := mapperPath (snapshotName chain.uid)

/-- The device of an image: the image itself when it is a block device, or else a loop over it that
does not write. -/
def baseDevice (base : String) : Program Devices Device := do
  if ← Devices.isBlockDevice base then return .physical base
  else return .loop base true none

/-- Puts the snapshot on an origin. Gives the mappings made, the topmost first, beside the
result. -/
def stackSnapshot (chain : Chain) (grows : Bool) (origin overlay : String) (sectors : Nat)
    (made : List String) : Program Devices (Except Failure String × List String) := do
  let name := snapshotName chain.uid
  let table := snapshotTable sectors origin overlay chain.chunkSectors
  match ← (Device.mapper name table.text).activate.attempt with
  | .error failure => return (.error failure, made)
  | .ok _ =>
    let _ ← (Devices.checkFilesystem chain.devicePath).attempt
    if grows then
      match ← (Task.within (.growing chain.devicePath)
          (Devices.growFilesystem chain.devicePath)).attempt with
      | .error failure => return (.error failure, name :: made)
      | .ok _ => return (.ok chain.devicePath, name :: made)
    else return (.ok chain.devicePath, name :: made)

def stack (chain : Chain) (base : String) (baseSectors : Nat) (overlay : String)
    (overlaySectors : Nat) : Program Devices (Except Failure String × List String) := do
  if baseSectors < overlaySectors then
    let name := paddedBaseName chain.uid
    match paddedBaseTable? base baseSectors overlaySectors with
    | none => Program.halt
    | some table =>
      match ← (Device.mapper name table.text).activate.attempt with
      | .error failure => return (.error failure, [])
      | .ok _ => stackSnapshot chain true (mapperPath name) overlay overlaySectors [name]
  else stackSnapshot chain false base overlay overlaySectors []

def stackOrRollBack (chain : Chain) (base : String) (baseSectors : Nat) (overlay : String)
    (overlaySectors : Nat) : Program Devices (Except Failure String) := do
  let (result, made) ← stack chain base baseSectors overlay overlaySectors
  match result with
  | .ok device => return .ok device
  | .error failure =>
    if !made.isEmpty then
      let _ ← (Devices.removeMappings made).attempt
    return .error failure

/-- Builds on two devices that have their nodes. A padded base that an earlier run has left behind
is removed first. -/
def build (chain : Chain) (base overlay : Device) : Task Devices String := do
  let baseNode ← Task.ofExcept base.requireNode
  let overlayNode ← Task.ofExcept overlay.requireNode
  let baseSectors ← Devices.sizeSectors baseNode
  let overlaySectors ← Devices.sizeSectors overlayNode
  if overlaySectors < baseSectors then Task.fail (.overlayTooSmall overlaySectors baseSectors)
  else
    if ← Devices.mappingExists (paddedBaseName chain.uid) then
      Task.within .removingStaleBase (Devices.removeMappings [paddedBaseName chain.uid])
    Task.of (stackOrRollBack chain baseNode baseSectors overlayNode overlaySectors)

/-- Attaches two devices and builds on them. Gives the devices as they are afterwards. -/
def assemble (chain : Chain) (base overlay : Device) :
    Program Devices (Except Failure String × Device × Device) := do
  match ← base.activate.attempt with
  | .error failure => return (.error failure, base, overlay)
  | .ok base =>
    match ← overlay.activate.attempt with
    | .error failure => return (.error failure, base, overlay)
    | .ok overlay => return (← (build chain base overlay).attempt, base, overlay)

def activateLocked (chain : Chain) (base overlay : String) : Task Devices String := do
  if ← Devices.exists? chain.devicePath then return chain.devicePath
  else
    let base ← baseDevice base
    let (result, base, overlay) ← assemble chain base (.loop overlay false none)
    let _ ← ExceptT.lift base.release.attempt
    let _ ← ExceptT.lift overlay.release.attempt
    Task.ofExcept result

/-- Builds the root device over an image and an overlay. One that is there is left as it is. -/
def activate (chain : Chain) (base overlay : String) : Task Devices String := do
  if ← Devices.exists? chain.devicePath then return chain.devicePath
  else Devices.withLock chain.lockPath (chain.activateLocked base overlay)

def saysGone (message : String) : Bool :=
  let text := Text.lowered message.toList
  Text.occursIn "no such device or address".toList text || Text.occursIn "not found".toList text

def mappings (chain : Chain) : Program Devices (List String) := do
  if ← Devices.mappingExists (paddedBaseName chain.uid) then
    return [snapshotName chain.uid, paddedBaseName chain.uid]
  else return [snapshotName chain.uid]

/-- Removes the mappings. Mappings that are not there count as removed. -/
def deactivateLocked (chain : Chain) : Task Devices Unit := do
  let names ← chain.mappings
  match ← ExceptT.lift (Devices.removeMappings names).attempt with
  | .ok () => return ()
  | .error failure =>
    if saysGone failure.message then return ()
    else Task.of (.done (.error (.within .removingSnapshot failure)))

def deactivate (chain : Chain) : Task Devices Unit :=
  Devices.withLock chain.lockPath chain.deactivateLocked

end Chain

end MicroVm.Storage

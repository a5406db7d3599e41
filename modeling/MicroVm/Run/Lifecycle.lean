import MicroVm.Layout
import MicroVm.Network.Takeover
import MicroVm.Run.Responders
import MicroVm.Run.Teardown
import MicroVm.Settings
import MicroVm.Storage.Chain
import MicroVm.Storage.Overlay

/-!
# The life of a run

A run loads the record of its machine, provides network and storage, saves the record as running,
supervises the hypervisor and tears everything down. A failure before the record was saved returns
without saving anything; what was provided by then is released as far as that can be done. Once the
record is saved as running, the teardown always comes, and it saves the record once more. The
failure of the hypervisor, if there is one, is the failure of the run.
-/

namespace MicroVm.Run

open MicroVm.Host MicroVm.Hypervisor MicroVm.Machine MicroVm.Network MicroVm.Storage

structure Runner where
  layout : Layout
  settings : Settings

def fallbackResolverPath : String := "/run/systemd/resolve/resolv.conf"

/-- The text of a file that may be unreadable. -/
def readIfPossible (path : String) : Program Files (Option (List Char)) := do
  match ← (Files.readText path).attempt with
  | .ok text => return some text
  | .error _ => return none

/-- The name servers for the guest. The fallback configuration is read only when the local one names
no server but those on the loopback. -/
def readDns (path : String) : Program Files GuestDns := do
  let localText ← readIfPossible path
  if (nameservers (localText.getD [])).all IpAddress.isLoopback then
    return guestDns localText (← readIfPossible fallbackResolverPath)
  else return guestDns localText none

def checkRecord (record : Record) : Except Failure Unit :=
  match checkUid record.uid with
  | .error fault => .error (.cause (.badUid fault))
  | .ok () =>
    if record.status.image.id = "" then .error (.cause (.noImage record.uid))
    else if record.status.kernel.id = "" then .error (.cause (.noKernel record.uid))
    else .ok ()

namespace Runner

def chain (runner : Runner) (record : Record) : Chain :=
  ⟨record.uid, runner.settings.lockPath, runner.settings.chunkSectors⟩

def discoveryOptions (runner : Runner) (record : Record) : DiscoveryOptions where
  modes := record.metadata.annotations.interfaceModes
  pollInterval := runner.settings.pollInterval
  timeout := runner.settings.networkTimeout

def provideNetwork (runner : Runner) (record : Record) : Task Surroundings NetworkSetup := do
  let candidates ← Surroundings.onLinks (discover (runner.discoveryOptions record))
  let dns ← Surroundings.onFiles (ExceptT.lift (readDns runner.settings.resolverPath))
  Surroundings.onLinks (takeOver dns candidates)

def provideStorage (runner : Runner) (record : Record) : Task Surroundings String := do
  let base := runner.layout.imageFile record.status.image.id
  let overlay := runner.layout.overlayFile record.uid
  let baseSize ← Surroundings.onDisks (baseImageSize base)
  let _ ← Surroundings.onFiles (ensureOverlay overlay record.spec.diskSize baseSize)
  Surroundings.onDevices ((runner.chain record).activate base overlay)

def bootConfig (runner : Runner) (record : Record) (network : NetworkSetup) (root : String) :
    BootConfig :=
  .of (runner.layout.kernelImage record.status.kernel.id) record.spec.bootArguments root
    record.spec.cpus record.spec.memoryMib network.guestNics

/-- Gives up after the responders were started: they are aborted, storage is released as far as that
can be done, and the failure is that of the step that failed. -/
def giveUp {α : Type} (runner : Runner) (record : Record) (handles : List TaskHandle)
    (failure : Failure) : Task Surroundings α := do
  abortAll handles
  let _ ← ExceptT.lift (Surroundings.onDevices (runner.chain record).deactivate).attempt
  Task.of (.done (.error failure))

def superviseAndTearDown (runner : Runner) (record : Record) (handles : List TaskHandle)
    (config : BootConfig) : Task Surroundings Unit := do
  let outcome ← Surroundings.supervise record.uid config
  abortAll handles
  let (report, _) ← ExceptT.lift (tearDown (runner.chain record) record)
  Task.ofExcept outcome.result
  Task.ofExcept report.result

def continueWith (runner : Runner) (record : Record) (network : NetworkSetup)
    (handles : List TaskHandle) (root : String) : Task Surroundings Unit := do
  match ← ExceptT.lift Surroundings.captureSignals.attempt with
  | .error failure => runner.giveUp record handles failure
  | .ok () =>
    let running := record.markRunning network.addresses (← Surroundings.today)
    match ← ExceptT.lift (Surroundings.save running).attempt with
    | .error failure => runner.giveUp record handles (.within .savingRunning failure)
    | .ok () =>
      runner.superviseAndTearDown running handles (runner.bootConfig record network root)

def run (runner : Runner) (id : String) : Task Surroundings Unit := do
  let record ← Task.within (.loading id) (Surroundings.load id)
  Task.ofExcept (checkRecord record)
  let network ← Task.within .provisioningNetwork (runner.provideNetwork record)
  let handles ← startAll (responders network runner.settings.dhcpv6)
  match ← ExceptT.lift (runner.provideStorage record).attempt with
  | .error failure => runner.giveUp record handles (.within .provisioningStorage failure)
  | .ok root => runner.continueWith record network handles root

end Runner

end MicroVm.Run

import MicroVm.Host.Files
import MicroVm.Storage.Devices

/-!
# The overlay file

The overlay takes what the machine writes, so it has to hold a full copy of the image and the
requested disk. It is grown when it is too small and never cut, because that would lose what the
machine has written.
-/

namespace MicroVm.Storage

open MicroVm.Host

/-- The size of an image in bytes. The size of a block device is its number of sectors times 512;
one that does not fit in 64 bits is a crash. -/
def baseImageSize (base : String) : Task (Devices.both Files) Nat := do
  if ← ExceptT.lift (Devices.isBlockDevice base).left then
    let sectors ← Task.of
      (Task.within (.readingBaseDevice base) (Devices.sizeSectors base)).attempt.left
    if sectors * 512 < UInt64.size then return sectors * 512 else Task.crash
  else Task.of (Task.within (.readingBaseImage base) (Files.length base)).attempt.right

/-- Makes sure that the overlay can hold the image and the disk. Gives its size. -/
def ensureOverlay (path : String) (diskSize baseSize : Nat) : Task Files Nat := do
  match parentPath? path with
  | some parent => Task.within (.creating parent) (Files.createDirectories parent)
  | none => pure ()
  Task.within (.openingOverlay path) (Files.openFile path)
  let current ← Task.within .readingOverlaySize (Files.length path)
  let wanted := max diskSize baseSize
  if wanted ≤ current then return current
  else
    Task.within (.resizingOverlay path) (Files.resize path wanted)
    return wanted

end MicroVm.Storage

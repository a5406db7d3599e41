import MicroVm.Host.Files

/-!
# The lock of the host

Changes of the device mapper by several processes of one host are kept apart by the lock of a
file. The file and its directory are made when they are missing.
-/

namespace MicroVm.Storage

open MicroVm.Host

def acquireHostLock (path : String) : Task Files Unit := do
  match parentPath? path with
  | some parent => Task.within (.creating parent) (Files.createDirectories parent)
  | none => pure ()
  Task.within (.openingLock path) (Files.openFile path)
  Task.within (.locking path) (Files.lock path)

end MicroVm.Storage

import MicroVm.Program

/-!
# Access to the host's block devices

What a run asks of loop devices, of the device mapper and of the filesystem tools. All runs on one
host share the device mapper, so there is a lock that one of them holds at a time.
-/

namespace MicroVm.Storage

inductive DeviceRequest
  /-- Attaches a file to a free loop device, whose node is the answer. -/
  | attachLoop (file : String) (readOnly : Bool)
  | detachLoop (device : String)
  /-- The size in sectors of 512 bytes. -/
  | sizeSectors (device : String)
  | createMapping (name table : String)
  | mappingExists (name : String)
  | removeMappings (names : List String)
  | checkFilesystem (device : String)
  | growFilesystem (device : String)
  | deviceExists (path : String)
  /-- Whether a path is a block device and no regular file. -/
  | isBlockDevice (path : String)
  | acquireLock (path : String)
  | releaseLock (path : String)
  deriving DecidableEq, Repr

def DeviceRequest.Answer : DeviceRequest → Type
  | .attachLoop _ _ => Except Failure String
  | .detachLoop _ => Except Failure Unit
  | .sizeSectors _ => Except Failure Nat
  | .createMapping _ _ => Except Failure Unit
  | .mappingExists _ => Bool
  | .removeMappings _ => Except Failure Unit
  | .checkFilesystem _ => Except Failure Unit
  | .growFilesystem _ => Except Failure Unit
  | .deviceExists _ => Bool
  | .isBlockDevice _ => Bool
  | .acquireLock _ => Except Failure Unit
  | .releaseLock _ => Unit

def Devices : Interface := ⟨DeviceRequest, DeviceRequest.Answer⟩

namespace Devices

def attachLoop (file : String) (readOnly : Bool) : Task Devices String :=
  .of (Program.perform (I := Devices) (.attachLoop file readOnly))

def detachLoop (device : String) : Task Devices Unit :=
  .of (Program.perform (I := Devices) (.detachLoop device))

def sizeSectors (device : String) : Task Devices Nat :=
  .of (Program.perform (I := Devices) (.sizeSectors device))

def createMapping (name table : String) : Task Devices Unit :=
  .of (Program.perform (I := Devices) (.createMapping name table))

def mappingExists (name : String) : Program Devices Bool :=
  Program.perform (I := Devices) (.mappingExists name)

def removeMappings (names : List String) : Task Devices Unit :=
  .of (Program.perform (I := Devices) (.removeMappings names))

def checkFilesystem (device : String) : Task Devices Unit :=
  .of (Program.perform (I := Devices) (.checkFilesystem device))

def growFilesystem (device : String) : Task Devices Unit :=
  .of (Program.perform (I := Devices) (.growFilesystem device))

def exists? (path : String) : Program Devices Bool :=
  Program.perform (I := Devices) (.deviceExists path)

def isBlockDevice (path : String) : Program Devices Bool :=
  Program.perform (I := Devices) (.isBlockDevice path)

/-- Runs a task with the lock of the host, which is given back however the task ends. -/
def withLock {α : Type} (path : String) (task : Task Devices α) : Task Devices α := do
  Task.of (Program.perform (I := Devices) (.acquireLock path))
  let result ← ExceptT.lift task.attempt
  ExceptT.lift (Program.perform (I := Devices) (.releaseLock path))
  Task.ofExcept result

end Devices

end MicroVm.Storage

import MicroVm.Host.Commands
import MicroVm.Text.Numeral

/-!
# Block devices through the host's tools

Loop devices are the work of `losetup`, sizes of `blockdev`, mappings of `dmsetup`, and filesystems
of `e2fsck` and `resize2fs`.
-/

namespace MicroVm.Storage.DeviceTools

open MicroVm.Host

def attaching (file : String) (readOnly : Bool) : Command where
  program := "losetup"
  arguments := ["--find", "--show"] ++ (if readOnly then ["--read-only"] else []) ++ [file]

def attachLoop (file : String) (readOnly : Bool) : Task Commands String := do
  let node := Text.trim (← Commands.output (attaching file readOnly))
  if node.isEmpty then Task.fail (.noLoopDevice file) else return String.ofList node

def detachLoop (device : String) : Task Commands Unit :=
  Commands.runAll [⟨"losetup", ["--detach", device], none⟩]

def readSize (device : String) (text : List Char) : Except Failure Nat :=
  match Text.readWord64 text with
  | .ok size => .ok size
  | .error fault =>
    .error (.within (.parsingSize device (String.ofList text)) (.cause (.badNumeral fault)))

def sizeSectors (device : String) : Task Commands Nat := do
  let text ← Commands.output ⟨"blockdev", ["--getsz", device], none⟩
  Task.ofExcept (readSize device (Text.trim text))

/-- Creates a mapping. Its table is what the command reads. -/
def createMapping (name table : String) : Task Commands Unit := do
  let result ← Task.within .spawningMapper
    (Commands.start ⟨"dmsetup", ["create", name, "--verifyudev"], some table⟩)
  Commands.requireSuccess s!"dmsetup create {name}" result

/-- Whether the device mapper knows a name. A command that cannot be run knows none. -/
def mappingExists (name : String) : Program Commands Bool := do
  match ← (Commands.run ⟨"dmsetup", ["info", name], none⟩).attempt with
  | .ok result => return result.status.isSuccess
  | .error _ => return false

def removalWords (names : List String) : String := "dmsetup remove " ++ " ".intercalate names

def removeMappings (names : List String) : Task Commands Unit := do
  let result ← Commands.run ⟨"dmsetup", ["remove", "--verifyudev"] ++ names, none⟩
  Commands.requireSuccess (removalWords names) result

/-- The exit codes of a check after which the filesystem is sound. -/
def soundCodes : List Nat := [0, 1]

def checkFilesystem (device : String) : Task Commands Unit := do
  let result ← Commands.run ⟨"e2fsck", ["-p", "-f", device], none⟩
  let code := result.status.code?
  if code.any (· ∈ soundCodes) then return ()
  else Task.fail (.checkFailed device code result.complaint)

def growFilesystem (device : String) : Task Commands Unit :=
  Commands.runAll [⟨"resize2fs", [device], none⟩]

end MicroVm.Storage.DeviceTools

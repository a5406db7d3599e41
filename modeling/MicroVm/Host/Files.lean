import MicroVm.Program
import MicroVm.Text.Utf8

/-!
# Files

What programs ask of the file system, one operation at a time, so that a run can be interrupted or
fail between any two of them.
-/

namespace MicroVm.Host

inductive FileRequest
  /-- Makes a directory and those above it, as far as they are missing. -/
  | createDirectories (path : String)
  | fileExists (path : String)
  /-- Whether a path is a block device and no regular file. -/
  | isBlockDevice (path : String)
  | readFile (path : String)
  /-- Puts the content in place of what the file held. -/
  | writeFile (path : String) (content : List UInt8)
  | setMode (path : String) (mode : Nat)
  | rename (source target : String)
  | removeFile (path : String)
  | listDirectory (path : String)
  /-- Opens a file for writing and keeps what it holds. Makes it when it is missing. -/
  | openFile (path : String)
  | fileLength (path : String)
  /-- Cuts a file or fills it up with zeros. -/
  | resizeFile (path : String) (length : Nat)
  | createPipe (path : String)
  /-- Waits until no other process holds the lock of a file, and takes it. -/
  | lockFile (path : String)
  | unlockFile (path : String)
  deriving DecidableEq

def FileRequest.Answer : FileRequest → Type
  | .fileExists _ => Bool
  | .isBlockDevice _ => Bool
  | .readFile _ => Except SystemError (List UInt8)
  | .listDirectory _ => Except SystemError (List String)
  | .fileLength _ => Except SystemError Nat
  | .createDirectories _ => Except SystemError Unit
  | .writeFile _ _ => Except SystemError Unit
  | .setMode _ _ => Except SystemError Unit
  | .rename _ _ => Except SystemError Unit
  | .removeFile _ => Except SystemError Unit
  | .openFile _ => Except SystemError Unit
  | .resizeFile _ _ => Except SystemError Unit
  | .createPipe _ => Except SystemError Unit
  | .lockFile _ => Except SystemError Unit
  | .unlockFile _ => Unit

def Files : Interface := ⟨FileRequest, FileRequest.Answer⟩

namespace Files

def createDirectories (path : String) : Task Files Unit :=
  .ofSystem (Program.perform (I := Files) (.createDirectories path))

def exists? (path : String) : Program Files Bool :=
  Program.perform (I := Files) (.fileExists path)

def isBlockDevice (path : String) : Program Files Bool :=
  Program.perform (I := Files) (.isBlockDevice path)

def read (path : String) : Task Files (List UInt8) :=
  .ofSystem (Program.perform (I := Files) (.readFile path))

def readText (path : String) : Task Files (List Char) := do
  let content ← read path
  match Text.decodeStrict? content with
  | some text => return text
  | none => Task.fail .notText

def write (path : String) (content : List UInt8) : Task Files Unit :=
  .ofSystem (Program.perform (I := Files) (.writeFile path content))

def setMode (path : String) (mode : Nat) : Task Files Unit :=
  .ofSystem (Program.perform (I := Files) (.setMode path mode))

def rename (source target : String) : Task Files Unit :=
  .ofSystem (Program.perform (I := Files) (.rename source target))

def remove (path : String) : Program Files (Except SystemError Unit) :=
  Program.perform (I := Files) (.removeFile path)

def list (path : String) : Task Files (List String) :=
  .ofSystem (Program.perform (I := Files) (.listDirectory path))

def openFile (path : String) : Task Files Unit :=
  .ofSystem (Program.perform (I := Files) (.openFile path))

def length (path : String) : Task Files Nat :=
  .ofSystem (Program.perform (I := Files) (.fileLength path))

/-- The length that no file can have, and none that is longer. -/
def lengthBound : Nat := 0x8000000000000000

def resize (path : String) (length : Nat) : Task Files Unit :=
  if length < lengthBound then
    .ofSystem (Program.perform (I := Files) (.resizeFile path length))
  else Task.fail .lengthOutOfRange

def createPipe (path : String) : Task Files Unit :=
  .ofSystem (Program.perform (I := Files) (.createPipe path))

def lock (path : String) : Task Files Unit :=
  .ofSystem (Program.perform (I := Files) (.lockFile path))

def unlock (path : String) : Program Files Unit :=
  Program.perform (I := Files) (.unlockFile path)

end Files

/-- The directory that a path lies in, none for the root and the empty path. -/
def parentPath? (path : String) : Option String :=
  let names := (path.toList.reverse.dropWhile (· == '/')).reverse
  match names with
  | [] => none
  | _ =>
    let front := (names.reverse.dropWhile (· != '/')).reverse
    let trimmed := (front.reverse.dropWhile (· == '/')).reverse
    if trimmed.isEmpty && !front.isEmpty then some "/" else some (String.ofList trimmed)

end MicroVm.Host

/-!
# Where things lie

All files lie under one base directory, in a directory per kind and then per id. Device names
derive from the machine id.
-/

namespace MicroVm

/-- The path of `part` seen from a directory. An absolute path leads out of the directory. -/
def joinPath (directory part : String) : String :=
  if part.toList.head? = some '/' then part
  else if directory.toList.getLast? = some '/' ∨ directory = "" then directory ++ part
  else directory ++ "/" ++ part

structure Layout where
  base : String
  deriving DecidableEq, Repr

namespace Layout

def defaultBase : String := "/var/lib/fcspawn"

def ofChoice (base : Option String) : Layout := ⟨base.getD defaultBase⟩

/-- The layout after several choices, of which the first one counts. -/
def ofChoices (choices : List (Option String)) : Layout := ofChoice choices.head?.join

def stateDirectory (layout : Layout) : String := joinPath layout.base "state"

def imageDirectory (layout : Layout) (image : String) : String :=
  joinPath (joinPath layout.base "image") image

def imageFile (layout : Layout) (image : String) : String :=
  joinPath (layout.imageDirectory image) "image.ext4"

def kernelImage (layout : Layout) (kernel : String) : String :=
  joinPath (joinPath (joinPath layout.base "kernel") kernel) "vmlinux"

def machineDirectory (layout : Layout) (uid : String) : String :=
  joinPath (joinPath layout.base "vm") uid

def overlayFile (layout : Layout) (uid : String) : String :=
  joinPath (layout.machineDirectory uid) "overlay.dm"

def controlSocket (layout : Layout) (uid : String) : String :=
  joinPath (layout.machineDirectory uid) "firecracker.sock"

def logPipe (layout : Layout) (uid : String) : String :=
  joinPath (layout.machineDirectory uid) "firecracker.log"

end Layout

/-- The device-mapper name of a machine's root device. -/
def snapshotName (uid : String) : String := s!"fcspawn-{uid}"

/-- The device-mapper name of a base that is filled up with zeros. -/
def paddedBaseName (uid : String) : String := s!"fcspawn-{uid}-base"

def mapperPath (name : String) : String := joinPath "/dev/mapper" name

end MicroVm

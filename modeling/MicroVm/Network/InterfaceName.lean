/-!
# Names of host devices

The tap and the bridge made for a container interface are named after it. A device name has at
most 15 bytes, so a long name is cut there. A cut inside a character leaves no name at all.
-/

namespace MicroVm.Network

/-- The characters that fill the given number of bytes, or all of them when there are fewer. There
are none when the bytes end inside a character. -/
def takeBytes? : Nat → List Char → Option (List Char)
  | _, [] => some []
  | 0, _ :: _ => some []
  | size, c :: rest =>
    if c.utf8Size ≤ size then (takeBytes? (size - c.utf8Size) rest).map (c :: ·) else none

def maxDeviceName : Nat := 15

def deviceName? (name : List Char) : Option String :=
  (takeBytes? maxDeviceName name).map String.ofList

def tapName? (interface : String) : Option String := deviceName? ("vm_".toList ++ interface.toList)

def bridgeName? (interface : String) : Option String :=
  deviceName? ("br_".toList ++ interface.toList)

/-- Whether a device is named like a tap or bridge made here. -/
def isOwnDevice (name : String) : Bool :=
  "vm_".toList.isPrefixOf name.toList || "br_".toList.isPrefixOf name.toList

end MicroVm.Network

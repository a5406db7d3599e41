import MicroVm.Octets
import MicroVm.Text.Numeral
import MicroVm.Text.Split

/-!
# Hardware addresses

An Ethernet address has six bytes. Its text has six hexadecimal numerals with colons between them.
Writing gives every byte two digits; reading takes any numeral that fits in a byte.
-/

namespace MicroVm.Network

@[ext]
structure Mac where
  octets : Octets 6
  deriving DecidableEq, Repr

inductive MacFault
  /-- The text has not six parts. -/
  | wrongLength (text : String)
  /-- A part is no byte. -/
  | badOctet (text : String) (fault : Text.NumeralFault)
  deriving DecidableEq, Repr

def MacFault.message : MacFault → String
  | .wrongLength text => s!"invalid MAC address: {text}"
  | .badOctet text fault => s!"invalid MAC address: {text}: {fault.message}"

namespace Mac

def joinBytes : List UInt8 → List Char
  | [] => []
  | [byte] => Text.hexByte byte
  | byte :: bytes => Text.hexByte byte ++ [':'] ++ joinBytes bytes

def chars (mac : Mac) : List Char := joinBytes mac.octets.bytes

def text (mac : Mac) : String := String.ofList mac.chars

def readOctet (text : List Char) : Except Text.NumeralFault UInt8 :=
  (Text.readNumeral 16 0xff text).map UInt8.ofNat

def parse (text : List Char) : Except MacFault Mac :=
  let parts := Text.splitOn ':' text
  if parts.length = 6 then
    match parts.mapM readOctet with
    | .ok bytes =>
      match Octets.ofBytes? 6 bytes with
      | some octets => .ok ⟨octets⟩
      | none => .error (.wrongLength (String.ofList text))
    | .error fault => .error (.badOctet (String.ofList text) fault)
  else .error (.wrongLength (String.ofList text))

/-- The address with the given first byte that has the other bytes of `octets`. -/
def withFirst (first : UInt8) (octets : Octets 6) : Mac :=
  ⟨⟨first :: octets.bytes.drop 1, by simp [octets.length_bytes]⟩⟩

/-- A locally administered unicast address from six random bytes. -/
def localOfRandom (octets : Octets 6) : Mac := withFirst 0x02 octets

def first (mac : Mac) : UInt8 := mac.octets.bytes.headD 0

def isUnicast (mac : Mac) : Bool := mac.first &&& 1 == 0

/-- Whether the address was assigned locally and not by a manufacturer. -/
def isLocal (mac : Mac) : Bool := mac.first &&& 2 != 0

end Mac

end MicroVm.Network

import MicroVm.Octets
import MicroVm.Text.Numeral
import MicroVm.Text.Split

/-!
# IPv4 addresses

An address is a 32-bit word. Its text is the dotted one, with four decimal parts of at most three
digits and no leading zeros.
-/

namespace MicroVm.Network

@[ext]
structure Ipv4 where
  bits : UInt32
  deriving DecidableEq, Repr

namespace Ipv4

def unspecified : Ipv4 := ⟨0⟩

def broadcast : Ipv4 := ⟨0xffffffff⟩

/-- The four bytes of an address, the most significant first. -/
def bytes (address : Ipv4) : List UInt8 := bytesOfWord32 address.bits

def ofBytes (a b c d : UInt8) : Ipv4 := ⟨word32OfBytes a b c d⟩

def isLoopback (address : Ipv4) : Bool := address.bits >>> 24 == 127

def joinBytes : List UInt8 → List Char
  | [] => []
  | [byte] => Text.decimal byte.toNat
  | byte :: bytes => Text.decimal byte.toNat ++ ['.'] ++ joinBytes bytes

def chars (address : Ipv4) : List Char := joinBytes address.bytes

def text (address : Ipv4) : String := String.ofList address.chars

def readPart? (part : List Char) : Option UInt8 :=
  if part.isEmpty || 3 < part.length || !part.all Char.isDigit then none
  else if 1 < part.length && part.head? == some '0' then none
  else
    let value := Text.valueOfDigits part
    if value ≤ 255 then some (UInt8.ofNat value) else none

def parse? (text : List Char) : Option Ipv4 :=
  match Text.splitOn '.' text with
  | [a, b, c, d] => do
    return ofBytes (← readPart? a) (← readPart? b) (← readPart? c) (← readPart? d)
  | _ => none

def syntaxFault : String := "invalid IPv4 address syntax"

end Ipv4

end MicroVm.Network

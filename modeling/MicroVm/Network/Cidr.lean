import MicroVm.Network.Ipv4

/-!
# IPv4 addresses in a subnet

An address with a prefix length says which subnet the address lies in: the addresses that share
the first bits with it. The text has a slash between the two.
-/

namespace MicroVm.Network

@[ext]
structure Cidr where
  address : Ipv4
  prefixLength : Nat
  prefixLength_le : prefixLength ≤ 32
  deriving DecidableEq, Repr

/-- Why a text or a pair is no address in a subnet. -/
inductive CidrFault
  | missingPrefix (text : String)
  | badAddress (text : String)
  | badPrefix (text : String) (fault : Text.NumeralFault)
  | prefixTooLong (length : Nat)
  deriving DecidableEq, Repr

def CidrFault.message : CidrFault → String
  | .missingPrefix text => s!"missing prefix length: {text}"
  | .badAddress text => s!"invalid address: {text}: {Ipv4.syntaxFault}"
  | .badPrefix text fault => s!"invalid prefix: {text}: {fault.message}"
  | .prefixTooLong length => s!"invalid IPv4 prefix length: {length}"

namespace Cidr

/-- The address with a prefix of at most 32 bits. -/
def of (address : Ipv4) (prefixLength : Nat) : Except CidrFault Cidr :=
  if h : prefixLength ≤ 32 then .ok ⟨address, prefixLength, h⟩
  else .error (.prefixTooLong prefixLength)

/-- The address whose bits are one in the prefix and zero after it. -/
def mask (cidr : Cidr) : Ipv4 :=
  if cidr.prefixLength = 0 then ⟨0⟩
  else ⟨0xffffffff <<< UInt32.ofNat (32 - cidr.prefixLength)⟩

def network (cidr : Cidr) : Ipv4 := ⟨cidr.address.bits &&& cidr.mask.bits⟩

def chars (cidr : Cidr) : List Char := cidr.address.chars ++ ['/'] ++ Text.decimal cidr.prefixLength

def text (cidr : Cidr) : String := String.ofList cidr.chars

def parse (text : List Char) : Except CidrFault Cidr :=
  match Text.splitOnce '/' text with
  | none => .error (.missingPrefix (String.ofList text))
  | some (address, length) =>
    match Ipv4.parse? address with
    | none => .error (.badAddress (String.ofList text))
    | some address =>
      match Text.readByte length with
      | .error fault => .error (.badPrefix (String.ofList text) fault)
      | .ok length => of address length.toNat

end Cidr

end MicroVm.Network

import MicroVm.Network.Ipv4

/-!
# IPv6 addresses

An address has eight groups of 16 bits. Its text writes them in hexadecimal with colons between
them and replaces the first of the longest runs of two zero groups or more by a double colon. An
address that embeds an IPv4 address is written with that address in dotted form.

Reading takes up to four digits per group, a dotted IPv4 address in place of the last two groups,
and one double colon, which stands for one group at least.
-/

namespace MicroVm.Network

@[ext]
structure Ipv6 where
  octets : Octets 16
  deriving DecidableEq, Repr

/-- An address of either family. -/
inductive IpAddress
  | v4 (address : Ipv4)
  | v6 (address : Ipv6)
  deriving DecidableEq, Repr

namespace Ipv6

def wordsOfBytes : List UInt8 → List UInt16
  | high :: low :: rest => word16OfBytes high low :: wordsOfBytes rest
  | _ => []

def groups (address : Ipv6) : List UInt16 := wordsOfBytes address.octets.bytes

/-- The address of eight groups. Groups that are missing count as zero. -/
def ofGroups (groups : List UInt16) : Ipv6 := ⟨Octets.padded 16 (groups.flatMap bytesOfWord16)⟩

def isLoopback (address : Ipv6) : Bool :=
  address.octets.bytes == List.replicate 15 0 ++ [1]

/-! ## Writing -/

def joinGroups : List UInt16 → List Char
  | [] => []
  | [group] => Text.hexadecimal group.toNat
  | group :: groups => Text.hexadecimal group.toNat ++ [':'] ++ joinGroups groups

def zerosAtFront (groups : List UInt16) : Nat := (groups.takeWhile (· == 0)).length

/-- Start and length of the first of the longest runs of zero groups. -/
def longestZeros : (start : Nat) → List UInt16 → Nat × Nat
  | _, [] => (0, 0)
  | start, group :: groups =>
    let here := zerosAtFront (group :: groups)
    let later := longestZeros (start + 1) groups
    if later.2 ≤ here then (start, here) else later

def mapped? (address : Ipv6) : Option Ipv4 :=
  match address.octets.bytes with
  | [0, 0, 0, 0, 0, 0, 0, 0, 0, 0, 0xff, 0xff, a, b, c, d] => some (.ofBytes a b c d)
  | _ => none

def chars (address : Ipv6) : List Char :=
  match address.mapped? with
  | some inner => [':', ':', 'f', 'f', 'f', 'f', ':'] ++ inner.chars
  | none =>
    let groups := address.groups
    let (start, length) := longestZeros 0 groups
    if 1 < length then
      joinGroups (groups.take start) ++ [':', ':'] ++ joinGroups (groups.drop (start + length))
    else joinGroups groups

def text (address : Ipv6) : String := String.ofList address.chars

/-! ## Reading -/

/-- The group at the front, of one to four hexadecimal digits, and the text after it. -/
def readGroup? (text : List Char) : Option (UInt16 × List Char) :=
  let digits := text.takeWhile fun c ↦ (Text.digitValue? 16 c).isSome
  if digits.isEmpty || 4 < digits.length then none
  else
    match Text.readDigits 16 0xffff 0 digits with
    | .ok value => some (UInt16.ofNat value, text.drop digits.length)
    | .error _ => none

def readDotted? (text : List Char) : Option (Ipv4 × List Char) :=
  let dotted := text.takeWhile fun c ↦ c.isDigit || c == '.'
  (Ipv4.parse? dotted).map fun address ↦ (address, text.drop dotted.length)

/-- The text after the colon that stands before every group but the first of a row. -/
def skipColon? (isFirst : Bool) (text : List Char) : Option (List Char) :=
  if isFirst then some text
  else match text with
    | ':' :: rest => some rest
    | _ => none

structure GroupRow where
  groups : List UInt16
  /-- Whether the row ends with a dotted address. -/
  isDotted : Bool
  rest : List Char

/-- As many groups as stand at the front, at most `room` of them. -/
def readRow : (room : Nat) → (isFirst : Bool) → List Char → GroupRow
  | 0, _, text => ⟨[], false, text⟩
  | room + 1, isFirst, text =>
    match if room = 0 then none else skipColon? isFirst text >>= readDotted? with
    | some (address, rest) => ⟨wordsOfBytes address.bytes, true, rest⟩
    | none =>
      match skipColon? isFirst text >>= readGroup? with
      | some (group, rest) =>
        let row := readRow room false rest
        { row with groups := group :: row.groups }
      | none => ⟨[], false, text⟩

def parse? (text : List Char) : Option Ipv6 :=
  let head := readRow 8 true text
  if head.groups.length = 8 then if head.rest.isEmpty then some (ofGroups head.groups) else none
  else if head.isDotted then none
  else
    match head.rest with
    | ':' :: ':' :: rest =>
      let tail := readRow (7 - head.groups.length) true rest
      if tail.rest.isEmpty then
        let gap := 8 - (head.groups.length + tail.groups.length)
        some (ofGroups (head.groups ++ List.replicate gap 0 ++ tail.groups))
      else none
    | _ => none

end Ipv6

namespace IpAddress

def parse? (text : List Char) : Option IpAddress :=
  match Ipv4.parse? text with
  | some address => some (.v4 address)
  | none => (Ipv6.parse? text).map .v6

def isLoopback : IpAddress → Bool
  | .v4 address => address.isLoopback
  | .v6 address => address.isLoopback

def text : IpAddress → String
  | .v4 address => address.text
  | .v6 address => address.text

end IpAddress

end MicroVm.Network

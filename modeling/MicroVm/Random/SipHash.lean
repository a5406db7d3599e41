/-!
# Hashing byte strings

SipHash reads a byte string in words of eight bytes, the least significant byte first, and the
last word holds the bytes that are left over and the length of the string. Each word is mixed in
by one round, and three rounds finish. The key is zero.
-/

namespace MicroVm.Random

structure SipState where
  v0 : UInt64
  v1 : UInt64
  v2 : UInt64
  v3 : UInt64

def rotateLeft64 (word : UInt64) (places : UInt64) : UInt64 :=
  (word <<< places) ||| (word >>> (64 - places))

namespace SipState

/-- The state before any word, for the key zero. -/
def start : SipState :=
  ⟨0x736f6d6570736575, 0x646f72616e646f6d, 0x6c7967656e657261, 0x7465646279746573⟩

def round (s : SipState) : SipState :=
  let v0 := s.v0 + s.v1
  let v1 := rotateLeft64 s.v1 13 ^^^ v0
  let v0 := rotateLeft64 v0 32
  let v2 := s.v2 + s.v3
  let v3 := rotateLeft64 s.v3 16 ^^^ v2
  let v0 := v0 + v3
  let v3 := rotateLeft64 v3 21 ^^^ v0
  let v2 := v2 + v1
  let v1 := rotateLeft64 v1 17 ^^^ v2
  let v2 := rotateLeft64 v2 32
  ⟨v0, v1, v2, v3⟩

def absorb (s : SipState) (word : UInt64) : SipState :=
  let s := { s with v3 := s.v3 ^^^ word }.round
  { s with v0 := s.v0 ^^^ word }

def finish (s : SipState) : UInt64 :=
  let s := { s with v2 := s.v2 ^^^ 0xff }.round.round.round
  s.v0 ^^^ s.v1 ^^^ s.v2 ^^^ s.v3

end SipState

def littleEndian64 (bytes : List UInt8) : UInt64 :=
  bytes.foldr (fun byte word ↦ (word <<< 8) ||| byte.toUInt64) 0

def bytesLittleEndian64 (word : UInt64) : List UInt8 :=
  ([0, 8, 16, 24, 32, 40, 48, 56] : List UInt64).map fun places ↦ (word >>> places).toUInt8

/-- Mixes in the whole words of a byte string, and then its last word, of which `last` is the
highest byte. -/
def absorbBytes (last : UInt8) (s : SipState) : List UInt8 → SipState
  | b0 :: b1 :: b2 :: b3 :: b4 :: b5 :: b6 :: b7 :: rest =>
    absorbBytes last (s.absorb (littleEndian64 [b0, b1, b2, b3, b4, b5, b6, b7])) rest
  | rest => s.absorb (littleEndian64 (rest ++ List.replicate (7 - rest.length) 0 ++ [last]))

def sipHash (bytes : List UInt8) : UInt64 :=
  (absorbBytes (UInt8.ofNat bytes.length) .start bytes).finish

/-- The hash of a byte string together with its length, which stands in front as a word. -/
def hashWithLength (bytes : List UInt8) : UInt64 :=
  sipHash (bytesLittleEndian64 (UInt64.ofNat bytes.length) ++ bytes)

end MicroVm.Random

/-!
# Seeded random words

A seed of 64 bits is spread over a key of 256 bits by a linear congruential generator. The words
are those of the ChaCha stream cipher with twelve rounds for that key, with counter and stream
zero. The same seed always gives the same words.
-/

namespace MicroVm.Random

def rotateLeft32 (word : UInt32) (places : UInt32) : UInt32 :=
  (word <<< places) ||| (word >>> (32 - places))

def rotateRight32 (word : UInt32) (places : UInt32) : UInt32 :=
  (word >>> places) ||| (word <<< (32 - places))

def spreadState (state : UInt64) : UInt64 := state * 6364136223846793005 + 11634580027462260723

def spreadWord (state : UInt64) : UInt32 :=
  rotateRight32 (((state >>> 18) ^^^ state) >>> 27).toUInt32 (state >>> 59).toUInt32

def spread : (count : Nat) → (seed : UInt64) → List UInt32
  | 0, _ => []
  | count + 1, seed => spreadWord (spreadState seed) :: spread count (spreadState seed)

structure Row where
  x0 : UInt32
  x1 : UInt32
  x2 : UInt32
  x3 : UInt32

namespace Row

def zip (f : UInt32 → UInt32 → UInt32) (a b : Row) : Row :=
  ⟨f a.x0 b.x0, f a.x1 b.x1, f a.x2 b.x2, f a.x3 b.x3⟩

def add (a b : Row) : Row := zip (· + ·) a b

/-- Adds `b` to the bits of `a` without carry and turns every word to the left. -/
def mix (places : UInt32) (a b : Row) : Row := zip (fun x y ↦ rotateLeft32 (x ^^^ y) places) a b

def turn (row : Row) : Row := ⟨row.x1, row.x2, row.x3, row.x0⟩

def words (row : Row) : List UInt32 := [row.x0, row.x1, row.x2, row.x3]

end Row

structure Block where
  a : Row
  b : Row
  c : Row
  d : Row

namespace Block

def columnRound (s : Block) : Block :=
  let a := s.a.add s.b
  let d := s.d.mix 16 a
  let c := s.c.add d
  let b := s.b.mix 12 c
  let a := a.add b
  let d := d.mix 8 a
  let c := c.add d
  let b := b.mix 7 c
  ⟨a, b, c, d⟩

def diagonalRound (s : Block) : Block :=
  let s := columnRound ⟨s.a, s.b.turn, s.c.turn.turn, s.d.turn.turn.turn⟩
  ⟨s.a, s.b.turn.turn.turn, s.c.turn.turn, s.d.turn⟩

def doubleRounds : Nat → Block → Block
  | 0, s => s
  | count + 1, s => doubleRounds count s.columnRound.diagonalRound

/-- The block before the first round, for a key of two rows. -/
def start (key0 key1 : Row) : Block :=
  ⟨⟨0x61707865, 0x3320646e, 0x79622d32, 0x6b206574⟩, key0, key1, ⟨0, 0, 0, 0⟩⟩

/-- The words that a block gives after twelve rounds. -/
def words (s : Block) : List UInt32 :=
  let t := s.doubleRounds 6
  (s.a.add t.a).words ++ (s.b.add t.b).words ++ (s.c.add t.c).words ++ (s.d.add t.d).words

end Block

def seededWords (seed : UInt64) : List UInt32 :=
  match spread 8 seed with
  | [k0, k1, k2, k3, k4, k5, k6, k7] =>
    (Block.start ⟨k0, k1, k2, k3⟩ ⟨k4, k5, k6, k7⟩).words
  | _ => []

/-- The first eight random bytes for a seed, each the low byte of a word. -/
def seededBytes (seed : UInt64) : List UInt8 := ((seededWords seed).take 8).map UInt32.toUInt8

end MicroVm.Random

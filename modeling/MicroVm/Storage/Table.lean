/-!
# Device-mapper tables

A table lays the sectors of a device out in segments, one a line. A segment takes its sectors from
another device, reads as zeros, or is a copy-on-write view of an origin.
-/

namespace MicroVm.Storage

/-- Where a segment takes its sectors from. -/
inductive Target
  /-- The sectors of a device from an offset on. -/
  | linear (device : String) (offset : Nat)
  /-- Sectors that read as zeros. -/
  | zero
  /-- The origin, except for the chunks that were written, which lie on the store. -/
  | snapshot (origin store : String) (chunkSectors : Nat)
  deriving DecidableEq, Repr

structure Segment where
  start : Nat
  length : Nat
  target : Target
  deriving DecidableEq, Repr

abbrev Table := List Segment

def Target.text : Target → String
  | .linear device offset => s!"linear {device} {offset}"
  | .zero => "zero"
  | .snapshot origin store chunkSectors => s!"snapshot {origin} {store} P {chunkSectors}"

def Segment.text (segment : Segment) : String :=
  s!"{segment.start} {segment.length} {segment.target.text}"

def Table.text : Table → String
  | [] => ""
  | [segment] => segment.text
  | segment :: table => segment.text ++ "\n" ++ Table.text table

/-- A base device that is filled up with zeros to a total size, which has to be no smaller. -/
def paddedBaseTable? (base : String) (baseSectors totalSectors : Nat) : Option Table :=
  if baseSectors ≤ totalSectors then
    some [
      ⟨0, baseSectors, .linear base 0⟩,
      ⟨baseSectors, totalSectors - baseSectors, .zero⟩]
  else none

def snapshotTable (sectors : Nat) (origin store : String) (chunkSectors : Nat) : Table :=
  [⟨0, sectors, .snapshot origin store chunkSectors⟩]

end MicroVm.Storage

import MicroVm.Text.Numeral

/-!
# Durations

A duration is a number of nanoseconds. Its text uses the largest unit that gives a whole part,
with a decimal fraction only as long as it has to be.
-/

namespace MicroVm

structure Duration where
  nanoseconds : Nat
  deriving DecidableEq, Repr

namespace Duration

def ofSeconds (n : Nat) : Duration := ⟨n * 1000000000⟩

def ofMilliseconds (n : Nat) : Duration := ⟨n * 1000000⟩

def milliseconds (d : Duration) : Nat := d.nanoseconds / 1000000

def seconds (d : Duration) : Nat := d.nanoseconds / 1000000000

/-- Whether a clock of 63-bit seconds can show a time that far from its start. -/
def isShown (d : Duration) : Bool := d.nanoseconds < 0x8000000000000000 * 1000000000

instance : Add Duration := ⟨fun a b ↦ ⟨a.nanoseconds + b.nanoseconds⟩⟩
instance : LT Duration := ⟨fun a b ↦ a.nanoseconds < b.nanoseconds⟩
instance : LE Duration := ⟨fun a b ↦ a.nanoseconds ≤ b.nanoseconds⟩
instance (a b : Duration) : Decidable (a < b) :=
  inferInstanceAs (Decidable (a.nanoseconds < b.nanoseconds))
instance (a b : Duration) : Decidable (a ≤ b) :=
  inferInstanceAs (Decidable (a.nanoseconds ≤ b.nanoseconds))

def dropTrailingZeros (digits : List Char) : List Char :=
  (digits.reverse.dropWhile (· == '0')).reverse

/-- A count of nanoseconds in a unit of `10 ^ places` nanoseconds. -/
def inUnit (nanoseconds places : Nat) (unit : String) : String :=
  let unitLength := Nat.pow 10 places
  let whole := nanoseconds / unitLength
  let fraction := dropTrailingZeros (Text.paddedDecimal places (nanoseconds % unitLength))
  let point := if fraction.isEmpty then [] else ['.']
  String.ofList (Text.decimal whole ++ point ++ fraction) ++ unit

/-- The text of a duration in its largest unit. -/
def text (d : Duration) : String :=
  if 1000000000 ≤ d.nanoseconds then inUnit d.nanoseconds 9 "s"
  else if 1000000 ≤ d.nanoseconds then inUnit d.nanoseconds 6 "ms"
  else if 1000 ≤ d.nanoseconds then inUnit d.nanoseconds 3 "µs"
  else s!"{d.nanoseconds}ns"

end Duration

end MicroVm

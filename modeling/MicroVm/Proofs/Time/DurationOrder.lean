import Mathlib.Order.Basic
import MicroVm.Time.Duration

/-!
# The order of durations

Durations are ordered like their numbers of nanoseconds, and a sum is not less than its parts. How
often one duration fits into another is told by division.
-/

namespace MicroVm.Duration

instance : LinearOrder Duration where
  le_refl a := Nat.le_refl a.nanoseconds
  le_trans _ _ _ := Nat.le_trans
  le_antisymm a b hab hba := by
    obtain ⟨a⟩ := a
    obtain ⟨b⟩ := b
    exact congrArg Duration.mk (Nat.le_antisymm hab hba)
  lt_iff_le_not_ge a b := Nat.lt_iff_le_and_not_ge
  le_total a b := Nat.le_total a.nanoseconds b.nanoseconds
  toDecidableLE := inferInstance
  toDecidableLT := inferInstance

theorem lt_iff {a b : Duration} : a < b ↔ a.nanoseconds < b.nanoseconds := Iff.rfl

theorem nanoseconds_add (a b : Duration) :
    (a + b).nanoseconds = a.nanoseconds + b.nanoseconds := rfl

theorem le_add (a b : Duration) : a ≤ a + b := Nat.le_add_right a.nanoseconds b.nanoseconds

/-- A duration so many times. -/
def times (count : ℕ) (d : Duration) : Duration := ⟨count * d.nanoseconds⟩

theorem nanoseconds_times (count : ℕ) (d : Duration) :
    (d.times count).nanoseconds = count * d.nanoseconds := rfl

theorem add_times_zero (start d : Duration) : start + d.times 0 = start := by
  obtain ⟨start⟩ := start
  exact congrArg Duration.mk (congrArg (start + ·) (Nat.zero_mul d.nanoseconds))

theorem add_times_succ (start d : Duration) (count : ℕ) :
    start + d.times (count + 1) = start + d.times count + d := by
  apply congrArg Duration.mk
  rw [nanoseconds_add, nanoseconds_times, nanoseconds_times, Nat.succ_mul, Nat.add_assoc]

/-- How often a duration fits into another one. -/
def fits (d whole : Duration) : ℕ := whole.nanoseconds / d.nanoseconds

/-- A duration fits into a whole as often as it is said to fit. -/
theorem times_fits_le (d whole : Duration) : d.times (d.fits whole) ≤ whole :=
  Nat.div_mul_le_self whole.nanoseconds d.nanoseconds

/-- A duration does not fit into a whole once more. -/
theorem lt_times_fits_add {d : Duration} (hd : 0 < d.nanoseconds) (whole : Duration) :
    whole < d.times (d.fits whole) + d :=
  Nat.lt_div_mul_add hd

/-- One time more goes beyond the end exactly if the duration does not fit once more. -/
theorem add_lt_add_times_iff {d whole : Duration} (hd : 0 < d.nanoseconds) (start : Duration)
    (count : ℕ) : start + whole < start + d.times count + d ↔ d.fits whole ≤ count := by
  rw [← add_times_succ, lt_iff, nanoseconds_add, nanoseconds_add, Nat.add_lt_add_iff_left,
    nanoseconds_times, ← Nat.div_lt_iff_lt_mul hd, Nat.lt_succ_iff]
  rfl

theorem fits_ofMilliseconds (part whole : ℕ) :
    (ofMilliseconds part).fits (ofMilliseconds whole) = whole / part :=
  Nat.mul_div_mul_right whole part (by decide)

end MicroVm.Duration

import Mathlib.Data.List.Basic

/-!
# First options and numbered kinds

Both protocols give their options as pairs of a code and a value, of which the first with a code
counts. In both a kind of message is looked up by its number.
-/

namespace MicroVm.Dhcp

section Options

variable {Code : Type} {options : List (Code × List UInt8)} {code : Code} {value : List UInt8}

/-- Whether the first option with a code has the given value. -/
def IsFirst (options : List (Code × List UInt8)) (code : Code) (value : List UInt8) : Prop :=
  ∃ before after, options = before ++ (code, value) :: after ∧ ∀ entry ∈ before, entry.1 ≠ code

/-- Looking an option up by its code finds the value of the first one with that code. -/
theorem find?_code_eq_some_iff [DecidableEq Code] :
    (options.find? fun entry ↦ entry.1 == code).map Prod.snd = some value ↔
      IsFirst options code value := by
  simp only [Option.map_eq_some_iff, List.find?_eq_some_iff_append, beq_iff_eq, IsFirst]
  constructor
  · rintro ⟨⟨_, _⟩, ⟨rfl, before, after, happend, hbefore⟩, rfl⟩
    exact ⟨before, after, happend, by simpa using hbefore⟩
  · rintro ⟨before, after, happend, hbefore⟩
    exact ⟨(code, value), ⟨rfl, before, after, happend, by simpa using hbefore⟩, rfl⟩

theorem IsFirst.unique [DecidableEq Code] {other : List UInt8} (hvalue : IsFirst options code value)
    (hother : IsFirst options code other) : value = other := by
  have hfound := find?_code_eq_some_iff.2 hvalue
  exact Option.some.inj (hfound.symm.trans (find?_code_eq_some_iff.2 hother))

end Options

/-- Among kinds that are found by their own numbers, a number finds its kind only. -/
theorem find?_number_eq_some_iff {Kind : Type} {all : List Kind} {number : Kind → UInt8}
    (hown : ∀ kind, (all.find? fun other ↦ number other == number kind) = some kind)
    {code : UInt8} {kind : Kind} :
    (all.find? fun other ↦ number other == code) = some kind ↔ code = number kind := by
  constructor
  · intro hkind
    have hfound := List.find?_some (p := fun other : Kind ↦ number other == code) hkind
    exact (beq_iff_eq.1 hfound).symm
  · rintro rfl
    exact hown kind

end MicroVm.Dhcp

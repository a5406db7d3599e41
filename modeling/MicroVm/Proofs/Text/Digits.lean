import Mathlib.Algebra.Group.Nat.Defs
import Mathlib.Data.List.Induction
import MicroVm.Proofs.Text.Splitting
import MicroVm.Text.Numeral

/-!
# Runs of digits

A number is read back from its digits, with or without zeros in front. A reader takes the whole run
of digits, so what stands after a number must not begin with one.
-/

namespace MicroVm.Text

/-! ## The digits of a number -/

theorem valueOfDigits_eq_ofDigitChars (digits : List Char) :
    valueOfDigits digits = Nat.ofDigitChars 10 digits 0 := by
  simp only [valueOfDigits, Nat.ofDigitChars_eq_foldl, Nat.mul_comm]

@[simp]
theorem valueOfDigits_decimal (n : Nat) : valueOfDigits (decimal n) = n := by
  rw [valueOfDigits_eq_ofDigitChars, decimal, Nat.ofDigitChars_ten_toDigits]

theorem isDigit_of_mem_decimal {n : Nat} {c : Char} (h : c ∈ decimal n) : c.isDigit = true :=
  Nat.isDigit_of_mem_toDigits (by decide) (by decide) h

theorem notMem_decimal {c : Char} (hc : c.isDigit = false) (n : Nat) : c ∉ decimal n := by
  intro hmem
  rw [isDigit_of_mem_decimal hmem] at hc
  cases hc

theorem decimal_ne_nil (n : Nat) : decimal n ≠ [] := Nat.toDigits_ne_nil

/-- A number has at most so many digits if it is below that power of ten. -/
theorem length_decimal_le_iff {n width : Nat} (hwidth : 0 < width) :
    (decimal n).length ≤ width ↔ n < 10 ^ width :=
  Nat.length_toDigits_le_iff (by decide) hwidth

/-- Only zero begins with the digit zero. -/
theorem head?_decimal_eq_zero_iff (n : Nat) : (decimal n).head? = some '0' ↔ n = 0 := by
  induction n using Nat.strongRecOn with
  | _ n ih =>
    rw [decimal, Nat.toDigits_eq_if (by decide)]
    split
    next hsmall =>
      have hdigits : ∀ n < 10, (Nat.digitChar n = '0' ↔ n = 0) := by decide
      rw [List.head?_cons, Option.some.injEq]
      exact hdigits n hsmall
    next hlarge =>
      -- the last digit is not the first one
      obtain ⟨first, others, hfront⟩ := List.exists_cons_of_ne_nil (decimal_ne_nil (n / 10))
      have hzero := ih (n / 10) (by omega)
      rw [decimal] at hfront hzero
      rw [hfront, List.head?_cons] at hzero
      rw [hfront, List.cons_append, List.head?_cons, hzero]
      omega

theorem decimal_zero : decimal 0 = ['0'] := rfl

theorem digitChar_of_isDigit {c : Char} (h : c.isDigit = true) :
    Nat.digitChar (c.toNat - '0'.toNat) = c := by
  obtain ⟨hlow, hhigh⟩ := Char.isDigit_iff_toNat.1 h
  simp only [Char.reduceToNat] at hlow hhigh ⊢
  apply Char.toNat_inj.1
  rw [Nat.toNat_digitChar_of_lt_ten (by omega)]
  omega

/-- A last digit is added to ten times the value of the digits before it. -/
theorem valueOfDigits_concat (front : List Char) (last : Char) :
    valueOfDigits (front ++ [last]) =
      10 * valueOfDigits front + (last.toNat - '0'.toNat) := by
  simp only [valueOfDigits_eq_ofDigitChars, Nat.ofDigitChars_append, Nat.ofDigitChars_cons,
    Nat.ofDigitChars_nil]

/-- Digits without a needless zero in front are those of the number that they stand for. -/
theorem decimal_valueOfDigits {digits : List Char} (hne : digits ≠ [])
    (hdigits : ∀ c ∈ digits, c.isDigit = true)
    (hzero : 1 < digits.length → digits.head? ≠ some '0') :
    decimal (valueOfDigits digits) = digits := by
  induction digits using List.reverseRecOn with
  | nil => exact absurd rfl hne
  | append_singleton front last ih =>
    have hlast : last.isDigit = true := hdigits last (List.mem_append_right front (.head []))
    have hsmall : last.toNat - '0'.toNat < 10 := by
      have hrange := Char.isDigit_iff_toNat.1 hlast
      simp only [Char.reduceToNat] at hrange ⊢
      omega
    rw [valueOfDigits_concat]
    cases front with
    | nil =>
      have hnone : valueOfDigits [] = 0 := rfl
      rw [hnone, Nat.mul_zero, Nat.zero_add, decimal, Nat.toDigits_of_lt_base hsmall,
        digitChar_of_isDigit hlast, List.nil_append]
    | cons first others =>
      have hfirst : (first :: others).head? ≠ some '0' :=
        hzero (by rw [List.length_append, List.length_cons, List.length_singleton]; omega)
      have hfront := ih (List.cons_ne_nil first others)
        (fun c hc ↦ hdigits c (List.mem_append_left _ hc)) fun _ ↦ hfirst
      have hpos : 0 < valueOfDigits (first :: others) := by
        rw [← hfront, ne_eq, head?_decimal_eq_zero_iff] at hfirst
        exact Nat.pos_of_ne_zero hfirst
      rw [decimal, ← Nat.toDigits_append_toDigits (by decide) hpos hsmall,
        Nat.toDigits_of_lt_base hsmall, digitChar_of_isDigit hlast, ← decimal, hfront]

/-! ## With zeros in front -/

@[simp]
theorem valueOfDigits_paddedDecimal (width n : Nat) :
    valueOfDigits (paddedDecimal width n) = n := by
  rw [valueOfDigits_eq_ofDigitChars, paddedDecimal, Nat.ofDigitChars_append,
    Nat.ofDigitChars_replicate_zero, Nat.mul_zero, decimal, Nat.ofDigitChars_ten_toDigits]

theorem isDigit_of_mem_paddedDecimal {width n : Nat} {c : Char} (h : c ∈ paddedDecimal width n) :
    c.isDigit = true := by
  rcases List.mem_append.1 h with h | h
  · rw [List.eq_of_mem_replicate h]
    rfl
  · exact isDigit_of_mem_decimal h

theorem paddedDecimal_ne_nil (width n : Nat) : paddedDecimal width n ≠ [] :=
  List.append_ne_nil_of_right_ne_nil _ (decimal_ne_nil n)

@[simp]
theorem isEmpty_paddedDecimal (width n : Nat) : (paddedDecimal width n).isEmpty = false :=
  List.isEmpty_eq_false_iff.2 (paddedDecimal_ne_nil width n)

theorem exists_paddedDecimal_eq (width n : Nat) :
    ∃ c digits, paddedDecimal width n = c :: digits ∧ c.isDigit = true := by
  obtain ⟨c, digits, heq⟩ := List.exists_cons_of_ne_nil (paddedDecimal_ne_nil width n)
  exact ⟨c, digits, heq, isDigit_of_mem_paddedDecimal (heq ▸ List.mem_cons_self)⟩

/-- A number that fits into a width is padded to it. -/
theorem length_paddedDecimal {width n : Nat} (hwidth : 0 < width) (h : n < 10 ^ width) :
    (paddedDecimal width n).length = width := by
  have hdigits := (length_decimal_le_iff hwidth).2 h
  rw [paddedDecimal, List.length_append, List.length_replicate]
  omega

/-! ## What stands after a number -/

/-- Whether a text does not begin with a digit. -/
def EndsDigits (text : List Char) : Prop := ∀ c ∈ text.head?, c.isDigit = false

theorem endsDigits_nil : EndsDigits [] := by
  intro c h
  cases h

theorem endsDigits_cons {c : Char} (h : c.isDigit = false) (text : List Char) :
    EndsDigits (c :: text) := by
  intro _ hhead
  obtain rfl := Option.some.inj hhead
  exact h

section Runs

variable {digits rest : List Char}

/-- The run of digits at the front of a text. -/
theorem takeWhile_isDigit_append (hdigits : ∀ c ∈ digits, c.isDigit = true)
    (hrest : EndsDigits rest) : (digits ++ rest).takeWhile Char.isDigit = digits :=
  takeWhile_append_of_stop hdigits hrest

theorem dropWhile_isDigit_append (hdigits : ∀ c ∈ digits, c.isDigit = true)
    (hrest : EndsDigits rest) : (digits ++ rest).dropWhile Char.isDigit = rest :=
  dropWhile_append_of_stop hdigits hrest

/-- The digits of a padded number end where it ends. -/
theorem takeWhile_paddedDecimal_append (width n : Nat) (hrest : EndsDigits rest) :
    (paddedDecimal width n ++ rest).takeWhile Char.isDigit = paddedDecimal width n :=
  takeWhile_isDigit_append (fun _ ↦ isDigit_of_mem_paddedDecimal) hrest

end Runs

end MicroVm.Text

import Mathlib.Data.Nat.Digits.Defs
import Mathlib.Tactic.Ring
import MicroVm.Proofs.Text.Digits
import MicroVm.Proofs.Text.Items

/-!
# Numerals

A numeral is a run of digits, with any number of zeros in front and perhaps a plus sign before them.
The reader of unsigned numerals takes exactly these and gives the number in place notation, as long
as that does not exceed the limit. What a number is written as is one of its numerals.
-/

namespace MicroVm.Text

variable {radix limit start n value : ℕ} {c : Char} {text digits : List Char}

/-! ## Digits -/

/-- Whether a character is the digit of a value in a radix of at most 16, as a small or as a capital
letter where it is one. -/
def IsDigit (radix : ℕ) (c : Char) (value : ℕ) : Prop :=
  value < radix ∧ (c = value.digitChar ∨ c = value.digitChar.toUpper)

theorem digitChar_of_lt_ten : ∀ value < 10, value.digitChar = Char.ofNat (48 + value) := by decide

theorem digitChar_of_ten_le : ∀ value < 6,
    (value + 10).digitChar = Char.ofNat (97 + value) ∧
      (value + 10).digitChar.toUpper = Char.ofNat (65 + value) := by decide

theorem digitValue?_digitChar : ∀ value < 16,
    digitValue? 16 value.digitChar = some value ∧
      digitValue? 16 value.digitChar.toUpper = some value := by decide

/-- The radix only bounds the value of a digit. -/
theorem digitValue?_eq_some_iff_sixteen (hradix : radix ≤ 16) :
    digitValue? radix c = some value ↔ value < radix ∧ digitValue? 16 c = some value := by
  simp only [digitValue?, Option.filter_eq_some_iff, decide_eq_true_eq]
  constructor
  · rintro ⟨hvalue, hlt⟩
    exact ⟨hlt, hvalue, by omega⟩
  · rintro ⟨hlt, hvalue, -⟩
    exact ⟨hvalue, hlt⟩

/-- A character with a value is the digit of that value: the three ranges are those of the digits
below ten, of the small letters and of the capital ones. -/
theorem eq_digitChar_of_digitValue? (hvalue : digitValue? 16 c = some value) :
    c = value.digitChar ∨ c = value.digitChar.toUpper := by
  have hle (a b : Char) : a ≤ b ↔ a.toNat ≤ b.toNat := Char.le_def
  have hcode {code : ℕ} (h : c.toNat = code) : c = Char.ofNat code := by
    rw [← h, Char.ofNat_toNat]
  simp only [digitValue?, hle, Char.reduceToNat, Option.filter_eq_some_iff,
    decide_eq_true_eq] at hvalue
  obtain ⟨hvalue, hsmall⟩ := hvalue
  split at hvalue
  next hdigit =>
    cases hvalue
    left
    rw [digitChar_of_lt_ten _ (by omega)]
    exact hcode (by omega)
  next =>
    split at hvalue
    next hletter =>
      cases hvalue
      left
      rw [(digitChar_of_ten_le _ (by omega)).1]
      exact hcode (by omega)
    next =>
      split at hvalue
      next hletter =>
        cases hvalue
        right
        rw [(digitChar_of_ten_le _ (by omega)).2]
        exact hcode (by omega)
      next => cases hvalue

theorem digitValue?_eq_some_iff (hradix : radix ≤ 16) :
    digitValue? radix c = some value ↔ IsDigit radix c value := by
  rw [digitValue?_eq_some_iff_sixteen hradix, IsDigit]
  refine and_congr_right fun hlt ↦ ⟨eq_digitChar_of_digitValue?, ?_⟩
  obtain ⟨hsmall, hcapital⟩ := digitValue?_digitChar value (by omega)
  rintro (rfl | rfl)
  · exact hsmall
  · exact hcapital

/-! ## Reading -/

/-- One more digit in front of others stands before as many places as there are others. -/
theorem ofDigits_reverse_cons (radix value : ℕ) (values : List ℕ) :
    start * radix ^ (value :: values).length + Nat.ofDigits radix (value :: values).reverse =
      (start * radix + value) * radix ^ values.length + Nat.ofDigits radix values.reverse := by
  rw [List.reverse_cons, Nat.ofDigits_append, Nat.ofDigits_singleton, List.length_reverse,
    List.length_cons]
  ring

theorem readDigits_cons (hradix : radix ≤ 16) (hdigit : IsDigit radix c value) :
    readDigits radix limit start (c :: text) =
      if start * radix + value ≤ limit then readDigits radix limit (start * radix + value) text
      else .error .tooLarge := by
  rw [readDigits, (digitValue?_eq_some_iff hradix).2 hdigit]

theorem readDigits_cons_of_not_isDigit (hradix : radix ≤ 16)
    (hdigit : ∀ value, ¬ IsDigit radix c value) :
    readDigits radix limit start (c :: text) = .error .invalidDigit := by
  have hnone : digitValue? radix c = none :=
    Option.eq_none_iff_forall_ne_some.2 fun value hvalue ↦
      hdigit value ((digitValue?_eq_some_iff hradix).1 hvalue)
  rw [readDigits, hnone]

/-- A digit has one value. -/
theorem IsDigit.eq_iff (hradix : radix ≤ 16) (hdigit : IsDigit radix c value) {other : ℕ} :
    IsDigit radix c other ↔ value = other := by
  rw [← digitValue?_eq_some_iff hradix] at hdigit ⊢
  rw [hdigit, Option.some_inj]

/-- A digit in front adds its value to the values of the others. -/
theorem exists_forall₂_cons_iff (hradix : radix ≤ 16) (hdigit : IsDigit radix c value)
    {P : List ℕ → Prop} :
    (∃ values, List.Forall₂ (IsDigit radix) (c :: text) values ∧ P values) ↔
      ∃ values, List.Forall₂ (IsDigit radix) text values ∧ P (value :: values) := by
  constructor
  · rintro ⟨_, hvalues, h⟩
    obtain ⟨other, values, hother, htext, rfl⟩ := List.forall₂_cons_left_iff.1 hvalues
    obtain rfl := (hdigit.eq_iff hradix).1 hother
    exact ⟨values, htext, h⟩
  · rintro ⟨values, htext, h⟩
    exact ⟨value :: values, .cons hdigit htext, h⟩

theorem readDigits_eq_ok_iff (hradix : 0 < radix ∧ radix ≤ 16) (hstart : start ≤ limit) :
    readDigits radix limit start text = .ok n ↔
      ∃ values, List.Forall₂ (IsDigit radix) text values ∧
        start * radix ^ values.length + Nat.ofDigits radix values.reverse = n ∧ n ≤ limit := by
  induction text generalizing start with
  | nil =>
    simp only [readDigits, Except.ok.injEq, List.forall₂_nil_left_iff, exists_eq_left,
      List.length_nil, pow_zero, mul_one, List.reverse_nil, Nat.ofDigits_nil, add_zero]
    exact ⟨fun hn ↦ ⟨hn, hn ▸ hstart⟩, And.left⟩
  | cons c text ih =>
    by_cases hc : ∃ value, IsDigit radix c value
    · obtain ⟨value, hdigit⟩ := hc
      rw [readDigits_cons hradix.2 hdigit, exists_forall₂_cons_iff hradix.2 hdigit]
      simp only [ofDigits_reverse_cons]
      split
      next hnext => exact ih hnext
      next hnext =>
        -- more digits make no number smaller
        refine iff_of_false nofun ?_
        rintro ⟨values, -, hn, hlimit⟩
        have hgrows : start * radix + value ≤ (start * radix + value) * radix ^ values.length :=
          Nat.le_mul_of_pos_right _ (Nat.pow_pos hradix.1)
        omega
    · rw [readDigits_cons_of_not_isDigit hradix.2 (not_exists.1 hc)]
      refine iff_of_false nofun ?_
      rintro ⟨_, hvalues, -⟩
      obtain ⟨value, _, hdigit, -⟩ := List.forall₂_cons_left_iff.1 hvalues
      exact hc ⟨value, hdigit⟩

/-! ## Numerals -/

/-- Whether a text is a numeral of a number that has no sign. -/
def IsUnsigned (radix : ℕ) (digits : List Char) (n : ℕ) : Prop :=
  digits ≠ [] ∧ ∃ values,
    List.Forall₂ (IsDigit radix) digits values ∧ Nat.ofDigits radix values.reverse = n

/-- Whether a text is a numeral of a number. -/
def IsNumeral (radix : ℕ) (text : List Char) (n : ℕ) : Prop :=
  IsUnsigned radix text n ∨ ∃ digits, text = '+' :: digits ∧ IsUnsigned radix digits n

/-- A numeral has digits only. -/
theorem IsUnsigned.notMem (hradix : radix ≤ 16) (htext : IsUnsigned radix text n)
    (hc : digitValue? radix c = none) : c ∉ text := by
  obtain ⟨-, values, hvalues, -⟩ := htext
  intro hmem
  obtain ⟨value, hdigit⟩ := exists_of_mem_left hvalues hmem
  rw [← digitValue?_eq_some_iff hradix, hc] at hdigit
  cases hdigit

/-- A numeral holds digits only, apart from its sign. -/
theorem IsNumeral.notMem (hradix : radix ≤ 16) (htext : IsNumeral radix text n)
    (hc : digitValue? radix c = none) (hplus : c ≠ '+') : c ∉ text := by
  obtain hunsigned | ⟨digits, rfl, hunsigned⟩ := htext
  · exact hunsigned.notMem hradix hc
  · exact List.not_mem_cons_of_ne_of_not_mem hplus (hunsigned.notMem hradix hc)

theorem not_isUnsigned_plus (hradix : radix ≤ 16) : ¬ IsUnsigned radix ('+' :: text) n :=
  fun hunsigned ↦ hunsigned.notMem hradix rfl List.mem_cons_self

theorem readDigits_zero_eq_ok_iff (hradix : 0 < radix ∧ radix ≤ 16) (hne : text ≠ []) :
    readDigits radix limit 0 text = .ok n ↔ IsUnsigned radix text n ∧ n ≤ limit := by
  rw [readDigits_eq_ok_iff hradix (Nat.zero_le limit)]
  simp only [IsUnsigned, Nat.zero_mul, Nat.zero_add, ← and_assoc, exists_and_right]
  simp only [hne, ne_eq, not_false_eq_true, true_and]

theorem readNumeral_plus_cons :
    readNumeral radix limit ('+' :: c :: text) = readDigits radix limit 0 (c :: text) := by
  rw [readNumeral]
  exact nofun

theorem readNumeral_of_ne_plus (hc : c ≠ '+') :
    readNumeral radix limit (c :: text) = readDigits radix limit 0 (c :: text) := by
  rw [readNumeral]
  · exact nofun
  · exact fun h ↦ absurd (List.head_eq_of_cons_eq h) hc
  · exact fun _ h ↦ absurd (List.head_eq_of_cons_eq h) hc

/-- The reader takes the numerals of all numbers that do not exceed the limit. -/
theorem readNumeral_eq_ok_iff (hradix : 0 < radix ∧ radix ≤ 16) :
    readNumeral radix limit text = .ok n ↔ IsNumeral radix text n ∧ n ≤ limit := by
  cases text with
  | nil =>
    refine iff_of_false nofun ?_
    rintro ⟨⟨hne, -⟩ | ⟨_, htext, -⟩, -⟩
    · exact hne rfl
    · cases htext
  | cons c text =>
    by_cases hc : c = '+'
    · subst hc
      cases text with
      | nil =>
        refine iff_of_false nofun ?_
        rintro ⟨hunsigned | ⟨_, htext, hne, -⟩, -⟩
        · exact not_isUnsigned_plus hradix.2 hunsigned
        · cases htext
          exact hne rfl
      | cons c text =>
        rw [readNumeral_plus_cons, readDigits_zero_eq_ok_iff hradix (List.cons_ne_nil c text),
          IsNumeral, or_iff_right (not_isUnsigned_plus hradix.2)]
        simp only [List.cons.injEq, true_and, exists_eq_left']
    · have hsign : ¬ ∃ digits, c :: text = '+' :: digits ∧ IsUnsigned radix digits n :=
        fun ⟨_, htext, _⟩ ↦ hc (List.head_eq_of_cons_eq htext)
      rw [readNumeral_of_ne_plus hc, readDigits_zero_eq_ok_iff hradix (List.cons_ne_nil c text),
        IsNumeral, or_iff_left hsign]

/-- A text is a numeral of one number at most. -/
theorem IsNumeral.unique (hradix : 0 < radix ∧ radix ≤ 16) (htext : IsNumeral radix text n)
    {other : ℕ} (hother : IsNumeral radix text other) : n = other := by
  have hread := (readNumeral_eq_ok_iff hradix).2 ⟨htext, le_max_left n other⟩
  rw [(readNumeral_eq_ok_iff hradix).2 ⟨hother, le_max_right n other⟩] at hread
  exact (Except.ok.inj hread).symm

/-- A type of numbers up to the limit has its values read from their numerals. -/
theorem map_readNumeral_eq_ok_iff_toNat {β : Type} {ofNat : ℕ → β} {toNat : β → ℕ} {b : β}
    (hradix : 0 < radix ∧ radix ≤ 16) (hlimit : toNat b ≤ limit) (hofNat : ofNat (toNat b) = b)
    (htoNat : ∀ n ≤ limit, toNat (ofNat n) = n) :
    (readNumeral radix limit text).map ofNat = .ok b ↔ IsNumeral radix text (toNat b) := by
  simp only [map_eq_ok_iff, readNumeral_eq_ok_iff hradix]
  constructor
  · rintro ⟨n, ⟨htext, hn⟩, rfl⟩
    rwa [htoNat n hn]
  · intro htext
    exact ⟨toNat b, ⟨htext, hlimit⟩, hofNat⟩

theorem readWord16_eq_ok_iff {word : UInt16} :
    readWord16 text = .ok word ↔ IsNumeral 10 text word.toNat := by
  have hword := word.toNat_lt
  refine map_readNumeral_eq_ok_iff_toNat (by decide) (by omega) UInt16.ofNat_toNat fun n hn ↦ ?_
  exact UInt16.toNat_ofNat_of_lt' (by rw [UInt16.size]; omega)

/-! ## What numbers are written as -/

theorem isDigit_digitChar (hvalue : value < radix) : IsDigit radix value.digitChar value :=
  ⟨hvalue, .inl rfl⟩

/-- A number is written as its digits are. -/
theorem isUnsigned_toDigits (hradix : 1 < radix) (n : ℕ) :
    IsUnsigned radix (Nat.toDigits radix n) n := by
  refine ⟨Nat.toDigits_ne_nil, ?_⟩
  induction n using Nat.strongRecOn with
  | _ n ih =>
    rw [Nat.toDigits_eq_if hradix]
    split
    next hsmall =>
      exact ⟨[n], .cons (isDigit_digitChar hsmall) .nil, Nat.ofDigits_singleton⟩
    next hlarge =>
      obtain ⟨values, hvalues, hn⟩ := ih (n / radix) (Nat.div_lt_self (by omega) hradix)
      refine ⟨values ++ [n % radix], ?_, ?_⟩
      · have hlast := isDigit_digitChar (Nat.mod_lt n (Nat.zero_lt_of_lt hradix))
        exact List.rel_append hvalues (.cons hlast .nil)
      · rw [List.reverse_append, List.reverse_singleton, List.singleton_append, Nat.ofDigits_cons,
          hn]
        exact Nat.mod_add_div n radix

theorem isNumeral_decimal (n : ℕ) : IsNumeral 10 (decimal n) n :=
  .inl (isUnsigned_toDigits (by decide) n)

/-- Two hexadecimal digits are a numeral of their byte. -/
theorem isNumeral_hexByte (byte : UInt8) : IsNumeral 16 (hexByte byte) byte.toNat := by
  have hbyte := byte.toNat_lt
  refine .inl ⟨List.cons_ne_nil _ _, [byte.toNat / 16, byte.toNat % 16], ?_, ?_⟩
  · exact .cons (isDigit_digitChar (by omega)) (.cons (isDigit_digitChar (by omega)) .nil)
  · simp only [List.reverse_cons, List.reverse_nil, List.nil_append, List.singleton_append,
      Nat.ofDigits_cons, Nat.ofDigits_nil]
    omega

end MicroVm.Text

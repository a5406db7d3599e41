import MicroVm.Proofs.Text.Digits
import MicroVm.Proofs.Text.Occurrence
import MicroVm.Time.Timestamp

/-!
# Reading timestamps back

Every moment is read back from its text: with a year of four digits or with a signed one, with any
fraction of a second, and in a leap second too. The text is in UTC, so that no date is moved.
-/

namespace MicroVm.Timestamp

variable {rest : List Char}

/-! ## The parts -/

theorem trimStart_cons {c : Char} (h : Text.isBlank c = false) (text : List Char) :
    Text.trimStart (c :: text) = c :: text :=
  List.dropWhile_cons_of_neg (by simp [h])

theorem trimStart_paddedDecimal (width n : Nat) (rest : List Char) :
    Text.trimStart (Text.paddedDecimal width n ++ rest) = Text.paddedDecimal width n ++ rest := by
  obtain ⟨c, digits, heq, hc⟩ := Text.exists_paddedDecimal_eq width n
  rw [heq, List.cons_append, trimStart_cons (Text.isBlank_of_isDigit hc)]

theorem readNumber_paddedDecimal {width n : Nat} (hwidth : 0 < width) (h : n < 10 ^ width)
    (rest : List Char) :
    readNumber width (Text.paddedDecimal width n ++ rest) = some (n, rest) := by
  have hlength := Text.length_paddedDecimal hwidth h
  have hdigits : (Text.paddedDecimal width n).takeWhile Char.isDigit =
      Text.paddedDecimal width n := by
    simpa using Text.takeWhile_paddedDecimal_append width n Text.endsDigits_nil
  have htaken : (Text.paddedDecimal width n ++ rest).take width = Text.paddedDecimal width n :=
    List.take_left' hlength
  have hrest : (Text.paddedDecimal width n ++ rest).drop width = rest := List.drop_left' hlength
  simp only [readNumber, trimStart_paddedDecimal, htaken, hdigits, hlength, hrest,
    Text.isEmpty_paddedDecimal, Text.valueOfDigits_paddedDecimal]
  rfl

theorem readRun_paddedDecimal (width n : Nat) (sign : Nat → Int) (h : Text.EndsDigits rest) :
    readYear.readRun (Text.paddedDecimal width n ++ rest) sign = some (sign n, rest) := by
  simp only [readYear.readRun, Text.takeWhile_paddedDecimal_append width n h,
    Text.isEmpty_paddedDecimal,
    Text.valueOfDigits_paddedDecimal, List.drop_left]
  rfl

/-- A year that begins with a digit has four of them. -/
theorem readYear_paddedDecimal {n : Nat} (h : n < 10 ^ 4) (rest : List Char) :
    readYear (Text.paddedDecimal 4 n ++ rest) = some ((n : Int), rest) := by
  obtain ⟨c, digits, heq, hc⟩ := Text.exists_paddedDecimal_eq 4 n
  have hread := readNumber_paddedDecimal (by decide) h rest
  have htrim := trimStart_paddedDecimal 4 n rest
  rw [heq, List.cons_append] at hread htrim ⊢
  rw [readYear, htrim]
  split
  case h_3 =>
    rw [hread]
    rfl
  all_goals
    next hsign =>
      obtain ⟨rfl, -⟩ := List.cons.inj hsign
      cases hc

theorem readYear_plus (n : Nat) (h : Text.EndsDigits rest) :
    readYear ('+' :: (Text.paddedDecimal 4 n ++ rest)) = some ((n : Int), rest) := by
  rw [readYear, trimStart_cons (by decide)]
  exact readRun_paddedDecimal 4 n (fun n ↦ (n : Int)) h

theorem readYear_minus (n : Nat) (h : Text.EndsDigits rest) :
    readYear ('-' :: (Text.paddedDecimal 4 n ++ rest)) = some (-(n : Int), rest) := by
  rw [readYear, trimStart_cons (by decide)]
  exact readRun_paddedDecimal 4 n (fun n ↦ -(n : Int)) h

/-- Years are read back, also those with a sign. -/
theorem readYear_yearText (year : Int) (h : Text.EndsDigits rest) :
    readYear (yearText year ++ rest) = some (year, rest) := by
  unfold yearText
  split
  next hrange =>
    have hyear : (year.toNat : Int) = year := Int.toNat_of_nonneg hrange.1
    rw [readYear_paddedDecimal (by omega), hyear]
  next =>
    by_cases hnegative : year < 0
    · have hyear : -(year.natAbs : Int) = year := by omega
      rw [if_pos hnegative, List.cons_append, readYear_minus _ h, hyear]
    · have hyear : (year.natAbs : Int) = year := by omega
      rw [if_neg hnegative, List.cons_append, readYear_plus _ h, hyear]

theorem readMark_cons {mark : Char} (h : Text.isBlank mark = false) (text : List Char) :
    readMark mark (mark :: text) = some text := by
  rw [readMark, trimStart_cons h]
  exact if_pos rfl

/-- The digits of a fraction are read back when no digit follows. -/
theorem readFraction_paddedDecimal {width n : Nat} (hwidth : 0 < width) (hle : width ≤ 9)
    (h : n < 10 ^ width) (hrest : Text.EndsDigits rest) :
    readFraction ('.' :: (Text.paddedDecimal width n ++ rest)) =
      some (n * 10 ^ (9 - width), rest) := by
  have hlength := Text.length_paddedDecimal hwidth h
  have hkept : (Text.paddedDecimal width n).take 9 = Text.paddedDecimal width n :=
    List.take_of_length_le (by omega)
  simp only [readFraction, Text.takeWhile_paddedDecimal_append width n hrest,
    Text.isEmpty_paddedDecimal, hkept, Text.valueOfDigits_paddedDecimal, List.drop_left]
  rw [hlength]
  rfl

/-- Fractions of a second are read back. -/
theorem readFraction_fractionText {nanosecond : Nat} (h : nanosecond < 1000000000)
    (text : List Char) :
    readFraction (fractionText nanosecond ++ 'Z' :: text) = some (nanosecond, 'Z' :: text) := by
  have hends : Text.EndsDigits ('Z' :: text) := Text.endsDigits_cons (by decide) text
  unfold fractionText
  split
  next hzero => rw [hzero]; rfl
  split
  next hmillis =>
    rw [List.cons_append, readFraction_paddedDecimal (by decide) (by decide) (by omega) hends]
    congr 2
    omega
  split
  next hmicros =>
    rw [List.cons_append, readFraction_paddedDecimal (by decide) (by decide) (by omega) hends]
    congr 2
    omega
  next =>
    rw [List.cons_append, readFraction_paddedDecimal (by decide) (by decide) (by omega) hends]
    exact congrArg some (Prod.ext (Nat.mul_one _) rfl)

/-! ## The moment -/

theorem day_lt (date : Date) : date.day < 100 := by
  have hrange := date.day_range.2
  unfold daysInMonth at hrange
  repeat' split at hrange
  all_goals omega

theorem of?_eq (date : Date) : Date.of? date.year date.month date.day = some date := by
  rw [Date.of?, dif_pos date.month_range, dif_pos date.day_range]

/-- A time without an offset is the moment itself. -/
theorem ofLocal?_zero (t : Timestamp) :
    ofLocal? t.date t.minute 0 t.second t.nanosecond = some t := by
  have hminute := t.minute_lt
  have htotal : ((t.minute : Int) - 0).toNat = t.minute := by omega
  rw [ofLocal?, if_neg (by omega), if_neg (by omega)]
  dsimp only
  rw [dif_pos ⟨by omega, t.second_le, t.nanosecond_lt, t.year_known⟩]
  obtain ⟨date, minute, second, nanosecond, _, _, _, _⟩ := t
  simp

theorem bind_of_eq_some {α β : Type} {found : Option α} {value : α} {next : α → Option β}
    (h : found = some value) : (found >>= next) = next value := by
  rw [h]
  rfl

/-- A moment is read back from its text. -/
theorem parse?_chars (t : Timestamp) : parse? t.chars = some t := by
  have hmonth : t.date.month < 10 ^ 2 := Nat.lt_of_le_of_lt t.date.month_range.2 (by decide)
  have hday : t.date.day < 10 ^ 2 := day_lt t.date
  have hhours : t.minute / 60 < 24 := Nat.div_lt_of_lt_mul t.minute_lt
  have hminutes : t.minute % 60 < 60 := Nat.mod_lt _ (by decide)
  have hsecond : t.second < 10 ^ 2 := Nat.lt_of_le_of_lt t.second_le (by decide)
  have hyear (text : List Char) := readYear_yearText t.date.year
    (Text.endsDigits_cons (show '-'.isDigit = false by decide) text)
  have hdash := readMark_cons (show Text.isBlank '-' = false by decide)
  have hcolon := readMark_cons (show Text.isBlank ':' = false by decide)
  have hnumber {n : Nat} (h : n < 10 ^ 2) := readNumber_paddedDecimal (by decide) h
  have hfraction := readFraction_fractionText t.nanosecond_lt []
  have hmoment : t.minute / 60 * 60 + t.minute % 60 = t.minute := Nat.div_add_mod' _ _
  have htext : t.chars = yearText t.date.year ++ '-' :: (Text.paddedDecimal 2 t.date.month ++
      '-' :: (Text.paddedDecimal 2 t.date.day ++ 'T' :: (Text.paddedDecimal 2 (t.minute / 60) ++
      ':' :: (Text.paddedDecimal 2 (t.minute % 60) ++ ':' :: (Text.paddedDecimal 2 t.second ++
      (fractionText t.nanosecond ++ ['Z'])))))) := by
    simp only [chars, List.append_assoc, List.cons_append, List.nil_append]
  have hdivider (text : List Char) : readDivider ('T' :: text) = some text := rfl
  have hoffset : readOffset (Text.trimStart ['Z']) = some (0, []) := rfl
  -- One step for each part of the text, in the order in which they are read.
  rw [parse?, htext]
  refine (bind_of_eq_some (hyear _)).trans ?_
  refine (bind_of_eq_some (hdash _)).trans ?_
  refine (bind_of_eq_some (hnumber hmonth _)).trans ?_
  refine (bind_of_eq_some (hdash _)).trans ?_
  refine (bind_of_eq_some (hnumber hday _)).trans ?_
  refine (bind_of_eq_some (hdivider _)).trans ?_
  refine (bind_of_eq_some (hnumber (Nat.lt_trans hhours (by decide)) _)).trans ?_
  refine (bind_of_eq_some (hcolon _)).trans ?_
  refine (bind_of_eq_some (hnumber (Nat.lt_trans hminutes (by decide)) _)).trans ?_
  refine (bind_of_eq_some (hcolon _)).trans ?_
  refine (bind_of_eq_some (hnumber hsecond _)).trans ?_
  refine (bind_of_eq_some hfraction).trans ?_
  refine (bind_of_eq_some hoffset).trans ?_
  refine (bind_of_eq_some (of?_eq t.date)).trans ?_
  rw [hmoment, ofLocal?_zero]
  exact if_pos ⟨rfl, t.year_known, hhours, hminutes, by decide⟩

/-- Times are read back. -/
theorem parse?_text (t : Timestamp) : parse? t.text.toList = some t := by
  rw [text, String.toList_ofList, parse?_chars]

end MicroVm.Timestamp

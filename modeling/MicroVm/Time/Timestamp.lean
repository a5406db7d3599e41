import MicroVm.Text.Blank
import MicroVm.Text.Numeral

/-!
# Timestamps

A timestamp is a moment in UTC to the nanosecond, with the second 60 for a leap second. It is
written with `T` between date and time, `Z` at the end and as many digits of the fraction, in
groups of three, as are not all zero. Years outside of four digits carry a sign.

Reading is more generous: blanks may stand between the parts, single digits will do, a small `t`
or a space divides date and time, and the offset may be any number of hours and minutes below a
day. The moment is then moved to UTC, which changes the date by at most a day.
-/

namespace MicroVm

def isLeapYear (year : Int) : Bool := year % 4 == 0 && (year % 100 != 0 || year % 400 == 0)

def daysInMonth (year : Int) (month : Nat) : Nat :=
  if month = 2 then if isLeapYear year then 29 else 28
  else if month = 4 ∨ month = 6 ∨ month = 9 ∨ month = 11 then 30
  else 31

theorem one_le_daysInMonth (year : Int) (month : Nat) : 1 ≤ daysInMonth year month := by
  unfold daysInMonth
  repeat' split
  all_goals omega

structure Date where
  year : Int
  month : Nat
  day : Nat
  month_range : 1 ≤ month ∧ month ≤ 12
  day_range : 1 ≤ day ∧ day ≤ daysInMonth year month
  deriving DecidableEq, Repr

namespace Date

def of? (year : Int) (month day : Nat) : Option Date :=
  if month_range : 1 ≤ month ∧ month ≤ 12 then
    if day_range : 1 ≤ day ∧ day ≤ daysInMonth year month then
      some { year, month, day, month_range, day_range }
    else none
  else none

def next (date : Date) : Date :=
  if h : date.day < daysInMonth date.year date.month then
    { date with day := date.day + 1, day_range := ⟨by omega, by omega⟩ }
  else if h' : date.month < 12 then
    { year := date.year, month := date.month + 1, day := 1
      month_range := ⟨by omega, by omega⟩
      day_range := ⟨by omega, one_le_daysInMonth _ _⟩ }
  else
    { year := date.year + 1, month := 1, day := 1
      month_range := by omega
      day_range := ⟨by omega, one_le_daysInMonth _ _⟩ }

def previous (date : Date) : Date :=
  if h : 1 < date.day then
    { date with
      day := date.day - 1
      day_range := ⟨by omega, by have := date.day_range; omega⟩ }
  else if h' : 1 < date.month then
    { year := date.year, month := date.month - 1
      day := daysInMonth date.year (date.month - 1)
      month_range := ⟨by omega, by have := date.month_range; omega⟩
      day_range := ⟨one_le_daysInMonth _ _, Nat.le_refl _⟩ }
  else
    { year := date.year - 1, month := 12, day := daysInMonth (date.year - 1) 12
      month_range := by omega
      day_range := ⟨one_le_daysInMonth _ _, Nat.le_refl _⟩ }

end Date

/-- The years that the date of a moment may have. -/
def isKnownYear (year : Int) : Bool := -262143 ≤ year && year ≤ 262142

structure Timestamp where
  date : Date
  minute : Nat
  /-- The second of the minute, 60 in a leap second. -/
  second : Nat
  nanosecond : Nat
  minute_lt : minute < 1440
  second_le : second ≤ 60
  nanosecond_lt : nanosecond < 1000000000
  year_known : isKnownYear date.year = true
  deriving DecidableEq, Repr

namespace Timestamp

/-! ## Writing -/

def yearText (year : Int) : List Char :=
  if 0 ≤ year ∧ year ≤ 9999 then Text.paddedDecimal 4 year.toNat
  else (if year < 0 then '-' else '+') :: Text.paddedDecimal 4 year.natAbs

/-- The fraction of a second with none, three, six or nine digits. -/
def fractionText (nanosecond : Nat) : List Char :=
  if nanosecond = 0 then []
  else if nanosecond % 1000000 = 0 then '.' :: Text.paddedDecimal 3 (nanosecond / 1000000)
  else if nanosecond % 1000 = 0 then '.' :: Text.paddedDecimal 6 (nanosecond / 1000)
  else '.' :: Text.paddedDecimal 9 nanosecond

def chars (t : Timestamp) : List Char :=
  yearText t.date.year ++ ['-'] ++ Text.paddedDecimal 2 t.date.month ++ ['-'] ++
    Text.paddedDecimal 2 t.date.day ++ ['T'] ++ Text.paddedDecimal 2 (t.minute / 60) ++ [':'] ++
    Text.paddedDecimal 2 (t.minute % 60) ++ [':'] ++ Text.paddedDecimal 2 t.second ++
    fractionText t.nanosecond ++ ['Z']

def text (t : Timestamp) : String := String.ofList t.chars

/-! ## Reading -/

/-- The number at the front, of one digit at least and `width` digits at most, after blanks. -/
def readNumber (width : Nat) (text : List Char) : Option (Nat × List Char) :=
  let text := Text.trimStart text
  let digits := (text.take width).takeWhile Char.isDigit
  if digits.isEmpty then none else some (Text.valueOfDigits digits, text.drop digits.length)

/-- A year: four digits at most without a sign, any number of digits with one. -/
def readYear (text : List Char) : Option (Int × List Char) :=
  match Text.trimStart text with
  | '-' :: rest => readRun rest fun n ↦ -(n : Int)
  | '+' :: rest => readRun rest fun n ↦ (n : Int)
  | text => (readNumber 4 text).map fun (n, rest) ↦ ((n : Int), rest)
where
  /-- The number of the whole run of digits at the front. -/
  readRun (text : List Char) (sign : Nat → Int) : Option (Int × List Char) :=
    let digits := text.takeWhile Char.isDigit
    if digits.isEmpty then none
    else some (sign (Text.valueOfDigits digits), text.drop digits.length)

def readMark (mark : Char) (text : List Char) : Option (List Char) :=
  match Text.trimStart text with
  | c :: rest => if c = mark then some rest else none
  | [] => none

def readDivider : List Char → Option (List Char)
  | 'T' :: rest => some rest
  | 't' :: rest => some rest
  | ' ' :: rest => some rest
  | _ => none

/-- The nanoseconds of a fraction, zero without one. Digits after the ninth are dropped. -/
def readFraction : List Char → Option (Nat × List Char)
  | '.' :: rest =>
    let digits := rest.takeWhile Char.isDigit
    if digits.isEmpty then none
    else
      let kept := digits.take 9
      some (Text.valueOfDigits kept * Nat.pow 10 (9 - kept.length), rest.drop digits.length)
  | text => some (0, text)

def readTwoDigits : List Char → Option (Nat × List Char)
  | a :: b :: rest =>
    if a.isDigit && b.isDigit then some (Text.valueOfDigits [a, b], rest) else none
  | _ => none

/-- The sign of an offset. The typographic minus is one too. -/
def readSign : List Char → Option (Int × List Char)
  | '+' :: rest => some (1, rest)
  | '-' :: rest => some (-1, rest)
  | '−' :: rest => some (-1, rest)
  | _ => none

/-- An offset of hours and minutes. Colons and blanks may divide the two. -/
def readClockOffset (text : List Char) : Option (Int × List Char) := do
  let (sign, rest) ← readSign text
  let (hours, rest) ← readTwoDigits rest
  let (minutes, rest) ← readTwoDigits (rest.dropWhile fun c ↦ c == ':' || Text.isBlank c)
  if minutes < 60 then some (sign * ((hours * 60 + minutes : Nat) : Int), rest) else none

/-- The minutes that local time is ahead of UTC. -/
def readOffset : List Char → Option (Int × List Char)
  | 'Z' :: rest => some (0, rest)
  | 'z' :: rest => some (0, rest)
  | text =>
    if (text.take 3).map Char.toUpper = ['U', 'T', 'C'] then some (0, text.drop 3)
    else readClockOffset text

/-- The moment of a local date and minute of the day, moved back by an offset of less than a day. -/
def ofLocal? (date : Date) (minute : Nat) (offset : Int) (second nanosecond : Nat) :
    Option Timestamp :=
  let total : Int := minute - offset
  let (date, total) :=
    if total < 0 then (date.previous, total + 1440)
    else if 1440 ≤ total then (date.next, total - 1440)
    else (date, total)
  if h : total.toNat < 1440 ∧ second ≤ 60 ∧ nanosecond < 1000000000 ∧ isKnownYear date.year then
    some {
      date, minute := total.toNat, second, nanosecond
      minute_lt := h.1, second_le := h.2.1, nanosecond_lt := h.2.2.1, year_known := h.2.2.2 }
  else none

def parse? (text : List Char) : Option Timestamp := do
  let (year, text) ← readYear text
  let (month, text) ← readNumber 2 (← readMark '-' text)
  let (day, text) ← readNumber 2 (← readMark '-' text)
  let (hour, text) ← readNumber 2 (← readDivider text)
  let (minute, text) ← readNumber 2 (← readMark ':' text)
  let (second, text) ← readNumber 2 (← readMark ':' text)
  let (nanosecond, text) ← readFraction text
  let (offset, text) ← readOffset (Text.trimStart text)
  let date ← Date.of? year month day
  if (Text.trimStart text).isEmpty ∧ isKnownYear year ∧ hour < 24 ∧ minute < 60 ∧
      offset.natAbs < 1440 then
    ofLocal? date (hour * 60 + minute) offset second nanosecond
  else none

end Timestamp

end MicroVm

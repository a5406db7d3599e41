/-!
# Unsigned numerals

Reading takes an optional plus sign and then digits, from left to right. A sign alone is no
numeral, and neither is a minus sign in front. A digit that does not belong to the radix and a
value above the limit are both faults, and the one met first is the one reported.
-/

namespace MicroVm.Text

inductive NumeralFault
  | empty
  | invalidDigit
  | tooLarge
  deriving DecidableEq, Repr

def NumeralFault.message : NumeralFault → String
  | .empty => "cannot parse integer from empty string"
  | .invalidDigit => "invalid digit found in string"
  | .tooLarge => "number too large to fit in target type"

def digitValue? (radix : Nat) (c : Char) : Option Nat :=
  let value :=
    if '0' ≤ c ∧ c ≤ '9' then some (c.toNat - '0'.toNat)
    else if 'a' ≤ c ∧ c ≤ 'z' then some (c.toNat - 'a'.toNat + 10)
    else if 'A' ≤ c ∧ c ≤ 'Z' then some (c.toNat - 'A'.toNat + 10)
    else none
  value.filter (· < radix)

/-- Continues a value with further digits and keeps it at most `limit`. -/
def readDigits (radix limit : Nat) (value : Nat) : List Char → Except NumeralFault Nat
  | [] => .ok value
  | c :: rest =>
    match digitValue? radix c with
    | none => .error .invalidDigit
    | some digit =>
      let next := value * radix + digit
      if next ≤ limit then readDigits radix limit next rest else .error .tooLarge

def readNumeral (radix limit : Nat) : List Char → Except NumeralFault Nat
  | [] => .error .empty
  | ['+'] => .error .invalidDigit
  | '+' :: digits => readDigits radix limit 0 digits
  | digits => readDigits radix limit 0 digits

def readByte (text : List Char) : Except NumeralFault UInt8 :=
  (readNumeral 10 0xff text).map UInt8.ofNat

def readWord16 (text : List Char) : Except NumeralFault UInt16 :=
  (readNumeral 10 0xffff text).map UInt16.ofNat

def readWord64 (text : List Char) : Except NumeralFault Nat :=
  readNumeral 10 0xffffffffffffffff text

/-- The number that a run of decimal digits stands for. -/
def valueOfDigits (digits : List Char) : Nat :=
  digits.foldl (fun value c ↦ value * 10 + (c.toNat - '0'.toNat)) 0

def decimal (n : Nat) : List Char := Nat.toDigits 10 n

/-- The decimal digits of a number, with zeros in front up to the given width. -/
def paddedDecimal (width n : Nat) : List Char :=
  List.replicate (width - (decimal n).length) '0' ++ decimal n

/-- The hexadecimal digits of a number, in small letters. -/
def hexadecimal (n : Nat) : List Char := Nat.toDigits 16 n

def hexByte (byte : UInt8) : List Char :=
  [Nat.digitChar (byte.toNat / 16), Nat.digitChar (byte.toNat % 16)]

end MicroVm.Text

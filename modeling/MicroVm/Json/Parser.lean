import MicroVm.Json.Value
import MicroVm.Text.Numeral

/-!
# Reading JSON text

The grammar is the strict one: no comments, no trailing commas, no leading zeros, and four blank
characters only. A text holds one value with blanks around it. Nesting has no limit of its own,
so the recursion is bounded by the length of the text.
-/

namespace MicroVm.Json

/-- The four characters that may stand between tokens. -/
def isSpace (c : Char) : Bool := c == ' ' || c == '\n' || c == '\r' || c == '\t'

def skipSpace (text : List Char) : List Char := text.dropWhile isSpace

def hexValue? (c : Char) : Option Nat :=
  if '0' ≤ c ∧ c ≤ '9' then some (c.toNat - '0'.toNat)
  else if 'a' ≤ c ∧ c ≤ 'f' then some (c.toNat - 'a'.toNat + 10)
  else if 'A' ≤ c ∧ c ≤ 'F' then some (c.toNat - 'A'.toNat + 10)
  else none

/-- The 16-bit unit of four hexadecimal digits. -/
def unit? (a b c d : Char) : Option Nat := do
  let a ← hexValue? a
  let b ← hexValue? b
  let c ← hexValue? c
  let d ← hexValue? d
  return ((a * 16 + b) * 16 + c) * 16 + d

/-- What an escape of two characters stands for. -/
def shortEscape? : Char → Option Char
  | '"' => some '"'
  | '\\' => some '\\'
  | '/' => some '/'
  | 'b' => some '\x08'
  | 'f' => some '\x0c'
  | 'n' => some '\n'
  | 'r' => some '\r'
  | 't' => some '\t'
  | _ => none

/-- A piece of a string: a character, or a 16-bit unit given by its number. -/
inductive Piece
  | char (c : Char)
  | unit (u : Nat)

/-- The pieces of a string after its opening quotation mark, and the text after the closing one. -/
def readPieces : List Char → Option (List Piece × List Char)
  | [] => none
  | '"' :: rest => some ([], rest)
  | '\\' :: 'u' :: a :: b :: c :: d :: rest => do
    let u ← unit? a b c d
    let (pieces, rest) ← readPieces rest
    return (.unit u :: pieces, rest)
  | '\\' :: e :: rest => do
    let c ← shortEscape? e
    let (pieces, rest) ← readPieces rest
    return (.char c :: pieces, rest)
  | c :: rest =>
    if c.toNat < 0x20 then none
    else do
      let (pieces, rest) ← readPieces rest
      return (.char c :: pieces, rest)

/-- The characters of the pieces. A unit of a surrogate pair is a character only together with the
other unit right after it. -/
def joinPieces? : List Piece → Option (List Char)
  | [] => some []
  | .char c :: pieces => (joinPieces? pieces).map (c :: ·)
  | .unit high :: .unit low :: pieces =>
    if 0xd800 ≤ high ∧ high < 0xdc00 then
      if 0xdc00 ≤ low ∧ low < 0xe000 then
        (joinPieces? pieces).map
          (Char.ofNat (0x10000 + (high - 0xd800) * 0x400 + (low - 0xdc00)) :: ·)
      else none
    else if 0xdc00 ≤ high ∧ high < 0xe000 then none
    else (joinPieces? (.unit low :: pieces)).map (Char.ofNat high :: ·)
  | .unit u :: pieces =>
    if 0xd800 ≤ u ∧ u < 0xe000 then none else (joinPieces? pieces).map (Char.ofNat u :: ·)

def readString (text : List Char) : Option (Option String × List Char) :=
  (readPieces text).map fun (pieces, rest) ↦ ((joinPieces? pieces).map String.ofList, rest)

/-- The digits at the front, at least one, and the text after them. -/
def readDigitRun (text : List Char) : Option (List Char × List Char) :=
  let digits := text.takeWhile Char.isDigit
  if digits.isEmpty then none else some (digits, text.dropWhile Char.isDigit)

/-- The digits before the point: a zero alone, or a run that begins with another digit. -/
def readWhole : List Char → Option (List Char × List Char)
  | '0' :: rest => some (['0'], rest)
  | text => readDigitRun text

/-- The digits after a point, none when there is no point. -/
def readFraction : List Char → Option (Option (List Char) × List Char)
  | '.' :: rest => (readDigitRun rest).map fun (digits, rest) ↦ (some digits, rest)
  | text => some (none, text)

def readSigned : List Char → Option (Int × List Char)
  | '-' :: rest =>
    (readDigitRun rest).map fun (digits, rest) ↦ (-(Text.valueOfDigits digits : Int), rest)
  | '+' :: rest =>
    (readDigitRun rest).map fun (digits, rest) ↦ ((Text.valueOfDigits digits : Int), rest)
  | text => (readDigitRun text).map fun (digits, rest) ↦ ((Text.valueOfDigits digits : Int), rest)

def readExponent : List Char → Option (Option Int × List Char)
  | 'e' :: rest => (readSigned rest).map fun (exponent, rest) ↦ (some exponent, rest)
  | 'E' :: rest => (readSigned rest).map fun (exponent, rest) ↦ (some exponent, rest)
  | text => some (none, text)

def Number.ofParts (negative : Bool) (whole : List Char) (fraction : Option (List Char))
    (exponent : Option Int) : Number :=
  let places := fraction.getD []
  { negative
    significand := Text.valueOfDigits (whole ++ places)
    exponent :=
      if fraction.isNone ∧ exponent.isNone then none
      else some (exponent.getD 0 - places.length) }

def readUnsigned (negative : Bool) (text : List Char) : Option (Number × List Char) := do
  let (whole, rest) ← readWhole text
  let (fraction, rest) ← readFraction rest
  let (exponent, rest) ← readExponent rest
  return (.ofParts negative whole fraction exponent, rest)

def readNumber : List Char → Option (Number × List Char)
  | '-' :: rest => readUnsigned true rest
  | text => readUnsigned false text

mutual

/-- A value, after spaces, and the text after it. -/
def readValue : (fuel : Nat) → List Char → Option (Value × List Char)
  | 0, _ => none
  | fuel + 1, text =>
    match skipSpace text with
    | 'n' :: 'u' :: 'l' :: 'l' :: rest => some (.null, rest)
    | 't' :: 'r' :: 'u' :: 'e' :: rest => some (.bool true, rest)
    | 'f' :: 'a' :: 'l' :: 's' :: 'e' :: rest => some (.bool false, rest)
    | '"' :: rest => (readString rest).map fun (text, rest) ↦ (.string text, rest)
    | '[' :: rest =>
      match skipSpace rest with
      | ']' :: rest => some (.array [], rest)
      | rest => (readItems fuel rest).map fun (items, rest) ↦ (.array items, rest)
    | '\x7b' :: rest =>
      match skipSpace rest with
      | '\x7d' :: rest => some (.object [], rest)
      | rest => (readMembers fuel rest).map fun (members, rest) ↦ (.object members, rest)
    | text => (readNumber text).map fun (number, rest) ↦ (.number number, rest)

/-- The items of an array, at least one, and the text after the closing bracket. -/
def readItems : (fuel : Nat) → List Char → Option (List Value × List Char)
  | 0, _ => none
  | fuel + 1, text => do
    let (item, rest) ← readValue fuel text
    match skipSpace rest with
    | ']' :: rest => return ([item], rest)
    | ',' :: rest => do
      let (items, rest) ← readItems fuel rest
      return (item :: items, rest)
    | _ => none

/-- The members of an object, at least one, and the text after the closing brace. -/
def readMembers : (fuel : Nat) → List Char → Option (List (Option String × Value) × List Char)
  | 0, _ => none
  | fuel + 1, text =>
    match skipSpace text with
    | '"' :: rest => do
      let (name, rest) ← readString rest
      match skipSpace rest with
      | ':' :: rest => do
        let (value, rest) ← readValue fuel rest
        match skipSpace rest with
        | '\x7d' :: rest => return ([(name, value)], rest)
        | ',' :: rest => do
          let (members, rest) ← readMembers fuel rest
          return ((name, value) :: members, rest)
        | _ => none
      | _ => none
    | _ => none

end

/-- The value that a text holds. Each level of the recursion takes a character at least, so the
length of the text is fuel enough. -/
def parse? (text : List Char) : Option Value :=
  match readValue (text.length + 1) text with
  | some (value, rest) => if (skipSpace rest).isEmpty then some value else none
  | none => none

end MicroVm.Json

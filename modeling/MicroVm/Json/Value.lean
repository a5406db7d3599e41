/-!
# JSON values

A value keeps what a reader of records needs and nothing else. A number keeps its digits, because
only a number written without fraction and exponent counts as an integer. A string is `none` when
an escape in it stands for half of a surrogate pair: such a text is well formed, and it is refused
only where its characters are asked for. An object keeps its members in the order of the text,
repetitions included.
-/

namespace MicroVm.Json

/-- A number as it is written: the value is the significand times ten to the exponent. -/
structure Number where
  negative : Bool
  significand : Nat
  /-- Nothing when the number is written with digits alone. -/
  exponent : Option Int
  deriving DecidableEq, Repr

def Number.ofNat (n : Nat) : Number := ⟨false, n, none⟩

/-- The natural number that the digits stand for. A sign, a fraction and an exponent all make the
number no integer, even where the value is one. -/
def Number.natural? (n : Number) : Option Nat :=
  if n.negative = false ∧ n.exponent = none then some n.significand else none

/-- Whether the magnitude lies beyond every 64-bit floating-point number. -/
def Number.isHuge (n : Number) : Bool :=
  let exponent := n.exponent.getD 0
  let places := (Nat.toDigits 10 n.significand).length + exponent
  if n.significand = 0 then false
  else if 310 < places then true
  else if places < 309 then false
  else
    let limit := Nat.pow 2 1024 - Nat.pow 2 970
    if 0 ≤ exponent then limit ≤ n.significand * Nat.pow 10 exponent.toNat
    else limit * Nat.pow 10 (-exponent).toNat ≤ n.significand

inductive Value
  | null
  | bool (b : Bool)
  | number (n : Number)
  | string (text : Option String)
  | array (items : List Value)
  | object (members : List (Option String × Value))

namespace Value

def text (s : String) : Value := .string (some s)

def natural (n : Nat) : Value := .number (.ofNat n)

def record (members : List (String × Value)) : Value :=
  .object (members.map fun (name, value) ↦ (some name, value))

def ofOption : Option Value → Value
  | none => .null
  | some value => value

mutual

def depth : Value → Nat
  | .array items => depthItems items + 1
  | .object members => depthMembers members + 1
  | _ => 0

def depthItems : List Value → Nat
  | [] => 0
  | item :: items => max item.depth (depthItems items)

def depthMembers : List (Option String × Value) → Nat
  | [] => 0
  | (_, value) :: members => max value.depth (depthMembers members)

end

mutual

/-- Whether every string has characters and every number a floating-point magnitude, so that the
value can be held without knowing what it is for. -/
def isHoldable : Value → Bool
  | .number n => !n.isHuge
  | .string text => text.isSome
  | .array items => areHoldable items
  | .object members => areHoldableMembers members
  | _ => true

def areHoldable : List Value → Bool
  | [] => true
  | item :: items => item.isHoldable && areHoldable items

def areHoldableMembers : List (Option String × Value) → Bool
  | [] => true
  | (name, value) :: members => name.isSome && value.isHoldable && areHoldableMembers members

end

end Value

end MicroVm.Json

/-!
# UTF-8

The first byte of a character fixes how many bytes follow and in which range each of them lies;
the narrower ranges exclude long forms, surrogates and code points above the last. Where bytes are
no character, the longest part that could have begun one counts as a single error. Reading with
replacement puts the replacement character there, and strict reading gives up.
-/

namespace MicroVm.Text

/-- What the bytes at the front hold: a character or an error, and the bytes after it. -/
inductive Utf8Step
  | char (c : Char) (rest : List UInt8)
  | error (rest : List UInt8)

def Utf8Step.rest : Utf8Step → List UInt8
  | .char _ rest => rest
  | .error rest => rest

def continuation : Nat × Nat := (0x80, 0xbf)

/-- The bits that a first byte gives, and the ranges of the bytes that have to follow it. -/
def leadByte? (lead : Nat) : Option (Nat × List (Nat × Nat)) :=
  if lead < 0x80 then some (lead, [])
  else if lead < 0xc2 then none
  else if lead < 0xe0 then some (lead - 0xc0, [continuation])
  else if lead = 0xe0 then some (0, [(0xa0, 0xbf), continuation])
  else if lead = 0xed then some (0xd, [(0x80, 0x9f), continuation])
  else if lead < 0xf0 then some (lead - 0xe0, [continuation, continuation])
  else if lead = 0xf0 then some (0, [(0x90, 0xbf), continuation, continuation])
  else if lead < 0xf4 then some (lead - 0xf0, [continuation, continuation, continuation])
  else if lead = 0xf4 then some (4, [(0x80, 0x8f), continuation, continuation])
  else none

/-- Adds the bits of the bytes that follow, while they lie in their ranges. -/
def continueChar (bits : Nat) : List (Nat × Nat) → List UInt8 → Utf8Step
  | [], rest => .char (Char.ofNat bits) rest
  | _ :: _, [] => .error []
  | (low, high) :: ranges, byte :: rest =>
    if low ≤ byte.toNat ∧ byte.toNat ≤ high then
      continueChar (bits * 0x40 + (byte.toNat - 0x80)) ranges rest
    else .error (byte :: rest)

/-- Takes one character, or one error, from the front. -/
def utf8Step (first : UInt8) (rest : List UInt8) : Utf8Step :=
  match leadByte? first.toNat with
  | some (bits, ranges) => continueChar bits ranges rest
  | none => .error rest

theorem continueChar_rest_length (bits : Nat) (ranges : List (Nat × Nat)) (bytes : List UInt8) :
    (continueChar bits ranges bytes).rest.length ≤ bytes.length := by
  fun_induction continueChar bits ranges bytes with
  | case1 => simp [Utf8Step.rest]
  | case2 => simp [Utf8Step.rest]
  | case3 bits low high ranges byte rest _ ih =>
    simp only [List.length_cons]
    omega
  | case4 => simp [Utf8Step.rest]

theorem utf8Step_rest_length (first : UInt8) (bytes : List UInt8) :
    (utf8Step first bytes).rest.length ≤ bytes.length := by
  unfold utf8Step
  split
  · exact continueChar_rest_length _ _ _
  · simp [Utf8Step.rest]

def replacement : Char := Char.ofNat 0xfffd

/-- Reads bytes as text and puts the replacement character for each error. -/
def decodeReplacing : List UInt8 → List Char
  | [] => []
  | first :: bytes =>
    have := utf8Step_rest_length first bytes
    match _h : utf8Step first bytes with
    | .char c rest => c :: decodeReplacing rest
    | .error rest => replacement :: decodeReplacing rest
  termination_by bytes => bytes.length
  decreasing_by
    all_goals
      rw [_h, Utf8Step.rest] at this
      exact Nat.lt_succ_of_le this

/-- Reads bytes as text, unless they hold an error. -/
def decodeStrict? : List UInt8 → Option (List Char)
  | [] => some []
  | first :: bytes =>
    have := utf8Step_rest_length first bytes
    match _h : utf8Step first bytes with
    | .char c rest => (decodeStrict? rest).map (c :: ·)
    | .error _ => none
  termination_by bytes => bytes.length
  decreasing_by
    all_goals
      rw [_h, Utf8Step.rest] at this
      exact Nat.lt_succ_of_le this

def textOfBytes (bytes : List UInt8) : String := String.ofList (decodeReplacing bytes)

def bytesOfText (text : String) : List UInt8 := text.toUTF8.toList

end MicroVm.Text

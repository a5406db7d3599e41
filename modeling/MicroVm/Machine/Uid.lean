import MicroVm.Text.Quoted

/-!
# Machine ids

Device names and file names are made from the id of a machine, so an id is a plain word: one to 64
letters, digits, dashes and underscores of ASCII, of which the first is no dash.
-/

namespace MicroVm.Machine

inductive UidFault
  | empty
  | tooLong (length : Nat)
  | leadingDash
  | badCharacter (text : String)
  deriving DecidableEq, Repr

def UidFault.message : UidFault → String
  | .empty => "VM uid cannot be empty"
  | .tooLong length => s!"VM uid must be 64 characters or less, got {length}"
  | .leadingDash => "VM uid cannot start with a dash"
  | .badCharacter text =>
    "VM uid must contain only alphanumeric characters, dashes, or underscores: " ++
      Text.quoted text

def maxUidLength : Nat := 64

def isUidChar (c : Char) : Bool := c.isAlphanum || c == '-' || c == '_'

def checkUid (text : String) : Except UidFault Unit :=
  if text.isEmpty then .error .empty
  else if maxUidLength < text.utf8ByteSize then .error (.tooLong text.utf8ByteSize)
  else if text.toList.head? = some '-' then .error .leadingDash
  else if text.toList.all isUidChar then .ok ()
  else .error (.badCharacter text)

end MicroVm.Machine

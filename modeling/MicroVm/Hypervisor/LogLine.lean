import MicroVm.Text.Slice

/-!
# Log lines of the hypervisor

The hypervisor begins a log line with a time stamp and the name of the instance in brackets. Both
are taken off before the line is logged again. Either may be missing. A line is sliced at places
counted in bytes, and none of them is inside a character.
-/

namespace MicroVm.Hypervisor

/-- Whether a line begins like a time stamp of this century. -/
def beginsWithTime (text : List Char) : Bool :=
  "20".toList.isPrefixOf text && text[4]? == some '-'

/-- The line from the given number of bytes after the first place of `needle` on. A line that does
not begin as it should, or has no such place, is left whole. There is nothing when the line is
sliced inside a character. -/
def dropThrough? (begins : Bool) (needle : List Char) (width : Nat) (line : List Char) :
    Option (List Char) :=
  if begins then
    match Text.find? needle line with
    | some place => Text.sliceFrom? (place + width) line
    | none => some line
  else some line

def dropTime? (line : List Char) : Option (List Char) :=
  dropThrough? (beginsWithTime line) [' '] 1 line

def dropInstance? (line : List Char) : Option (List Char) :=
  dropThrough? (line.head? == some '[') [']', ' '] 2 line

/-- The message of a log line, unless the line is sliced inside a character. -/
def logMessage? (line : List Char) : Option (List Char) := dropTime? line >>= dropInstance?

/-- A line that is sliced right after what it is searched for is not sliced inside a character. -/
theorem exists_dropThrough?_eq {needle : List Char} {width : Nat}
    (hwidth : (String.ofList needle).utf8ByteSize = width) (begins : Bool) (line : List Char) :
    ∃ front rest, line = front ++ rest ∧ dropThrough? begins needle width line = some rest := by
  rw [dropThrough?]
  split
  next =>
    split
    next place hplace => exact hwidth ▸ Text.exists_sliceFrom?_of_find? hplace
    next => exact ⟨[], line, rfl, rfl⟩
  next => exact ⟨[], line, rfl, rfl⟩

theorem logMessage?_eq_some {line rest message : List Char} (htime : dropTime? line = some rest)
    (hinstance : dropInstance? rest = some message) : logMessage? line = some message := by
  rw [logMessage?, htime]
  exact hinstance

theorem exists_logMessage?_eq (line : List Char) :
    ∃ front message, line = front ++ message ∧ logMessage? line = some message := by
  obtain ⟨time, rest, hline, htime⟩ := exists_dropThrough?_eq rfl (beginsWithTime line) line
  obtain ⟨name, message, hrest, hinstance⟩ :=
    exists_dropThrough?_eq rfl (rest.head? == some '[') rest
  refine ⟨time ++ name, message, ?_, logMessage?_eq_some htime hinstance⟩
  rw [hline, hrest, List.append_assoc]

theorem isSome_logMessage? (line : List Char) : (logMessage? line).isSome := by
  obtain ⟨-, message, -, hmessage⟩ := exists_logMessage?_eq line
  exact Option.isSome_of_eq_some hmessage

def logMessage (line : List Char) : List Char := (logMessage? line).get (isSome_logMessage? line)

end MicroVm.Hypervisor

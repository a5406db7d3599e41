import MicroVm.Text.Split

/-!
# Words of a command line

A word that begins with two hyphens names an option, and an equals sign may attach a value to it.
A word with one hyphen is a row of letters, each an option of its own. Two hyphens alone say that
all later words are plain, and one hyphen alone is plain itself.
-/

namespace MicroVm.CommandLine

inductive Word
  | plain (text : String)
  | long (name : String) (value : Option String)
  | letters (first : Char) (others : List Char)
  | onlyPlain
  deriving DecidableEq, Repr

namespace Word

/-- The word that names an option, from the text after the hyphens. -/
def ofLong (text : List Char) : Word :=
  match Text.splitOnce '=' text with
  | some (name, value) => .long (String.ofList name) (some (String.ofList value))
  | none => .long (String.ofList text) none

def ofText (text : String) : Word :=
  match text.toList with
  | ['-', '-'] => .onlyPlain
  | '-' :: '-' :: rest => ofLong rest
  | '-' :: first :: others => .letters first others
  | _ => .plain text

end Word

end MicroVm.CommandLine

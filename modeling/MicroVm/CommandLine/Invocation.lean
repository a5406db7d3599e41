import MicroVm.CommandLine.Choices
import MicroVm.CommandLine.Word

/-!
# Invocations

A command line is read word by word. The value of an option may be the next word, so an option
waits for its value, and what it chooses is checked only when the next option or machine is there
or the words are at their end. A word that cannot be part of any command line is refused at once,
even when an option waits.
-/

namespace MicroVm.CommandLine

structure Invocation where
  machine : String
  baseDirectory : Option String
  settings : Settings
  deriving DecidableEq, Repr

structure Reading where
  choices : Choices := {}
  /-- The option that waits, with its value if that has come. -/
  pending : Option (ValueOption × Option String) := none
  /-- Whether all words are plain from here on. -/
  onlyPlain : Bool := false

namespace Reading

def choose (reading : Reading) (option : ValueOption) (text : String) : Except Refusal Reading :=
  if reading.choices.has option then .error .repeated
  else do return { reading with choices := ← reading.choices.set text option }

def settle (reading : Reading) : Except Refusal Reading :=
  match reading.pending with
  | none => .ok reading
  | some (_, none) => .error .invalidValue
  | some (option, some text) => { reading with pending := none }.choose option text

def valueOption (reading : Reading) (option : ValueOption) (value : Option String) :
    Except Refusal Reading := do
  let reading ← reading.settle
  match value with
  | some text => reading.choose option text
  | none => return { reading with pending := some (option, none) }

def dhcpv6Option (reading : Reading) : Except Refusal Reading := do
  let reading ← reading.settle
  if reading.choices.dhcpv6.isSome then .error .repeated
  else return { reading with choices := { reading.choices with dhcpv6 := some true } }

def textOption (reading : Reading) (wish : Refusal) : Except Refusal Reading := do
  let _ ← reading.settle
  .error wish

def longOption (reading : Reading) (name : String) (value : Option String) :
    Except Refusal Reading :=
  match ValueOption.ofName? name with
  | some option => reading.valueOption option value
  | none =>
    if name ∈ [dhcpv6Name, "help", "version"] then
      if value.isSome then .error .unneededValue
      else if name = dhcpv6Name then reading.dhcpv6Option
      else if name = "help" then reading.textOption .help
      else reading.textOption .version
    else .error .unknownArgument

def letterOption (reading : Reading) (letter : Char) : Except Refusal Reading :=
  if letter = 'h' then reading.textOption .help
  else if letter = 'V' then reading.textOption .version
  else .error .unknownArgument

def machineWord (reading : Reading) (text : String) : Except Refusal Reading :=
  if reading.choices.machine.isSome then .error .unknownArgument
  else do
    let reading ← reading.settle
    return { reading with choices := { reading.choices with machine := some text } }

/-- Reads a plain word: the value of the option that waits for one, or the machine. -/
def plainWord (reading : Reading) (text : String) : Except Refusal Reading :=
  match reading.pending, reading.onlyPlain with
  | some (option, none), false => .ok { reading with pending := some (option, some text) }
  | _, _ => reading.machineWord text

/-- Reads a word. Of letters the first one decides, because none leads on to the next. -/
def word (reading : Reading) (text : String) : Except Refusal Reading :=
  if reading.onlyPlain then reading.plainWord text
  else
    match Word.ofText text with
    | .plain text => reading.plainWord text
    | .long name value => reading.longOption name value
    | .letters first _ => reading.letterOption first
    | .onlyPlain => .ok { reading with onlyPlain := true }

end Reading

def Invocation.ofChoices (choices : Choices) : Except Refusal Invocation :=
  match choices.machine with
  | some machine => .ok ⟨machine, choices.baseDirectory, choices.settings⟩
  | none => .error .missingMachine

/-- Reads a command line without the name of the program, in an environment. -/
def Invocation.read (words : List String) (environment : String → Option String) :
    Except Refusal Invocation := do
  let reading ← words.foldlM Reading.word {}
  let reading ← reading.settle
  let choices ← reading.choices.fillAll environment
  Invocation.ofChoices choices

end MicroVm.CommandLine

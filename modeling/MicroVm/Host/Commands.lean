import MicroVm.Program
import MicroVm.Text.Blank
import MicroVm.Text.Utf8

/-!
# Commands

Much of a run is done by the host's own tools. A command is a program with its arguments, and
with a text that it reads, if it reads one. What it prints is read as UTF-8 with replacement
characters, and what it prints on its error stream becomes part of a failure's message.
-/

namespace MicroVm.Host

structure Command where
  program : String
  arguments : List String
  input : Option String := none
  deriving DecidableEq, Repr

def Command.text (command : Command) : String :=
  command.program ++ " " ++ " ".intercalate command.arguments

structure CommandResult where
  status : ExitStatus
  output : List UInt8
  errors : List UInt8
  deriving DecidableEq, Repr

def CommandResult.complaint (result : CommandResult) : String :=
  Text.trimmed (Text.textOfBytes result.errors)

/-- The programs of the host. A program that cannot be started gives an error. -/
def Commands : Interface := ⟨Command, fun _ ↦ Except SystemError CommandResult⟩

namespace Commands

def start (command : Command) : Task Commands CommandResult :=
  Task.ofSystem (Program.perform (I := Commands) command)

def run (command : Command) : Task Commands CommandResult :=
  Task.within (.executing command.text) (start command)

/-- Fails unless a command has done its work. The failure names it by the given words. -/
def requireSuccess (words : String) (result : CommandResult) : Task Commands Unit :=
  if result.status.isSuccess then return ()
  else Task.fail (.commandFailed words result.complaint)

def output (command : Command) : Task Commands (List Char) := do
  let result ← run command
  requireSuccess command.text result
  return Text.decodeReplacing result.output

def runAll : List Command → Task Commands Unit
  | [] => return ()
  | command :: commands => do
    let _ ← output command
    runAll commands

end Commands

end MicroVm.Host

import MicroVm.Host.Commands

/-!
# Commands that answer from a script

Each command that is run takes the next answer, whatever the command is. Programs may be missing,
and then no answer is taken.
-/

namespace MicroVm.Rehearsal

open MicroVm.Host

structure CommandScript where
  results : List CommandResult := []
  missing : List String := []
  history : List Command := []

namespace CommandScript

def silent : CommandResult := ⟨.exited 0, [], []⟩

def answer : Handler Commands CommandScript
  | (command : Command), script =>
    if command.program ∈ script.missing then (.error .notFound, script)
    else
      (.ok (script.results.headD silent),
        { script with results := script.results.tail, history := script.history ++ [command] })

end CommandScript

end MicroVm.Rehearsal

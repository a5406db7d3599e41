/-!
# Planned faults

In a rehearsal some calls are to fail. A plan says which, by the name of the operation and the
number of the call.
-/

namespace MicroVm.Rehearsal

/-- Which calls fail, and how often each operation was called. -/
structure Faults where
  /-- The message of the fault of a call, whose number counts from one. -/
  plan : String → Nat → Option String := fun _ _ ↦ none
  counts : List (String × Nat) := []

structure Fault where
  operation : String
  /-- The number of the call, or zero for every call. -/
  number : Nat
  message : String

namespace Faults

def count (faults : Faults) (operation : String) : Nat :=
  (faults.counts.lookup operation).getD 0

/-- Counts a call, and gives the message of its fault if it is to fail. -/
def call (faults : Faults) (operation : String) : Option String × Faults :=
  let number := faults.count operation + 1
  (faults.plan operation number, { faults with counts := (operation, number) :: faults.counts })

def isFor (operation : String) (number : Nat) (fault : Fault) : Bool :=
  fault.operation == operation && (fault.number == 0 || fault.number == number)

/-- The plan of a list of faults, of which the first one that is meant for a call counts. -/
def ofList (faults : List Fault) : Faults where
  plan operation number := (faults.find? (isFor operation number)).map (·.message)

end Faults

end MicroVm.Rehearsal

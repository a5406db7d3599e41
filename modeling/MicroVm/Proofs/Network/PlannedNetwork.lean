import Mathlib.Data.Nat.Notation
import MicroVm.Network.Links
import MicroVm.Proofs.Program.Execution

/-!
# A network that answers by a plan

A plan has an answer for everything that a program can ask of the network: what the interfaces are
found to be in each reading, how each change ends, and which random bytes are drawn. Readings and
changes are counted, and time passes only while the program sleeps.
-/

namespace MicroVm.Network

/-- What one reading finds. -/
structure Poll where
  interfaces : Except Failure (List Link)
  gateway : String → Except Failure (Option Ipv4)

/-- What comes of everything that is asked of a network. -/
structure NetworkPlan where
  /-- What each reading finds. -/
  poll : ℕ → Poll
  /-- How each change ends. -/
  ending : ℕ → Except Failure Unit
  /-- The random bytes that are drawn after so many changes. -/
  bytes : ℕ → Octets 6

/-- How far a plan has been carried out. -/
structure Progress where
  clock : Duration
  /-- How often the interfaces were read. -/
  readings : ℕ
  /-- The changes that were asked for, in order. -/
  changes : List Change

/-- No reading and no change yet. -/
def Progress.start (clock : Duration) : Progress := ⟨clock, 0, []⟩

/-- One more change, however it ends. -/
def Progress.change (progress : Progress) (change : Change) : Progress :=
  { progress with changes := progress.changes ++ [change] }

/-- The network of a plan. A lookup belongs to the reading before it. -/
def NetworkPlan.handler (plan : NetworkPlan) : Handler Links Progress
  | .list, progress =>
    ((plan.poll progress.readings).interfaces, { progress with readings := progress.readings + 1 })
  | .gateway device, progress => ((plan.poll (progress.readings - 1)).gateway device, progress)
  | .change change, progress => (plan.ending progress.changes.length, progress.change change)
  | .randomBytes, progress => (plan.bytes progress.changes.length, progress)
  | .now, progress => (progress.clock, progress)
  | .sleep duration, progress => ((), { progress with clock := progress.clock + duration })
  | .warn _ _, progress => ((), progress)

end MicroVm.Network

import MicroVm.Machine.Record
import MicroVm.Run.Surroundings
import MicroVm.Storage.Chain

/-!
# Teardown

Ports and addresses are taken back, the root device is removed, and the record is saved as
stopped. A step that fails does not keep the later ones from being done.
-/

namespace MicroVm.Run

open MicroVm.Machine MicroVm.Storage

structure TeardownReport where
  completed : List TeardownStep
  failed : List (TeardownStep × Failure)
  deriving DecidableEq

namespace TeardownReport

def empty : TeardownReport := ⟨[], []⟩

def add (report : TeardownReport) (step : TeardownStep) :
    Except Failure Unit → TeardownReport
  | .ok () => { report with completed := report.completed ++ [step] }
  | .error failure => { report with failed := report.failed ++ [(step, failure)] }

def isClean (report : TeardownReport) : Bool := report.failed.isEmpty

def result (report : TeardownReport) : Except Failure Unit :=
  if report.failed.isEmpty then .ok ()
  else .error (.cause (.teardownIncomplete
    (report.failed.map fun (step, failure) ↦ (step, failure.message))))

end TeardownReport

def TeardownStep.update (record : Record) : TeardownStep → Record
  | .clearPorts => record.clearPorts
  | .clearAddresses => record.clearAddresses
  | .releaseStorage => record
  | .persist => record.markStopped

def TeardownStep.effect (chain : Chain) (record : Record) : TeardownStep → Task Surroundings Unit
  | .clearPorts => return ()
  | .clearAddresses => return ()
  | .releaseStorage => Surroundings.onDevices chain.deactivate
  | .persist => Surroundings.save record

/-- Does the given steps. Gives the report and the record as it is then. -/
def tearDownFrom (chain : Chain) (report : TeardownReport) (record : Record) :
    List TeardownStep → Program Surroundings (TeardownReport × Record)
  | [] => return (report, record)
  | step :: steps => do
    let record := step.update record
    let result ← (step.effect chain record).attempt
    tearDownFrom chain (report.add step result) record steps

def tearDown (chain : Chain) (record : Record) : Program Surroundings (TeardownReport × Record) :=
  tearDownFrom chain .empty record teardownOrder

end MicroVm.Run

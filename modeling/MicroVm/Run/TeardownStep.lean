/-!
# Steps of the teardown

After the hypervisor has ended, what was provided for it is taken back in a fixed order. The
record is saved by the last step.
-/

namespace MicroVm.Run

inductive TeardownStep
  | clearPorts
  | clearAddresses
  | releaseStorage
  | persist
  deriving DecidableEq, Repr

def TeardownStep.text : TeardownStep → String
  | .clearPorts => "clear ports"
  | .clearAddresses => "clear IP addresses"
  | .releaseStorage => "deactivate storage"
  | .persist => "persist stopped state"

def teardownOrder : List TeardownStep := [.clearPorts, .clearAddresses, .releaseStorage, .persist]

end MicroVm.Run

import MicroVm.Hypervisor.Api
import MicroVm.Network.Lease
import MicroVm.Text.Blank

/-!
# Boot configuration

What the hypervisor is told before the guest starts: the kernel, the size of the machine, the root
disk, and the network cards in the order `eth0`, `eth1` and so on.
-/

namespace MicroVm.Hypervisor

open MicroVm.Network

def defaultBootArguments : String := "console=ttyS0 reboot=k panic=1 pci=off ip=dhcp"

structure BootConfig where
  kernelImage : String
  bootArguments : String
  rootDevice : String
  vcpus : Nat
  memoryMib : Nat
  nics : List GuestNic
  deriving DecidableEq, Repr

namespace BootConfig

/-- The boot arguments without blanks around them, or the default when there are none. -/
def usedBootArguments (text : String) : String :=
  if Text.trimmed text = "" then defaultBootArguments else Text.trimmed text

def of (kernelImage bootArguments rootDevice : String) (vcpus memoryMib : Nat)
    (nics : List GuestNic) : BootConfig where
  kernelImage
  bootArguments := usedBootArguments bootArguments
  rootDevice
  vcpus
  memoryMib
  nics

def bootSource (config : BootConfig) : BootSource :=
  ⟨config.kernelImage, some config.bootArguments⟩

def machineConfig (config : BootConfig) : MachineConfig := ⟨config.vcpus, config.memoryMib⟩

def rootDrive (config : BootConfig) : Drive := ⟨"rootfs", config.rootDevice, true, false⟩

def cardName (index : Nat) : String := s!"eth{index}"

def cardsFrom (index : Nat) : List GuestNic → List NetworkInterface
  | [] => []
  | nic :: nics => ⟨cardName index, nic.tap, nic.mac.text⟩ :: cardsFrom (index + 1) nics

def networkInterfaces (config : BootConfig) : List NetworkInterface := cardsFrom 0 config.nics

def calls (config : BootConfig) : List Call :=
  [.bootSource config.bootSource, .machineConfig config.machineConfig, .drive config.rootDrive] ++
    config.networkInterfaces.map .networkInterface

end BootConfig

end MicroVm.Hypervisor

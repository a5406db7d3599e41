import MicroVm.Time.Duration

/-!
# Settings of a run

Every setting has a default, which the command line or the environment can replace.
-/

namespace MicroVm

structure Settings where
  hypervisor : String := "/usr/local/bin/firecracker"
  /-- The file of the lock that all runs on a host share. -/
  lockPath : String := "/var/lock/fcspawn-snapshot.lock"
  resolverPath : String := "/etc/resolv.conf"
  /-- The time between two readings of the interfaces. -/
  pollInterval : Duration := .ofSeconds 1
  networkTimeout : Duration := .ofSeconds 60
  /-- The time between the two presses of the power button. -/
  shutdownGrace : Duration := .ofSeconds 20
  /-- The unit of the copy-on-write store, in sectors. -/
  chunkSectors : Nat := 8
  dhcpv6 : Bool := false
  deriving DecidableEq, Repr

end MicroVm

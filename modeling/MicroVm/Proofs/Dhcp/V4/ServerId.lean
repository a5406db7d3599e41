import MicroVm.Dhcp.V4.Responder
import MicroVm.Proofs.Network.Subnet

/-!
# The address that the server goes by

Without a gateway a responder goes by the first address after the network, or by the second one when
the first is leased. So it never goes by the leased address. In a subnet of four addresses or more
both of them are for hosts. A subnet of two addresses ends with the first of them: when that one is
leased, the server's address is one of the next subnet.
-/

namespace MicroVm.Dhcp.V4

open MicroVm.Network

variable {lease : Lease}

theorem toNat_serverId (hgateway : lease.gateway = none)
    (hlength : lease.address.prefixLength ≤ 31) :
    (serverId lease).bits.toNat =
      if lease.address.address.bits.toNat = lease.address.network.bits.toNat + 1 then
        (lease.address.network.bits.toNat + 2) % 2 ^ 32
      else lease.address.network.bits.toNat + 1 := by
  have hend := lease.address.network_add_size_le
  have hsize : 2 ^ 1 ≤ lease.address.size := lease.address.two_pow_le_size (by omega)
  have hfirst : (lease.address.network.bits + 1).toNat =
      lease.address.network.bits.toNat + 1 := by
    rw [UInt32.toNat_add, UInt32.toNat_one, Nat.mod_eq_of_lt (by omega)]
  have hleased : lease.address.network.bits + 1 = lease.address.address.bits ↔
      lease.address.address.bits.toNat = lease.address.network.bits.toNat + 1 := by
    rw [← UInt32.toNat_inj, hfirst, eq_comm]
  simp only [serverId, hgateway, hleased]
  split
  · rw [UInt32.toNat_add, UInt32.toNat_one, hfirst]
  · exact hfirst

/-- A subnet of two addresses is the only one in which the server's address can lie outside, and it
does so when the second of the two is leased. -/
theorem serverId_covered_iff (hgateway : lease.gateway = none)
    (hlength : lease.address.prefixLength ≤ 31) :
    serverId lease ≠ lease.address.address ∧
      (lease.address.Covers (serverId lease) ↔
        ¬ (lease.address.prefixLength = 31 ∧ lease.address.address ≠ lease.address.network)) ∧
      (lease.address.prefixLength ≤ 30 →
        serverId lease ≠ lease.address.network ∧ serverId lease ≠ lease.address.last) := by
  have hserver := toNat_serverId hgateway hlength
  have hend := lease.address.network_add_size_le
  obtain ⟨hlow, hhigh⟩ := lease.address.covers_iff.1 lease.address.covers_address
  have hlast := lease.address.toNat_last
  simp only [lease.address.covers_iff, ne_eq, Ipv4.ext_iff, ← UInt32.toNat_inj, hlast]
  obtain hpair | hlarge : lease.address.prefixLength = 31 ∨ lease.address.prefixLength ≤ 30 := by
    omega
  · have hsize : lease.address.size = 2 := by simp [Cidr.size, hpair]
    split at hserver <;> omega
  · have hsize : 2 ^ 2 ≤ lease.address.size := lease.address.two_pow_le_size (by omega)
    split at hserver <;> omega

namespace Sample

/-- A lease of an address without a gateway. -/
def ungatedLease (address : Cidr) : Lease where
  interface := "eth0"
  bridge := "br_eth0"
  tap := "vm_eth0"
  address
  gateway := none
  mac := ⟨⟨[2, 66, 10, 32, 0, 17], rfl⟩⟩
  dns := []
  dns6 := []

end Sample

open Sample in
/-- In a subnet of four addresses the first host is served by the second. -/
theorem serverId_covered_of_first_leased :
    let lease := ungatedLease ⟨.ofBytes 192 168 7 5, 30, by decide⟩
    serverId lease = .ofBytes 192 168 7 6 ∧ lease.address.Covers (serverId lease) ∧
      serverId lease ≠ lease.address.last := by
  intro lease
  have hgateway : lease.gateway = none := rfl
  obtain ⟨-, hcovered, hhost⟩ := serverId_covered_iff hgateway (by decide)
  exact ⟨by decide, hcovered.2 (by decide), (hhost (by decide)).2⟩

open Sample in
/-- Of the two addresses of a subnet the second is leased, and the server goes by neither. -/
theorem serverId_not_covered_of_pair :
    let lease := ungatedLease ⟨.ofBytes 10 0 0 1, 31, by decide⟩
    lease.gateway = none ∧ lease.address.prefixLength ≤ 31 ∧
      serverId lease = .ofBytes 10 0 0 2 ∧ ¬ lease.address.Covers (serverId lease) ∧
      lease.address.Covers (.ofBytes 10 0 0 0) := by
  decide

end MicroVm.Dhcp.V4

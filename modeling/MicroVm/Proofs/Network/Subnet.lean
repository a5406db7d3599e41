import Mathlib.Data.Nat.Bitwise
import MicroVm.Network.Cidr

/-!
# Subnets

The addresses of a subnet are a block of the address space: as many as a power of two, and the
first one a multiple of that. The mask takes every address to the first of its block, so two
addresses have the same network under a mask exactly when they lie in the same block.
-/

namespace MicroVm.Network

/-- A run of ones above `low` zeros leaves of a number the bits that stand above these zeros. -/
theorem and_highBits {width low bits : ℕ} (hlow : low ≤ width) (hbits : bits < 2 ^ width) :
    bits &&& (2 ^ (width - low) - 1) <<< low = bits / 2 ^ low * 2 ^ low := by
  rw [← Nat.shiftRight_eq_div_pow, ← Nat.shiftLeft_eq]
  apply Nat.eq_of_testBit_eq
  intro i
  simp only [Nat.testBit_and, Nat.testBit_shiftLeft, Nat.testBit_shiftRight,
    Nat.testBit_two_pow_sub_one]
  by_cases hi : low ≤ i
  · rw [Nat.add_sub_cancel' hi]
    by_cases hwidth : i < width
    · have hinside : i - low < width - low := by omega
      simp [hi, hinside]
    · have hzero : bits.testBit i = false :=
        Nat.testBit_lt_two_pow (hbits.trans_le (Nat.pow_le_pow_right (by decide) (by omega)))
      simp [hzero]
  · simp [hi]

namespace Cidr

variable (cidr : Cidr)

/-! ## Masks -/

/-- How many addresses a subnet has. -/
def size : ℕ := 2 ^ (32 - cidr.prefixLength)

theorem toNat_mask :
    cidr.mask.bits.toNat = (2 ^ cidr.prefixLength - 1) <<< (32 - cidr.prefixLength) := by
  have hle := cidr.prefixLength_le
  unfold mask
  split
  next hzero => simp [hzero]
  next hpos =>
    have hshift : (UInt32.ofNat (32 - cidr.prefixLength)).toNat % 32 = 32 - cidr.prefixLength := by
      rw [UInt32.toNat_ofNat_of_lt' (Nat.lt_of_le_of_lt (Nat.sub_le _ _) (by decide))]
      omega
    have hones : (0xffffffff : UInt32).toNat = 2 ^ 32 - 1 := rfl
    rw [UInt32.toNat_shiftLeft, hshift]
    -- the ones that are shifted out at the top are as many as the zeros that come in
    apply Nat.eq_of_testBit_eq
    intro i
    simp only [hones, Nat.testBit_mod_two_pow, Nat.testBit_shiftLeft, Nat.testBit_two_pow_sub_one]
    rw [Bool.eq_iff_iff]
    simp only [Bool.and_eq_true, decide_eq_true_eq]
    omega

/-- Masking rounds an address down to a multiple of the size of its subnet. -/
theorem toNat_and_mask (bits : UInt32) :
    (bits &&& cidr.mask.bits).toNat = bits.toNat / cidr.size * cidr.size := by
  have hle := cidr.prefixLength_le
  have hwidth : 32 - (32 - cidr.prefixLength) = cidr.prefixLength := by omega
  have hblock := and_highBits (Nat.sub_le 32 cidr.prefixLength) bits.toNat_lt
  rw [hwidth] at hblock
  rw [UInt32.toNat_and, toNat_mask, hblock, size]

theorem toNat_network :
    cidr.network.bits.toNat = cidr.address.bits.toNat / cidr.size * cidr.size :=
  cidr.toNat_and_mask cidr.address.bits

/-! ## Blocks -/

theorem size_pos : 0 < cidr.size := Nat.two_pow_pos _

theorem two_pow_mul_size : 2 ^ cidr.prefixLength * cidr.size = 2 ^ 32 := by
  rw [size, ← Nat.pow_add, Nat.add_sub_cancel' cidr.prefixLength_le]

/-- A subnet with a shorter prefix has at least as many addresses. -/
theorem two_pow_le_size {free : ℕ} (hfree : free ≤ 32 - cidr.prefixLength) :
    2 ^ free ≤ cidr.size := Nat.pow_le_pow_right (by decide) hfree

/-- No block reaches beyond the end of the address space. -/
theorem network_add_size_le : cidr.network.bits.toNat + cidr.size ≤ 2 ^ 32 := by
  have hblock : cidr.address.bits.toNat / cidr.size < 2 ^ cidr.prefixLength := by
    apply Nat.div_lt_of_lt_mul
    rw [Nat.mul_comm, two_pow_mul_size]
    exact cidr.address.bits.toNat_lt
  calc cidr.network.bits.toNat + cidr.size
      = (cidr.address.bits.toNat / cidr.size + 1) * cidr.size := by
        rw [toNat_network, Nat.succ_mul]
    _ ≤ 2 ^ cidr.prefixLength * cidr.size := Nat.mul_le_mul_right _ hblock
    _ = 2 ^ 32 := two_pow_mul_size cidr

/-- Whether an address has the same network under the mask. -/
def Covers (address : Ipv4) : Prop := { cidr with address }.network = cidr.network

instance (address : Ipv4) : Decidable (cidr.Covers address) :=
  inferInstanceAs (Decidable ({ cidr with address }.network = cidr.network))

theorem covers_iff {address : Ipv4} : cidr.Covers address ↔
    cidr.network.bits.toNat ≤ address.bits.toNat ∧
      address.bits.toNat < cidr.network.bits.toNat + cidr.size := by
  have hmasked : cidr.Covers address ↔
      address.bits.toNat / cidr.size * cidr.size = cidr.network.bits.toNat := by
    rw [Covers, Ipv4.ext_iff, ← UInt32.toNat_inj, toNat_network]
    rfl
  rw [hmasked]
  constructor
  · intro hsame
    rw [← hsame]
    exact ⟨Nat.div_mul_le_self _ _, Nat.lt_div_mul_add cidr.size_pos⟩
  · rintro ⟨hfirst, hlast⟩
    rw [toNat_network] at hfirst hlast ⊢
    rw [Nat.div_eq_of_lt_le hfirst (by rwa [Nat.succ_mul])]

theorem covers_address : cidr.Covers cidr.address := rfl

/-- The last address of a subnet. -/
def last : Ipv4 := ⟨cidr.network.bits + UInt32.ofNat (cidr.size - 1)⟩

/-- The last address is the size of the subnet, less one, after the first. -/
theorem toNat_last : cidr.last.bits.toNat = cidr.network.bits.toNat + (cidr.size - 1) := by
  have hend := cidr.network_add_size_le
  have hpos := cidr.size_pos
  have hsize : (UInt32.ofNat (cidr.size - 1)).toNat = cidr.size - 1 :=
    UInt32.toNat_ofNat_of_lt' (by rw [UInt32.size]; omega)
  rw [last, UInt32.toNat_add, hsize, Nat.mod_eq_of_lt (by omega)]

end Cidr

end MicroVm.Network

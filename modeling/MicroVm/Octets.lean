/-!
# Fixed-size byte strings

Hardware addresses, transaction ids and IPv6 addresses are byte strings of a known size. On the
wire, words stand with their most significant byte first.
-/

namespace MicroVm

@[ext]
structure Octets (size : Nat) where
  bytes : List UInt8
  length_bytes : bytes.length = size
  deriving DecidableEq, Repr

namespace Octets

def zero (size : Nat) : Octets size := ⟨List.replicate size 0, by simp⟩

instance (size : Nat) : Inhabited (Octets size) := ⟨zero size⟩

/-- The byte string made of the given bytes, when their number is right. -/
def ofBytes? (size : Nat) (bytes : List UInt8) : Option (Octets size) :=
  if h : bytes.length = size then some ⟨bytes, h⟩ else none

/-- The first `size` bytes, with zeros after them when there are fewer. -/
def padded (size : Nat) (bytes : List UInt8) : Octets size :=
  ⟨bytes.take size ++ List.replicate (size - bytes.length) 0, by simp; omega⟩

end Octets

/-- The first `count` items and the items after them, when there are that many. -/
def takeExactly? {α : Type} : (count : Nat) → List α → Option (List α × List α)
  | 0, items => some ([], items)
  | _ + 1, [] => none
  | count + 1, item :: items =>
    (takeExactly? count items).map fun (taken, rest) ↦ (item :: taken, rest)

theorem takeExactly?_eq_some_iff {α : Type} {count : Nat} {items taken rest : List α} :
    takeExactly? count items = some (taken, rest) ↔
      items = taken ++ rest ∧ taken.length = count := by
  induction count generalizing items taken with
  | zero =>
    simp only [takeExactly?, Option.some.injEq, Prod.mk.injEq, List.length_eq_zero_iff]
    constructor
    · rintro ⟨rfl, rfl⟩
      simp
    · rintro ⟨rfl, rfl⟩
      simp
  | succ count ih =>
    cases items with
    | nil =>
      simp only [takeExactly?, reduceCtorEq, false_iff, not_and]
      intro h
      have := (List.append_eq_nil_iff.1 h.symm).1
      simp [this]
    | cons item items =>
      simp only [takeExactly?, Option.map_eq_some_iff, Prod.mk.injEq, Prod.exists]
      constructor
      · rintro ⟨found, after, hfound, rfl, rfl⟩
        obtain ⟨rfl, hlength⟩ := ih.1 hfound
        simp [hlength]
      · rintro ⟨happend, hlength⟩
        cases taken with
        | nil => simp at hlength
        | cons first found =>
          simp only [List.cons_append, List.cons.injEq] at happend
          simp only [List.length_cons, Nat.add_right_cancel_iff] at hlength
          exact ⟨found, rest, ih.2 ⟨happend.2, hlength⟩, by rw [happend.1], rfl⟩

theorem takeExactly?_eq_none_iff {α : Type} {count : Nat} {items : List α} :
    takeExactly? count items = none ↔ items.length < count := by
  induction count generalizing items with
  | zero => simp [takeExactly?]
  | succ count ih =>
    cases items with
    | nil => simp [takeExactly?]
    | cons item items => simp [takeExactly?, ih]

def bytesOfWord16 (word : UInt16) : List UInt8 := [(word >>> 8).toUInt8, word.toUInt8]

def bytesOfWord32 (word : UInt32) : List UInt8 :=
  [(word >>> 24).toUInt8, (word >>> 16).toUInt8, (word >>> 8).toUInt8, word.toUInt8]

def word16OfBytes (high low : UInt8) : UInt16 := (high.toUInt16 <<< 8) ||| low.toUInt16

def word32OfBytes (a b c d : UInt8) : UInt32 :=
  (a.toUInt32 <<< 24) ||| (b.toUInt32 <<< 16) ||| (c.toUInt32 <<< 8) ||| d.toUInt32

/-! ## Words and their bytes -/

/-- A byte joins the bytes in front of it, at any place of a word. -/
theorem shiftLeft_or_shiftLeft {low : Nat} (hlow : low < 256) (high place : Nat) :
    high <<< (8 + place) ||| low <<< place = (256 * high + low) <<< place := by
  rw [Nat.shiftLeft_add, ← Nat.shiftLeft_or_distrib, ← Nat.shiftLeft_add_eq_or_of_lt hlow,
    Nat.shiftLeft_eq high, Nat.mul_comm high]

theorem toNat_word16OfBytes (high low : UInt8) :
    (word16OfBytes high low).toNat = 256 * high.toNat + low.toNat := by
  have hhigh := high.toNat_lt
  have hjoin := shiftLeft_or_shiftLeft low.toNat_lt high.toNat 0
  simp only [Nat.add_zero, Nat.shiftLeft_zero] at hjoin
  have hfits : high.toNat <<< 8 % 2 ^ 16 = high.toNat <<< 8 :=
    Nat.mod_eq_of_lt (by rw [Nat.shiftLeft_eq]; omega)
  simp only [word16OfBytes, UInt16.toNat_or, UInt16.toNat_shiftLeft, UInt8.toNat_toUInt16,
    UInt16.reduceToNat, Nat.reduceMod]
  rw [hfits, hjoin]

theorem toNat_word32OfBytes (a b c d : UInt8) :
    (word32OfBytes a b c d).toNat =
      256 * (256 * (256 * a.toNat + b.toNat) + c.toNat) + d.toNat := by
  have hfits {byte : UInt8} {place : Nat} (hplace : place ≤ 24) :
      byte.toNat <<< place % 2 ^ 32 = byte.toNat <<< place := by
    apply Nat.mod_eq_of_lt
    calc byte.toNat <<< place = byte.toNat * 2 ^ place := Nat.shiftLeft_eq _ _
      _ < 2 ^ 8 * 2 ^ place := Nat.mul_lt_mul_of_pos_right byte.toNat_lt (Nat.two_pow_pos place)
      _ ≤ 2 ^ 8 * 2 ^ 24 := Nat.mul_le_mul_left _ (Nat.pow_le_pow_right (by decide) hplace)
  have hab := shiftLeft_or_shiftLeft b.toNat_lt a.toNat 16
  have habc := shiftLeft_or_shiftLeft c.toNat_lt (256 * a.toNat + b.toNat) 8
  have habcd :=
    shiftLeft_or_shiftLeft d.toNat_lt (256 * (256 * a.toNat + b.toNat) + c.toNat) 0
  simp only [Nat.add_zero, Nat.shiftLeft_zero, Nat.reduceAdd] at hab habc habcd
  simp only [word32OfBytes, UInt32.toNat_or, UInt32.toNat_shiftLeft, UInt8.toNat_toUInt32,
    UInt32.reduceToNat, Nat.reduceMod]
  rw [hfits (by decide), hfits (by decide), hfits (by decide), hab, habc, habcd]

@[simp]
theorem bytesOfWord16_word16OfBytes (high low : UInt8) :
    bytesOfWord16 (word16OfBytes high low) = [high, low] := by
  have hhigh := high.toNat_lt
  have hlow := low.toNat_lt
  simp [bytesOfWord16, ← UInt8.toNat_inj, toNat_word16OfBytes, Nat.shiftRight_eq_div_pow]
  omega

@[simp]
theorem bytesOfWord32_word32OfBytes (a b c d : UInt8) :
    bytesOfWord32 (word32OfBytes a b c d) = [a, b, c, d] := by
  have ha := a.toNat_lt
  have hb := b.toNat_lt
  have hc := c.toNat_lt
  have hd := d.toNat_lt
  simp [bytesOfWord32, ← UInt8.toNat_inj, toNat_word32OfBytes, Nat.shiftRight_eq_div_pow]
  omega

theorem word16OfBytes_bytesOfWord16 (word : UInt16) :
    word16OfBytes (word >>> 8).toUInt8 word.toUInt8 = word := by
  have hword := word.toNat_lt
  simp [← UInt16.toNat_inj, toNat_word16OfBytes, Nat.shiftRight_eq_div_pow]
  omega

theorem word32OfBytes_bytesOfWord32 (word : UInt32) :
    word32OfBytes (word >>> 24).toUInt8 (word >>> 16).toUInt8 (word >>> 8).toUInt8 word.toUInt8 =
      word := by
  have hword := word.toNat_lt
  simp [← UInt32.toNat_inj, toNat_word32OfBytes, Nat.shiftRight_eq_div_pow]
  omega

end MicroVm

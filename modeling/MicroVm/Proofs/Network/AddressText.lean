import MicroVm.Network.Ipv4
import MicroVm.Proofs.Text.Digits
import MicroVm.Proofs.Text.Splitting

/-!
# The dotted text of an address

An address is read back from its dotted text: the points part its four numbers, none of which has
more than three digits or a zero in front. No other text is read as an address.
-/

namespace MicroVm.Network.Ipv4

theorem readPart?_decimal (byte : UInt8) : readPart? (Text.decimal byte.toNat) = some byte := by
  have hlt := byte.toNat_lt
  have hlength : (Text.decimal byte.toNat).length ≤ 3 :=
    (Text.length_decimal_le_iff (by decide)).2 (by omega)
  have hdigits : (Text.decimal byte.toNat).all Char.isDigit = true :=
    List.all_eq_true.2 fun c ↦ Text.isDigit_of_mem_decimal
  have hzero : ¬ (1 < (Text.decimal byte.toNat).length ∧
      (Text.decimal byte.toNat).head? = some '0') := by
    rw [Text.head?_decimal_eq_zero_iff]
    rintro ⟨hlong, hbyte⟩
    rw [hbyte, Text.decimal_zero] at hlong
    exact absurd hlong (by decide)
  have hempty : (Text.decimal byte.toNat).isEmpty = false :=
    List.isEmpty_eq_false_iff.2 (Text.decimal_ne_nil _)
  have hbound : byte.toNat ≤ 255 := by omega
  simp only [readPart?, hempty, hdigits, Text.valueOfDigits_decimal]
  rw [if_neg (by simpa using hlength), if_neg (by simpa using hzero), if_pos hbound,
    UInt8.ofNat_toNat]

/-- A part is read when it is the number of a byte as numbers are written. -/
theorem readPart?_eq_some_iff {part : List Char} {byte : UInt8} :
    readPart? part = some byte ↔ part = Text.decimal byte.toNat := by
  constructor
  · intro hread
    rw [readPart?] at hread
    split at hread
    · cases hread
    next hform =>
      simp only [Bool.or_eq_true, List.isEmpty_iff, decide_eq_true_eq, Bool.not_eq_eq_eq_not,
        Bool.not_true, not_or, Bool.not_eq_false, List.all_eq_true] at hform
      obtain ⟨⟨hne, -⟩, hdigits⟩ := hform
      split at hread
      · cases hread
      next hzero =>
        simp only [Bool.and_eq_true, decide_eq_true_eq, beq_iff_eq, not_and] at hzero
        have hpart := Text.decimal_valueOfDigits hne hdigits hzero
        simp only [Option.ite_none_right_eq_some, Option.some.injEq] at hread
        obtain ⟨hbound, rfl⟩ := hread
        rw [UInt8.toNat_ofNat_of_lt' (by rw [UInt8.size]; omega), hpart]
  · rintro rfl
    exact readPart?_decimal byte

theorem joinBytes_eq_intercalate (bytes : List UInt8) :
    joinBytes bytes = ['.'].intercalate (bytes.map fun byte ↦ Text.decimal byte.toNat) :=
  Text.eq_intercalate_map rfl (fun _ ↦ rfl) (fun _ _ _ ↦ rfl) bytes

theorem splitOn_joinBytes {bytes : List UInt8} (hne : bytes ≠ []) :
    Text.splitOn '.' (joinBytes bytes) = bytes.map fun byte ↦ Text.decimal byte.toNat := by
  rw [joinBytes_eq_intercalate]
  refine Text.splitOn_intercalate (fun part hpart ↦ ?_) (mt List.map_eq_nil_iff.1 hne)
  obtain ⟨byte, -, rfl⟩ := List.mem_map.1 hpart
  exact Text.notMem_decimal rfl byte.toNat

/-- An address is read back from its text. -/
theorem parse?_chars (address : Ipv4) : parse? address.chars = some address := by
  rw [chars, bytes, bytesOfWord32, parse?, splitOn_joinBytes (List.cons_ne_nil _ _)]
  simp only [List.map, readPart?_decimal, Option.pure_def, Option.bind_eq_bind, Option.bind_some,
    ofBytes, word32OfBytes_bytesOfWord32]

/-- The text of an address is the only one that is read as it. -/
theorem parse?_eq_some_iff {text : List Char} {address : Ipv4} :
    parse? text = some address ↔ text = address.chars := by
  constructor
  · intro hparse
    rw [parse?] at hparse
    split at hparse
    next a b c d hparts =>
      obtain ⟨first, hfirst, hparse⟩ := Option.bind_eq_some_iff.1 hparse
      obtain ⟨second, hsecond, hparse⟩ := Option.bind_eq_some_iff.1 hparse
      obtain ⟨third, hthird, hparse⟩ := Option.bind_eq_some_iff.1 hparse
      obtain ⟨fourth, hfourth, hparse⟩ := Option.bind_eq_some_iff.1 hparse
      cases hparse
      rw [readPart?_eq_some_iff] at hfirst hsecond hthird hfourth
      have htext := Text.intercalate_splitOn '.' text
      rw [hparts, hfirst, hsecond, hthird, hfourth] at htext
      rw [chars, bytes, ofBytes, bytesOfWord32_word32OfBytes, joinBytes_eq_intercalate, ← htext]
      rfl
    · cases hparse
  · rintro rfl
    exact parse?_chars address

/-- The text of an address is the only one that is read as it. -/
theorem parse?_toList_eq_some_iff {given : String} {address : Ipv4} :
    parse? given.toList = some address ↔ given = address.text := by
  rw [parse?_eq_some_iff, text]
  constructor
  · intro htext
    rw [← htext, String.ofList_toList]
  · rintro rfl
    rw [String.toList_ofList]

theorem parse?_text (address : Ipv4) : parse? address.text.toList = some address :=
  parse?_toList_eq_some_iff.2 rfl

theorem text_injective : Function.Injective text := by
  intro address other htext
  have hother := parse?_text other
  rw [← htext, parse?_text] at hother
  exact Option.some.inj hother

end MicroVm.Network.Ipv4

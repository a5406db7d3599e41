import MicroVm.Network.Cidr
import MicroVm.Network.Mac
import MicroVm.Proofs.Network.AddressText
import MicroVm.Proofs.Text.Numerals

/-!
# Which texts are addresses

A hardware address may be spelled with any numerals of its bytes, and the length of a prefix with
any of its numerals: they may have a sign or zeros in front. An address is written in one of its
spellings, so what was read from any other spelling is the same after it was written.
-/

namespace MicroVm.Network

variable {text : List Char}

/-- A numeral is read as a byte when it is one of the byte. -/
theorem map_readNumeral_eq_ok_iff {radix : ℕ} (hradix : 0 < radix ∧ radix ≤ 16) {byte : UInt8} :
    (Text.readNumeral radix 0xff text).map UInt8.ofNat = .ok byte ↔
      Text.IsNumeral radix text byte.toNat := by
  have hbyte := byte.toNat_lt
  refine Text.map_readNumeral_eq_ok_iff_toNat hradix (by omega) UInt8.ofNat_toNat fun n hn ↦ ?_
  exact UInt8.toNat_ofNat_of_lt' (by rw [UInt8.size]; omega)

/-! ## Hardware addresses -/

theorem ofBytes?_eq_some_iff {size : ℕ} {bytes : List UInt8} {octets : Octets size} :
    Octets.ofBytes? size bytes = some octets ↔ bytes = octets.bytes := by
  rw [Octets.ofBytes?]
  split
  next hlength => rw [Option.some_inj, Octets.ext_iff]
  next hlength =>
    refine iff_of_false nofun ?_
    rintro rfl
    exact hlength octets.length_bytes

namespace Mac

variable {mac : Mac} {byte : UInt8}

/-- Whether a text has numerals of the bytes of an address, with colons between them. -/
def IsSpelling (text : List Char) (mac : Mac) : Prop :=
  ∃ parts, text = [':'].intercalate parts ∧
    List.Forall₂ (fun part byte ↦ Text.IsNumeral 16 part byte.toNat) parts mac.octets.bytes

theorem readOctet_eq_ok_iff : readOctet text = .ok byte ↔ Text.IsNumeral 16 text byte.toNat :=
  map_readNumeral_eq_ok_iff (by decide)

theorem parse_eq_ok_iff : parse text = .ok mac ↔ IsSpelling text mac := by
  constructor
  · intro hparse
    simp only [parse] at hparse
    split at hparse
    · split at hparse
      next bytes hbytes =>
        split at hparse
        next octets hoctets =>
          cases hparse
          rw [ofBytes?_eq_some_iff.1 hoctets, Text.mapM_eq_ok_iff] at hbytes
          exact ⟨Text.splitOn ':' text, (Text.intercalate_splitOn ':' text).symm,
            hbytes.imp fun _ _ ↦ readOctet_eq_ok_iff.1⟩
        · cases hparse
      · cases hparse
    · cases hparse
  · rintro ⟨parts, rfl, hparts⟩
    have hlength : parts.length = 6 := hparts.length_eq.trans mac.octets.length_bytes
    have hne : parts ≠ [] := List.ne_nil_of_length_eq_add_one hlength
    have hcolons : ∀ part ∈ parts, ':' ∉ part := by
      intro part hpart
      obtain ⟨byte, hbyte⟩ := Text.exists_of_mem_left hparts hpart
      exact hbyte.notMem (by decide) rfl (by decide)
    have hbytes : parts.mapM readOctet = .ok mac.octets.bytes :=
      Text.mapM_eq_ok_iff.2 (hparts.imp fun _ _ ↦ readOctet_eq_ok_iff.2)
    simp only [parse, Text.splitOn_intercalate hcolons hne, hbytes, if_pos hlength,
      ofBytes?_eq_some_iff.2 rfl]

theorem isSpelling_chars (mac : Mac) : IsSpelling mac.chars mac := by
  refine ⟨mac.octets.bytes.map Text.hexByte, ?_, ?_⟩
  · exact Text.eq_intercalate_map rfl (fun _ ↦ rfl) (fun _ _ _ ↦ rfl) _
  · exact List.forall₂_map_left_iff.2 (List.forall₂_same.2 fun byte _ ↦ Text.isNumeral_hexByte byte)

end Mac

/-! ## Addresses in a subnet -/

namespace Cidr

variable {cidr : Cidr} {n : ℕ} {front length : List Char}

/-- Whether a text has the dotted text of an address, a slash and a numeral of the length of its
prefix. -/
def IsSpelling (text : List Char) (cidr : Cidr) : Prop :=
  ∃ length, text = cidr.address.chars ++ '/' :: length ∧
    Text.IsNumeral 10 length cidr.prefixLength

theorem slash_notMem_chars (address : Ipv4) : '/' ∉ address.chars := by
  have hdecimal (n : ℕ) : '/' ∉ Text.decimal n := Text.notMem_decimal rfl n
  simp [Ipv4.chars, Ipv4.bytes, bytesOfWord32, Ipv4.joinBytes, hdecimal]

/-- An address and a prefix length are put together as they are. -/
theorem of_eq_ok_iff {address : Ipv4} :
    of address n = .ok cidr ↔ cidr.address = address ∧ cidr.prefixLength = n := by
  rw [of]
  split
  next hle =>
    rw [Except.ok.injEq, Cidr.ext_iff]
    exact and_congr eq_comm eq_comm
  next hlarge =>
    refine iff_of_false nofun ?_
    rintro ⟨-, rfl⟩
    exact hlarge cidr.prefixLength_le

theorem parse_eq_ok_iff : parse text = .ok cidr ↔ IsSpelling text cidr := by
  constructor
  · intro hparse
    rw [parse] at hparse
    split at hparse
    · cases hparse
    next address length hsplit =>
      split at hparse
      · cases hparse
      next found hfound =>
        split at hparse
        · cases hparse
        next byte hbyte =>
          obtain ⟨rfl, hlength⟩ := of_eq_ok_iff.1 hparse
          obtain rfl := Ipv4.parse?_eq_some_iff.1 hfound
          refine ⟨length, (Text.splitOnce_eq_some_iff.1 hsplit).1, ?_⟩
          rw [hlength]
          exact (map_readNumeral_eq_ok_iff (by decide)).1 hbyte
  · rintro ⟨length, rfl, hlength⟩
    have hprefix := cidr.prefixLength_le
    have hround : (UInt8.ofNat cidr.prefixLength).toNat = cidr.prefixLength :=
      UInt8.toNat_ofNat_of_lt' (by rw [UInt8.size]; omega)
    have hbyte : Text.readByte length = .ok (UInt8.ofNat cidr.prefixLength) :=
      (map_readNumeral_eq_ok_iff (by decide)).2 (hround.symm ▸ hlength)
    rw [parse, Text.splitOnce_append_cons (slash_notMem_chars cidr.address)]
    simp only [Ipv4.parse?_chars, hbyte, of_eq_ok_iff, hround, and_self]

theorem isSpelling_chars (cidr : Cidr) : IsSpelling cidr.chars cidr :=
  ⟨Text.decimal cidr.prefixLength, List.append_assoc _ _ _, Text.isNumeral_decimal _⟩

/-- What stands after the slash is the length of the prefix, whatever stands before it. -/
theorem prefixLength_of_parse (hlength : Text.IsNumeral 10 length n)
    (hparse : parse (front ++ '/' :: length) = .ok cidr) : cidr.prefixLength = n := by
  obtain ⟨spelled, htext, hspelled⟩ := parse_eq_ok_iff.1 hparse
  have hslash : '/' ∉ spelled := hspelled.notMem (by decide) rfl (by decide)
  obtain ⟨-, -, rfl⟩ :=
    (List.append_cons_inj_of_notMem (slash_notMem_chars cidr.address) hslash).1 htext.symm
  exact hspelled.unique (by decide) hlength

/-- No prefix is longer than an address. -/
theorem parse_of_long_prefix (hlength : Text.IsNumeral 10 length n) (hlong : 32 < n) :
    ∃ fault, parse (front ++ '/' :: length) = .error fault := by
  cases hparse : parse (front ++ '/' :: length) with
  | error fault => exact ⟨fault, rfl⟩
  | ok cidr =>
    have hn := prefixLength_of_parse hlength hparse
    have hle := cidr.prefixLength_le
    omega

end Cidr

/-! ## Reading and writing -/

/-- Whether a reader takes the spellings of values and no other texts, and a value that is written
after it was read from any of them, or that is written at all, is read back. -/
structure ReadsBack {α ε : Type} (write : α → String) (read : List Char → Except ε α)
    (IsSpelling : List Char → α → Prop) : Prop where
  read_eq_ok_iff : ∀ given value, read given = .ok value ↔ IsSpelling given value
  read_write : ∀ value, read (write value).toList = .ok value
  read_write_read : ∀ given value, read given = .ok value → read (write value).toList = read given

/-- A reader that takes the spellings of a value reads it back if it is written as one. -/
theorem readsBack_of_isSpelling {α ε : Type} {write : α → String}
    {read : List Char → Except ε α} {IsSpelling : List Char → α → Prop}
    (hread : ∀ given value, read given = .ok value ↔ IsSpelling given value)
    (hwrite : ∀ value, IsSpelling (write value).toList value) :
    ReadsBack write read IsSpelling := by
  have hback (value : α) : read (write value).toList = .ok value := (hread _ _).2 (hwrite value)
  exact ⟨hread, hback, fun _ value hgiven ↦ (hback value).trans hgiven.symm⟩

theorem Mac.readsBack : ReadsBack Mac.text Mac.parse Mac.IsSpelling := by
  refine readsBack_of_isSpelling (fun _ _ ↦ Mac.parse_eq_ok_iff) fun mac ↦ ?_
  rw [Mac.text, String.toList_ofList]
  exact mac.isSpelling_chars

theorem Cidr.readsBack : ReadsBack Cidr.text Cidr.parse Cidr.IsSpelling := by
  refine readsBack_of_isSpelling (fun _ _ ↦ Cidr.parse_eq_ok_iff) fun cidr ↦ ?_
  rw [Cidr.text, String.toList_ofList]
  exact cidr.isSpelling_chars

/-- Hardware addresses and addresses in a subnet are read back from their texts, and from any other
spelling as the same address. No length of a prefix over 32 is accepted. -/
theorem addresses_readBack :
    ReadsBack Mac.text Mac.parse Mac.IsSpelling ∧ ReadsBack Cidr.text Cidr.parse Cidr.IsSpelling ∧
      (∀ given cidr, Cidr.parse given = .ok cidr → cidr.prefixLength ≤ 32) ∧
      ∀ front length n, Text.IsNumeral 10 length n → 32 < n →
        ∃ fault, Cidr.parse (front ++ '/' :: length) = .error fault :=
  ⟨Mac.readsBack, Cidr.readsBack, fun _ cidr _ ↦ cidr.prefixLength_le,
    fun _ _ _ hlength hlong ↦ Cidr.parse_of_long_prefix hlength hlong⟩

-- a sign, zeros in front and capital letters are read, and are not written
example : (Mac.parse "+2:42:0:000a:fF:1".toList).map Mac.text = .ok "02:42:00:0a:ff:01" := by decide

example : (Cidr.parse "10.0.0.5/+024".toList).map Cidr.text = .ok "10.0.0.5/24" := by decide

end MicroVm.Network

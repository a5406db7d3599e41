import MicroVm.Proofs.Dhcp.V4.Encoding

/-!
# The format of packets

Which bytes are a packet, and of which one, is said here by places: each field is the number that
its bytes stand for, the most significant byte first, and the options are what the bytes after the
mark spell. Reading accepts just these bytes. All others are refused with the fault that they have,
and there are no bytes that reading takes a byte too many of.
-/

namespace MicroVm.Dhcp.V4

open MicroVm.Network

/-- The number that bytes stand for, the most significant first. -/
def bigEndian (bytes : List UInt8) : Nat :=
  bytes.foldl (fun number byte ↦ 256 * number + byte.toNat) 0

theorem bigEndian_bytesOfWord16 (word : UInt16) : bigEndian (bytesOfWord16 word) = word.toNat := by
  rw [← word16OfBytes_bytesOfWord16 word, bytesOfWord16_word16OfBytes, toNat_word16OfBytes]
  simp [bigEndian]

theorem bigEndian_bytesOfWord32 (word : UInt32) : bigEndian (bytesOfWord32 word) = word.toNat := by
  rw [← word32OfBytes_bytesOfWord32 word, bytesOfWord32_word32OfBytes, toNat_word32OfBytes]
  simp [bigEndian]

/-- The bytes from one place up to another. -/
def slice (bytes : List UInt8) (start stop : Nat) : List UInt8 :=
  (bytes.drop start).take (stop - start)

/-- Whether the fixed fields of a packet stand in bytes, each at its place. -/
structure HasFields (bytes : List UInt8) (packet : Packet) : Prop where
  op : slice bytes 0 1 = [packet.op]
  hardwareKind : slice bytes 1 2 = [packet.hardwareKind]
  hardwareLength : slice bytes 2 3 = [packet.hardwareLength]
  hops : slice bytes 3 4 = [packet.hops]
  transaction : bigEndian (slice bytes 4 8) = packet.transaction.toNat
  seconds : bigEndian (slice bytes 8 10) = packet.seconds.toNat
  flags : bigEndian (slice bytes 10 12) = packet.flags.toNat
  clientAddress : bigEndian (slice bytes 12 16) = packet.clientAddress.bits.toNat
  yourAddress : bigEndian (slice bytes 16 20) = packet.yourAddress.bits.toNat
  serverAddress : bigEndian (slice bytes 20 24) = packet.serverAddress.bits.toNat
  relayAddress : bigEndian (slice bytes 24 28) = packet.relayAddress.bits.toNat
  hardwareAddress : slice bytes 28 44 = packet.hardwareAddress.bytes

/-- Whether bytes are a packet: long enough, with the mark in its place, the options spelled after
it, and the fixed fields in front. -/
structure IsPacket (bytes : List UInt8) (packet : Packet) : Prop where
  long : 240 ≤ bytes.length
  cookie : slice bytes 236 240 = [99, 130, 83, 99]
  options : Spells (bytes.drop 240) packet.options
  fields : HasFields bytes packet

/-- What is wrong with bytes that are no packet. -/
inductive IsRefused (bytes : List UInt8) : PacketFault → Prop
  | tooShort (hshort : bytes.length < 240) : IsRefused bytes (.tooShort bytes.length)
  | badCookie (hlong : 240 ≤ bytes.length) (hcookie : slice bytes 236 240 ≠ [99, 130, 83, 99]) :
      IsRefused bytes (.badCookie (slice bytes 236 240))
  | optionTruncated {code : UInt8} (hlong : 240 ≤ bytes.length)
      (hcookie : slice bytes 236 240 = [99, 130, 83, 99]) (hcut : CutsOff (bytes.drop 240) code) :
      IsRefused bytes (.optionTruncated code)

/-! ## The places of the fields -/

theorem slice_append (front middle rest : List UInt8) :
    slice (front ++ (middle ++ rest)) front.length (front.length + middle.length) = middle := by
  simp [slice]

theorem hasFields_append (packet : Packet) (rest : List UInt8) :
    HasFields (packet.encodeFields ++ rest) packet where
  op := rfl
  hardwareKind := rfl
  hardwareLength := rfl
  hops := rfl
  transaction := bigEndian_bytesOfWord32 packet.transaction
  seconds := bigEndian_bytesOfWord16 packet.seconds
  flags := bigEndian_bytesOfWord16 packet.flags
  clientAddress := bigEndian_bytesOfWord32 packet.clientAddress.bits
  yourAddress := bigEndian_bytesOfWord32 packet.yourAddress.bits
  serverAddress := bigEndian_bytesOfWord32 packet.serverAddress.bits
  relayAddress := bigEndian_bytesOfWord32 packet.relayAddress.bits
  hardwareAddress := by
    change (packet.hardwareAddress.bytes ++ [] ++ rest).take 16 = _
    rw [List.append_nil, List.take_left' packet.hardwareAddress.length_bytes]

/-- The fixed fields are those of one packet only, but for its options. -/
theorem HasFields.unique {bytes : List UInt8} {packet other : Packet}
    (hfields : HasFields bytes packet) (hothers : HasFields bytes other) :
    packet = { other with options := packet.options } := by
  have haddress {number : Nat} {address another : Ipv4} (h : number = address.bits.toNat)
      (hother : number = another.bits.toNat) : address = another :=
    Ipv4.ext (UInt32.toNat_inj.1 (h.symm.trans hother))
  cases packet
  simp only [Packet.mk.injEq, and_true]
  refine ⟨?_, ?_, ?_, ?_, ?_, ?_, ?_, ?_, ?_, ?_, ?_, ?_⟩
  · exact List.singleton_inj.1 (hfields.op.symm.trans hothers.op)
  · exact List.singleton_inj.1 (hfields.hardwareKind.symm.trans hothers.hardwareKind)
  · exact List.singleton_inj.1 (hfields.hardwareLength.symm.trans hothers.hardwareLength)
  · exact List.singleton_inj.1 (hfields.hops.symm.trans hothers.hops)
  · exact UInt32.toNat_inj.1 (hfields.transaction.symm.trans hothers.transaction)
  · exact UInt16.toNat_inj.1 (hfields.seconds.symm.trans hothers.seconds)
  · exact UInt16.toNat_inj.1 (hfields.flags.symm.trans hothers.flags)
  · exact haddress hfields.clientAddress hothers.clientAddress
  · exact haddress hfields.yourAddress hothers.yourAddress
  · exact haddress hfields.serverAddress hothers.serverAddress
  · exact haddress hfields.relayAddress hothers.relayAddress
  · exact Octets.ext (hfields.hardwareAddress.symm.trans hothers.hardwareAddress)

namespace Packet

variable {packet : Packet}

variable {unused : Octets unusedLength} {area : List UInt8}

theorem slice_cookie (cookie : Octets magicCookie.length) :
    slice (packet.encodeFields ++ (unused.bytes ++ (cookie.bytes ++ area))) 236 240 =
      cookie.bytes := by
  have hplace := slice_append (packet.encodeFields ++ unused.bytes) cookie.bytes area
  rwa [List.append_assoc, List.length_append, packet.length_encodeFields, unused.length_bytes,
    cookie.length_bytes] at hplace

/-- The options begin 240 bytes into a packet. -/
theorem drop_area (cookie : Octets magicCookie.length) :
    (packet.encodeFields ++ (unused.bytes ++ (cookie.bytes ++ area))).drop 240 = area := by
  have hlength : (packet.encodeFields ++ (unused.bytes ++ cookie.bytes)).length = 240 := by
    rw [List.length_append, List.length_append, packet.length_encodeFields, unused.length_bytes,
      cookie.length_bytes]
    rfl
  rw [← List.append_assoc unused.bytes, ← List.append_assoc, List.drop_left' hlength]

/-! ## Reading and the format -/

/-- The bytes of the fixed fields, bytes that are not used, the mark and options. -/
theorem isPacket_append (unused : Octets unusedLength) (hspells : Spells area packet.options) :
    IsPacket (packet.encodeFields ++ (unused.bytes ++ (magicCookie ++ area))) packet where
  long := by
    simp [packet.length_encodeFields, unused.length_bytes, fieldsLength, unusedLength, magicCookie]
    omega
  cookie := slice_cookie ⟨magicCookie, rfl⟩
  options := by
    rw [drop_area ⟨magicCookie, rfl⟩]
    exact hspells
  fields := hasFields_append packet _

/-- The bytes of a packet are decoded to it. -/
theorem decode_of_isPacket {bytes : List UInt8} (hpacket : IsPacket bytes packet) :
    decode bytes = .ok packet := by
  obtain ⟨front, unused, cookie, area, -, rfl⟩ := exists_layout bytes hpacket.long
  have hcookie : cookie.bytes = magicCookie := (slice_cookie cookie).symm.trans hpacket.cookie
  have hspells := hpacket.options
  rw [drop_area] at hspells
  rw [hcookie, decode_append_eq_ok_iff]
  exact ⟨hspells, hpacket.fields.unique (hasFields_append front _)⟩

theorem decode_of_isRefused {bytes : List UInt8} {fault : PacketFault}
    (hrefused : IsRefused bytes fault) : decode bytes = .error fault := by
  rw [decode_eq_error_iff]
  cases hrefused with
  | tooShort hshort => exact read_short hshort
  | badCookie hlong hcookie =>
    obtain ⟨front, unused, cookie, area, -, rfl⟩ := exists_layout bytes hlong
    rw [slice_cookie] at hcookie ⊢
    have hother : cookie.bytes ≠ magicCookie := hcookie
    rw [read_append, if_neg hother]
  | optionTruncated hlong hcookie hcut =>
    obtain ⟨front, unused, cookie, area, -, rfl⟩ := exists_layout bytes hlong
    rw [drop_area] at hcut
    have hmark : cookie.bytes = magicCookie := (slice_cookie cookie).symm.trans hcookie
    rw [read_append, if_pos hmark, readOptions_of_cutsOff hcut]
    rfl

/-- All bytes are a packet or have something wrong. -/
theorem isPacket_or_isRefused (bytes : List UInt8) :
    (∃ packet, IsPacket bytes packet) ∨ ∃ fault, IsRefused bytes fault := by
  by_cases hlong : 240 ≤ bytes.length
  · by_cases hcookie : slice bytes 236 240 = [99, 130, 83, 99]
    · obtain ⟨options, hspells⟩ | ⟨code, hcut⟩ := spells_or_cutsOff (bytes.drop 240)
      · obtain ⟨front, unused, cookie, area, -, rfl⟩ := exists_layout bytes hlong
        let packet : Packet := { front with options }
        have hfields := hasFields_append packet (unused.bytes ++ (cookie.bytes ++ area))
        exact .inl ⟨packet, hlong, hcookie, hspells, hfields⟩
      · exact .inr ⟨_, .optionTruncated hlong hcookie hcut⟩
    · exact .inr ⟨_, .badCookie hlong hcookie⟩
  · exact .inr ⟨_, .tooShort (by omega)⟩

theorem decode_eq_ok_iff_isPacket {bytes : List UInt8} :
    decode bytes = .ok packet ↔ IsPacket bytes packet :=
  (outcome_iff_of_total (fun _ ↦ decode_of_isPacket) (fun _ ↦ decode_of_isRefused)
    (isPacket_or_isRefused bytes)).1 packet

theorem decode_eq_error_iff_isRefused {bytes : List UInt8} {fault : PacketFault} :
    decode bytes = .error fault ↔ IsRefused bytes fault :=
  (outcome_iff_of_total (fun _ ↦ decode_of_isPacket) (fun _ ↦ decode_of_isRefused)
    (isPacket_or_isRefused bytes)).2 fault

/-- A packet that was read comes back without its empty options when it is written and read
again. -/
theorem decode_encode_of_decode {bytes : List UInt8} (hdecode : decode bytes = .ok packet) :
    decode packet.encode =
      .ok { packet with options := packet.options.filter fun entry ↦ entry.2 ≠ [] } := by
  have hmem := (decode_eq_ok_iff_isPacket.1 hdecode).options.forall_mem
  rw [decode_encode_of_codes fun entry h ↦ (hmem entry h).1,
    cutOptions_of_short fun entry h ↦ (hmem entry h).2]

/-- Bytes are read as a packet exactly when they are it, and are refused exactly for what is wrong
with them when they are none. Reading never takes more bytes than there are. -/
theorem decode_iff_format (bytes : List UInt8) :
    (∀ packet, decode bytes = .ok packet ↔ IsPacket bytes packet) ∧
    (∀ fault, decode bytes = .error fault ↔ IsRefused bytes fault) ∧
    ((∀ packet, ¬ IsPacket bytes packet) ↔ ∃ fault, decode bytes = .error fault) ∧
    read bytes ≠ .error .overrun ∧
    ∀ packet, decode bytes = .ok packet → decode packet.encode =
      .ok { packet with options := packet.options.filter fun entry ↦ entry.2 ≠ [] } := by
  refine ⟨fun _ ↦ decode_eq_ok_iff_isPacket, fun _ ↦ decode_eq_error_iff_isRefused, ?_,
    read_ne_overrun bytes, fun _ ↦ decode_encode_of_decode⟩
  constructor
  · intro hnone
    cases hdecode : decode bytes with
    | ok packet => exact absurd (decode_eq_ok_iff_isPacket.1 hdecode) (hnone packet)
    | error fault => exact ⟨fault, rfl⟩
  · rintro ⟨fault, hfault⟩ packet hpacket
    rw [decode_of_isPacket hpacket] at hfault
    cases hfault

/-- A filler, an empty option, a value that holds the codes of filler and end, and an end with bytes
of an option after it. -/
theorem decode_iff_format_fillers :
    let packet : Packet := ⟨1, 1, 6, 0, 7, 0, 0x8000, .unspecified, .unspecified, .unspecified,
      .unspecified, .zero 16, [(12, []), (61, [255, 0])]⟩
    let unused : Octets unusedLength := .zero unusedLength
    let bytes := packet.encodeFields ++ (unused.bytes ++
      (magicCookie ++ [0, 12, 0, 61, 2, 255, 0, 255, 53, 9]))
    IsPacket bytes packet ∧ decode bytes = .ok packet ∧
      decode packet.encode = .ok { packet with options := [(61, [255, 0])] } := by
  intro packet unused bytes
  have hoption : Spells ([61, 2] ++ ([255, 0] ++ [255, 53, 9])) [(61, [255, 0])] :=
    .option (by decide) rfl (.last [53, 9])
  have hempty : Spells ([12, 0] ++ ([] ++ [61, 2, 255, 0, 255, 53, 9])) packet.options :=
    .option (by decide) rfl hoption
  have hpacket : IsPacket bytes packet := isPacket_append unused (.filler hempty)
  obtain ⟨hformat, -, -, -, hback⟩ := decode_iff_format bytes
  have hdecode := (hformat packet).2 hpacket
  exact ⟨hpacket, hdecode, hback packet hdecode⟩

end Packet

end MicroVm.Dhcp.V4

import MicroVm.ByteReader
import MicroVm.Dhcp.V4.Packet

/-!
# DHCPv4 packets on the wire

The fixed fields take 44 bytes, 192 bytes are not used, and four bytes mark what follows as
options. An option is its code, the length of its value and the value; a filler is a code without
a length, and the end code leaves what comes after it unread. A value longer than 255 bytes is
written as several options of the same code. Packets are filled up to 300 bytes.

Reading never takes a byte that is not there. This is proved of the reader before the result of a
reading is defined, which so needs no end for it.
-/

namespace MicroVm.Dhcp.V4

open MicroVm.Network MicroVm.ByteReader

inductive PacketFault
  | tooShort (length : Nat)
  | badCookie (bytes : List UInt8)
  | optionTruncated (code : UInt8)
  deriving DecidableEq, Repr

def joinNumbers : List UInt8 → String
  | [] => ""
  | [byte] => s!"{byte.toNat}"
  | byte :: bytes => s!"{byte.toNat}, " ++ joinNumbers bytes

def PacketFault.message : PacketFault → String
  | .tooShort length => s!"packet too short: {length} bytes"
  | .badCookie bytes => "bad magic cookie [" ++ joinNumbers bytes ++ "]"
  | .optionTruncated code => s!"option {code.toNat} truncated"

def fieldsLength : Nat := 44

def unusedLength : Nat := 192

def headerLength : Nat := fieldsLength + unusedLength

def magicCookie : List UInt8 := [99, 130, 83, 99]

def minPacketLength : Nat := 300

/-! ## The fixed fields -/

def Packet.encodeFields (packet : Packet) : List UInt8 := List.flatten [
  [packet.op], [packet.hardwareKind], [packet.hardwareLength], [packet.hops],
  bytesOfWord32 packet.transaction, bytesOfWord16 packet.seconds, bytesOfWord16 packet.flags,
  packet.clientAddress.bytes, packet.yourAddress.bytes, packet.serverAddress.bytes,
  packet.relayAddress.bytes, packet.hardwareAddress.bytes]

theorem Packet.length_encodeFields (packet : Packet) :
    packet.encodeFields.length = fieldsLength := by
  simp [Packet.encodeFields, Ipv4.bytes, bytesOfWord16, bytesOfWord32, fieldsLength,
    packet.hardwareAddress.length_bytes]

def readAddress : ByteReader PacketFault Ipv4 := do return ⟨← word32⟩

/-- Takes the fixed fields, for a packet that has no options yet. -/
def Packet.readFields : ByteReader PacketFault Packet := do
  let op ← byte
  let hardwareKind ← byte
  let hardwareLength ← byte
  let hops ← byte
  let transaction ← word32
  let seconds ← word16
  let flags ← word16
  let clientAddress ← readAddress
  let yourAddress ← readAddress
  let serverAddress ← readAddress
  let relayAddress ← readAddress
  let hardwareAddress ← octets 16
  return {
    op, hardwareKind, hardwareLength, hops, transaction, seconds, flags, clientAddress,
    yourAddress, serverAddress, relayAddress, hardwareAddress, options := [] }

theorem reads_address (address : Ipv4) : Reads readAddress address.bytes address := by
  rw [← List.append_nil address.bytes]
  exact (reads_word32 address.bits).bind (reads_pure address)

theorem Packet.reads_fields (packet : Packet) :
    Reads Packet.readFields packet.encodeFields { packet with options := [] } := by
  refine (reads_byte packet.op).bind ?_
  refine (reads_byte packet.hardwareKind).bind ?_
  refine (reads_byte packet.hardwareLength).bind ?_
  refine (reads_byte packet.hops).bind ?_
  refine (reads_word32 packet.transaction).bind ?_
  refine (reads_word16 packet.seconds).bind ?_
  refine (reads_word16 packet.flags).bind ?_
  refine (reads_address packet.clientAddress).bind ?_
  refine (reads_address packet.yourAddress).bind ?_
  refine (reads_address packet.serverAddress).bind ?_
  refine (reads_address packet.relayAddress).bind ?_
  refine (reads_octets packet.hardwareAddress).bind ?_
  exact reads_pure { packet with options := [] }

/-- Bytes that are long enough begin with the fixed fields of a packet. -/
theorem Packet.exists_fields_append (bytes : List UInt8) (h : fieldsLength ≤ bytes.length) :
    ∃ (packet : Packet) (rest : List UInt8), packet.options = [] ∧
      bytes = packet.encodeFields ++ rest ∧ bytes.length = fieldsLength + rest.length := by
  unfold fieldsLength at h
  obtain ⟨op, bytes, rfl, hop⟩ := exists_byte_append bytes (by omega)
  obtain ⟨hardwareKind, bytes, rfl, hkind⟩ := exists_byte_append bytes (by omega)
  obtain ⟨hardwareLength, bytes, rfl, hsize⟩ := exists_byte_append bytes (by omega)
  obtain ⟨hops, bytes, rfl, hhops⟩ := exists_byte_append bytes (by omega)
  obtain ⟨transaction, bytes, rfl, htransaction⟩ := exists_word32_append bytes (by omega)
  obtain ⟨seconds, bytes, rfl, hseconds⟩ := exists_word16_append bytes (by omega)
  obtain ⟨flags, bytes, rfl, hflags⟩ := exists_word16_append bytes (by omega)
  obtain ⟨clientAddress, bytes, rfl, hclient⟩ := exists_word32_append bytes (by omega)
  obtain ⟨yourAddress, bytes, rfl, hyour⟩ := exists_word32_append bytes (by omega)
  obtain ⟨serverAddress, bytes, rfl, hserver⟩ := exists_word32_append bytes (by omega)
  obtain ⟨relayAddress, bytes, rfl, hrelay⟩ := exists_word32_append bytes (by omega)
  obtain ⟨hardwareAddress, bytes, rfl, hhardware⟩ := exists_octets_append 16 bytes (by omega)
  refine ⟨⟨op, hardwareKind, hardwareLength, hops, transaction, seconds, flags,
    ⟨clientAddress⟩, ⟨yourAddress⟩, ⟨serverAddress⟩, ⟨relayAddress⟩,
    hardwareAddress, []⟩, bytes, rfl, ?_, ?_⟩
  · simp [Packet.encodeFields, Ipv4.bytes]
  · unfold fieldsLength
    omega

/-! ## Reading options -/

inductive Item
  | filler
  | last
  | entry (entry : Entry)

def readItem : ByteReader PacketFault Item := do
  let code ← byte
  if code = Code.pad then return .filler
  else if code = Code.last then return .last
  else
    let left ← remaining
    if left = 0 then refuse (.optionTruncated code)
    else
      let length ← byte
      let left ← remaining
      if left < length.toNat then refuse (.optionTruncated code)
      else
        let value ← octets length.toNat
        return .entry (code, value.bytes)

/-- The ways in which the bytes of options begin: with nothing, a filler, the end, or with another
code, which then stands alone, has too few bytes for its length after it, or has its value. -/
inductive Beginning : List UInt8 → Prop
  | nothing : Beginning []
  | filler (rest : List UInt8) : Beginning (Code.pad :: rest)
  | last (rest : List UInt8) : Beginning (Code.last :: rest)
  | alone {code : UInt8} (hpad : code ≠ Code.pad) (hlast : code ≠ Code.last) : Beginning [code]
  | short {code length : UInt8} {rest : List UInt8} (hpad : code ≠ Code.pad)
      (hlast : code ≠ Code.last) (hshort : rest.length < length.toNat) :
      Beginning (code :: length :: rest)
  | entry {code length : UInt8} {value : List UInt8} (rest : List UInt8) (hpad : code ≠ Code.pad)
      (hlast : code ≠ Code.last) (hlength : value.length = length.toNat) :
      Beginning (code :: length :: (value ++ rest))

theorem beginning (bytes : List UInt8) : Beginning bytes := by
  cases bytes with
  | nil => exact .nothing
  | cons code bytes =>
    by_cases hpad : code = Code.pad
    · rw [hpad]
      exact .filler bytes
    by_cases hlast : code = Code.last
    · rw [hlast]
      exact .last bytes
    cases bytes with
    | nil => exact .alone hpad hlast
    | cons length bytes =>
      by_cases hshort : bytes.length < length.toNat
      · exact .short hpad hlast hshort
      · rw [← List.take_append_drop length.toNat bytes]
        exact .entry _ hpad hlast (List.length_take_of_le (by omega))

theorem readItem_filler (rest : List UInt8) : readItem (Code.pad :: rest) = .ok (.filler, rest) :=
  rfl

theorem readItem_last (rest : List UInt8) : readItem (Code.last :: rest) = .ok (.last, rest) :=
  rfl

section

variable {code length : UInt8} {value rest : List UInt8}

theorem readItem_alone (hpad : code ≠ Code.pad) (hlast : code ≠ Code.last) :
    readItem [code] = .error (.refused (.optionTruncated code)) := by
  simp [readItem, byte, remaining, refuse, bind, StateT.bind, Except.bind, hpad, hlast]

theorem readItem_short (hpad : code ≠ Code.pad) (hlast : code ≠ Code.last)
    (hshort : rest.length < length.toNat) :
    readItem (code :: length :: rest) = .error (.refused (.optionTruncated code)) := by
  simp [readItem, byte, remaining, refuse, bind, StateT.bind, Except.bind, hpad, hlast, hshort]

theorem readItem_entry (hpad : code ≠ Code.pad) (hlast : code ≠ Code.last)
    (hlength : value.length = length.toNat) :
    readItem (code :: length :: (value ++ rest)) = .ok (.entry (code, value), rest) := by
  have hvalue : octets length.toNat (value ++ rest) =
      (.ok (⟨value, hlength⟩, rest) : Except (Stop PacketFault) _) :=
    reads_octets ⟨value, _⟩ rest
  have henough : ¬ (value ++ rest).length < length.toNat := by
    simp [hlength]
  simp only [readItem, byte, remaining, bind, StateT.bind, Except.bind, hpad, hlast, henough,
    List.length_cons, Nat.add_one_ne_zero, if_false, hvalue]
  rfl

end

theorem length_lt_of_readItem {bytes rest : List UInt8} {item : Item}
    (hread : readItem bytes = .ok (item, rest)) : rest.length < bytes.length := by
  cases beginning bytes with
  | nothing => cases hread
  | filler rest =>
    cases hread
    exact Nat.lt_succ_self _
  | last rest =>
    cases hread
    exact Nat.lt_succ_self _
  | alone hpad hlast =>
    rw [readItem_alone hpad hlast] at hread
    cases hread
  | short hpad hlast hshort =>
    rw [readItem_short hpad hlast hshort] at hread
    cases hread
  | entry rest hpad hlast hlength =>
    rw [readItem_entry hpad hlast hlength] at hread
    cases hread
    simp
    omega

/-- Takes options up to the end code or to the end of the bytes. -/
def readOptions (bytes : List UInt8) : Except (Stop PacketFault) (List Entry × List UInt8) :=
  if bytes = [] then .ok ([], [])
  else
    match _h : readItem bytes with
    | .ok (.filler, rest) => readOptions rest
    | .ok (.last, rest) => .ok ([], rest)
    | .ok (.entry entry, rest) =>
      (readOptions rest).map fun (options, rest) ↦ (entry :: options, rest)
    | .error stop => .error stop
  termination_by bytes.length
  decreasing_by all_goals exact length_lt_of_readItem _h

theorem readOptions_nil : readOptions [] = .ok ([], []) := by
  rw [readOptions, if_pos rfl]

theorem readOptions_of_ne_nil {bytes : List UInt8} (h : bytes ≠ []) :
    readOptions bytes =
      match readItem bytes with
      | .ok (.filler, rest) => readOptions rest
      | .ok (.last, rest) => .ok ([], rest)
      | .ok (.entry entry, rest) =>
        (readOptions rest).map fun (options, rest) ↦ (entry :: options, rest)
      | .error stop => .error stop := by
  rw [readOptions, if_neg h]
  split <;> simp [*]

theorem readOptions_filler (rest : List UInt8) :
    readOptions (Code.pad :: rest) = readOptions rest := by
  rw [readOptions_of_ne_nil (List.cons_ne_nil _ _), readItem_filler]

theorem readOptions_last (rest : List UInt8) :
    readOptions (Code.last :: rest) = .ok ([], rest) := by
  rw [readOptions_of_ne_nil (List.cons_ne_nil _ _), readItem_last]

section

variable {code length : UInt8} {value rest : List UInt8}

theorem readOptions_alone (hpad : code ≠ Code.pad) (hlast : code ≠ Code.last) :
    readOptions [code] = .error (.refused (.optionTruncated code)) := by
  rw [readOptions_of_ne_nil (List.cons_ne_nil _ _), readItem_alone hpad hlast]

theorem readOptions_short (hpad : code ≠ Code.pad) (hlast : code ≠ Code.last)
    (hshort : rest.length < length.toNat) :
    readOptions (code :: length :: rest) = .error (.refused (.optionTruncated code)) := by
  rw [readOptions_of_ne_nil (List.cons_ne_nil _ _), readItem_short hpad hlast hshort]

theorem readOptions_entry (hpad : code ≠ Code.pad) (hlast : code ≠ Code.last)
    (hlength : value.length = length.toNat) :
    readOptions (code :: length :: (value ++ rest)) =
      (readOptions rest).map fun (options, rest) ↦ ((code, value) :: options, rest) := by
  rw [readOptions_of_ne_nil (List.cons_ne_nil _ _), readItem_entry hpad hlast hlength]

end

/-- Induction over the bytes of options, from one beginning to the next. -/
@[elab_as_elim]
theorem options_induction {motive : List UInt8 → Prop} (nothing : motive [])
    (filler : ∀ rest, motive rest → motive (Code.pad :: rest))
    (last : ∀ rest, motive (Code.last :: rest))
    (alone : ∀ code, code ≠ Code.pad → code ≠ Code.last → motive [code])
    (short : ∀ code (length : UInt8) rest, code ≠ Code.pad → code ≠ Code.last →
      rest.length < length.toNat → motive (code :: length :: rest))
    (entry : ∀ code (length : UInt8) value rest, code ≠ Code.pad → code ≠ Code.last →
      value.length = length.toNat → motive rest → motive (code :: length :: (value ++ rest)))
    (bytes : List UInt8) : motive bytes := by
  generalize hsize : bytes.length = size
  induction size using Nat.strongRecOn generalizing bytes with
  | ind size ih =>
    subst hsize
    cases beginning bytes with
    | nothing => exact nothing
    | filler rest => exact filler rest (ih _ (Nat.lt_succ_self _) rest rfl)
    | last rest => exact last rest
    | alone hpad hlast => exact alone _ hpad hlast
    | short hpad hlast hshort => exact short _ _ _ hpad hlast hshort
    | entry rest hpad hlast hlength =>
      refine entry _ _ _ rest hpad hlast hlength (ih _ ?_ rest rfl)
      simp
      omega

theorem readOptions_ne_overrun (bytes : List UInt8) : readOptions bytes ≠ .error .overrun := by
  induction bytes using options_induction with
  | nothing => simp [readOptions_nil]
  | filler rest ih => rwa [readOptions_filler]
  | last rest => simp [readOptions_last]
  | alone code hpad hlast => simp [readOptions_alone hpad hlast]
  | short code length rest hpad hlast hshort => simp [readOptions_short hpad hlast hshort]
  | entry code length value rest hpad hlast hlength ih =>
    rw [readOptions_entry hpad hlast hlength]
    cases hrest : readOptions rest with
    | ok result => simp [Except.map]
    | error stop => simpa [Except.map, hrest] using ih

/-! ## Reading a packet -/

namespace Packet

/-- Takes a packet. What comes after the end of its options is left. -/
def read : ByteReader PacketFault Packet := do
  let length ← remaining
  if length < headerLength + magicCookie.length then refuse (.tooShort length)
  else
    let packet ← readFields
    let _ ← octets unusedLength
    let cookie ← octets magicCookie.length
    if cookie.bytes = magicCookie then
      let options ← readOptions
      return { packet with options }
    else refuse (.badCookie cookie.bytes)

theorem read_short {bytes : List UInt8}
    (hshort : bytes.length < headerLength + magicCookie.length) :
    read bytes = .error (.refused (.tooShort bytes.length)) := by
  unfold read
  rw [bind_of_eq_ok rfl, if_pos hshort]
  rfl

/-- What is read off bytes that are long enough depends on the mark and on what follows it. -/
theorem read_append (packet : Packet) (unused : Octets unusedLength)
    (cookie : Octets magicCookie.length) (rest : List UInt8) :
    read (packet.encodeFields ++ (unused.bytes ++ (cookie.bytes ++ rest))) =
      if cookie.bytes = magicCookie then
        (readOptions rest).map fun (options, rest) ↦ ({ packet with options }, rest)
      else .error (.refused (.badCookie cookie.bytes)) := by
  have hlong : ¬ (packet.encodeFields ++ (unused.bytes ++ (cookie.bytes ++ rest))).length <
      headerLength + magicCookie.length := by
    simp [length_encodeFields, unused.length_bytes, cookie.length_bytes, headerLength]
    omega
  unfold read
  rw [bind_of_eq_ok rfl, if_neg hlong, bind_of_eq_ok (reads_fields packet _),
    bind_of_eq_ok (reads_octets unused _), bind_of_eq_ok (reads_octets cookie _)]
  by_cases hcookie : cookie.bytes = magicCookie
  · rw [if_pos hcookie, if_pos hcookie]
    cases hoptions : readOptions rest with
    | ok result =>
      rw [bind_of_eq_ok hoptions]
      rfl
    | error stop =>
      change readOptions rest >>= _ = _
      rw [hoptions]
      rfl
  · rw [if_neg hcookie, if_neg hcookie]
    rfl

/-- Bytes that are long enough have fixed fields, unused bytes, a mark and what follows it. -/
theorem exists_layout (bytes : List UInt8)
    (hlong : headerLength + magicCookie.length ≤ bytes.length) :
    ∃ (packet : Packet) (unused : Octets unusedLength) (cookie : Octets magicCookie.length)
      (rest : List UInt8), packet.options = [] ∧
      bytes = packet.encodeFields ++ (unused.bytes ++ (cookie.bytes ++ rest)) := by
  unfold headerLength at hlong
  obtain ⟨packet, bytes, hnone, rfl, hfields⟩ := exists_fields_append bytes (by omega)
  obtain ⟨unused, bytes, rfl, hunused⟩ := exists_octets_append unusedLength bytes (by omega)
  obtain ⟨cookie, bytes, rfl, -⟩ := exists_octets_append magicCookie.length bytes (by omega)
  exact ⟨packet, unused, cookie, bytes, hnone, rfl⟩

theorem read_ne_overrun (bytes : List UInt8) : read bytes ≠ .error .overrun := by
  by_cases hshort : bytes.length < headerLength + magicCookie.length
  · simp [read_short hshort]
  obtain ⟨packet, unused, cookie, rest, -, rfl⟩ := exists_layout bytes (by omega)
  rw [read_append]
  split
  · have hrest := readOptions_ne_overrun rest
    cases hoptions : readOptions rest with
    | ok result => simp [Except.map]
    | error stop => simpa [Except.map, hoptions] using hrest
  · simp

def decode (bytes : List UInt8) : Except PacketFault Packet :=
  match h : read bytes with
  | .ok (packet, _) => .ok packet
  | .error (.refused fault) => .error fault
  | .error .overrun => absurd h (read_ne_overrun bytes)

theorem decode_eq_ok_iff {bytes : List UInt8} {packet : Packet} :
    decode bytes = .ok packet ↔ ∃ rest, read bytes = .ok (packet, rest) := by
  unfold decode
  split
  · simp [*]
  · simp [*]
  · rename_i hoverrun
    exact absurd hoverrun (read_ne_overrun bytes)

theorem decode_eq_error_iff {bytes : List UInt8} {fault : PacketFault} :
    decode bytes = .error fault ↔ read bytes = .error (.refused fault) := by
  unfold decode
  split
  · simp [*]
  · simp [*]
  · rename_i hoverrun
    exact absurd hoverrun (read_ne_overrun bytes)

end Packet

/-! ## Writing -/

/-- The items in pieces of `size`, of which the last may be shorter. There are no empty pieces. -/
def pieces {α : Type} (size : Nat) (items : List α) : List (List α) :=
  if size = 0 ∨ items = [] then []
  else items.take size :: pieces size (items.drop size)
  termination_by items.length
  decreasing_by
    rename_i h
    have : items.length ≠ 0 := fun hzero ↦ h (.inr (List.length_eq_zero_iff.1 hzero))
    simp only [List.length_drop]
    omega

def encodePiece (code : UInt8) (piece : List UInt8) : List UInt8 :=
  code :: UInt8.ofNat piece.length :: piece

def encodeOption (entry : Entry) : List UInt8 :=
  (pieces 255 entry.2).flatMap (encodePiece entry.1)

def Packet.encode (packet : Packet) : List UInt8 :=
  let bytes :=
    packet.encodeFields ++ List.replicate unusedLength 0 ++ magicCookie ++
      packet.options.flatMap encodeOption ++ [Code.last]
  bytes ++ List.replicate (minPacketLength - bytes.length) Code.pad

end MicroVm.Dhcp.V4

import MicroVm.Octets

/-!
# Reading off the front of a buffer

A reader takes bytes from the front of what is left of a buffer and may refuse what it has read.
To take more bytes than are left is a mistake of the reader and no property of the bytes, so it is
an end of its own, in which the program would crash. A format is read safely when no bytes at all
make its reader overrun them.
-/

namespace MicroVm

inductive Stop (Fault : Type) where
  | refused (fault : Fault)
  /-- More bytes were taken than were left. -/
  | overrun
  deriving DecidableEq, Repr

/-- A reader of bytes, which may refuse them with a fault. -/
abbrev ByteReader (Fault : Type) := StateT (List UInt8) (Except (Stop Fault))

namespace ByteReader

variable {Fault α β : Type}

def refuse (fault : Fault) : ByteReader Fault α := fun _ ↦ .error (.refused fault)

def remaining : ByteReader Fault Nat := fun bytes ↦ .ok (bytes.length, bytes)

def byte : ByteReader Fault UInt8
  | [] => .error .overrun
  | byte :: bytes => .ok (byte, bytes)

def word16 : ByteReader Fault UInt16 := do return word16OfBytes (← byte) (← byte)

def word32 : ByteReader Fault UInt32 := do
  return word32OfBytes (← byte) (← byte) (← byte) (← byte)

def octets (size : Nat) : ByteReader Fault (Octets size) := fun bytes ↦
  match h : takeExactly? size bytes with
  | some (taken, rest) => .ok (⟨taken, (takeExactly?_eq_some_iff.1 h).2⟩, rest)
  | none => .error .overrun

/-! ## What is read -/

/-- Whether a reader takes exactly the given bytes, whatever comes after them, for a value. -/
def Reads (reader : ByteReader Fault α) (bytes : List UInt8) (value : α) : Prop :=
  ∀ rest, reader (bytes ++ rest) = .ok (value, rest)

theorem bind_of_eq_ok {reader : ByteReader Fault α} {next : α → ByteReader Fault β}
    {bytes rest : List UInt8} {value : α} (h : reader bytes = .ok (value, rest)) :
    (reader >>= next) bytes = next value rest := by
  change reader bytes >>= _ = _
  rw [h]
  rfl

theorem reads_pure (value : α) : Reads (pure value : ByteReader Fault α) [] value := fun _ ↦ rfl

theorem Reads.bind {reader : ByteReader Fault α} {next : α → ByteReader Fault β}
    {bytes others : List UInt8} {value : α} {result : β} (hfirst : Reads reader bytes value)
    (hnext : Reads (next value) others result) :
    Reads (reader >>= next) (bytes ++ others) result := by
  intro rest
  rw [List.append_assoc, bind_of_eq_ok (hfirst _)]
  exact hnext rest

theorem reads_byte (value : UInt8) : Reads (byte : ByteReader Fault UInt8) [value] value :=
  fun _ ↦ rfl

theorem reads_word16 (word : UInt16) :
    Reads (word16 : ByteReader Fault UInt16) (bytesOfWord16 word) word := by
  intro rest
  change Except.ok (word16OfBytes _ _, rest) = _
  rw [word16OfBytes_bytesOfWord16]

theorem reads_word32 (word : UInt32) :
    Reads (word32 : ByteReader Fault UInt32) (bytesOfWord32 word) word := by
  intro rest
  change Except.ok (word32OfBytes _ _ _ _, rest) = _
  rw [word32OfBytes_bytesOfWord32]

theorem reads_octets {size : Nat} (value : Octets size) :
    Reads (octets size : ByteReader Fault (Octets size)) value.bytes value := by
  intro rest
  have htake : takeExactly? size (value.bytes ++ rest) = some (value.bytes, rest) :=
    takeExactly?_eq_some_iff.2 ⟨rfl, value.length_bytes⟩
  unfold octets
  split
  · rename_i taken after hfound
    rw [htake] at hfound
    cases hfound
    rfl
  · rename_i hnone
    rw [htake] at hnone
    cases hnone

/-! ## What enough bytes begin with -/

theorem exists_byte_append (bytes : List UInt8) (h : 1 ≤ bytes.length) :
    ∃ value rest, bytes = [value] ++ rest ∧ bytes.length = 1 + rest.length := by
  cases bytes with
  | nil => simp at h
  | cons value rest => exact ⟨value, rest, rfl, Nat.add_comm _ _⟩

theorem exists_octets_append (size : Nat) (bytes : List UInt8) (h : size ≤ bytes.length) :
    ∃ (value : Octets size) (rest : List UInt8),
      bytes = value.bytes ++ rest ∧ bytes.length = size + rest.length := by
  refine ⟨⟨bytes.take size, List.length_take_of_le h⟩, bytes.drop size,
    (List.take_append_drop size bytes).symm, ?_⟩
  simp
  omega

theorem exists_word16_append (bytes : List UInt8) (h : 2 ≤ bytes.length) :
    ∃ word rest, bytes = bytesOfWord16 word ++ rest ∧ bytes.length = 2 + rest.length := by
  obtain ⟨high, bytes, rfl, hhigh⟩ := exists_byte_append bytes (by omega)
  obtain ⟨low, bytes, rfl, hlow⟩ := exists_byte_append bytes (by omega)
  exact ⟨word16OfBytes high low, bytes, by simp, by omega⟩

theorem exists_word32_append (bytes : List UInt8) (h : 4 ≤ bytes.length) :
    ∃ word rest, bytes = bytesOfWord32 word ++ rest ∧ bytes.length = 4 + rest.length := by
  obtain ⟨a, bytes, rfl, ha⟩ := exists_byte_append bytes (by omega)
  obtain ⟨b, bytes, rfl, hb⟩ := exists_byte_append bytes (by omega)
  obtain ⟨c, bytes, rfl, hc⟩ := exists_byte_append bytes (by omega)
  obtain ⟨d, bytes, rfl, hd⟩ := exists_byte_append bytes (by omega)
  exact ⟨word32OfBytes a b c d, bytes, by simp, by omega⟩

end ByteReader

/-! ## Descriptions of what is read -/

/-- When reading gives what a description says and fails as it says, and the description leaves
nothing out, then reading gives nothing else and fails in no other way. -/
theorem outcome_iff_of_total {Fault Value : Type} {outcome : Except Fault Value}
    {isGiven : Value → Prop} {isFault : Fault → Prop}
    (hgiven : ∀ value, isGiven value → outcome = .ok value)
    (hfault : ∀ fault, isFault fault → outcome = .error fault)
    (htotal : (∃ value, isGiven value) ∨ ∃ fault, isFault fault) :
    (∀ value, outcome = .ok value ↔ isGiven value) ∧
      ∀ fault, outcome = .error fault ↔ isFault fault := by
  constructor
  · refine fun value ↦ ⟨fun hvalue ↦ ?_, hgiven value⟩
    obtain ⟨other, hother⟩ | ⟨fault, hwrong⟩ := htotal
    · cases hvalue.symm.trans (hgiven other hother)
      exact hother
    · cases hvalue.symm.trans (hfault fault hwrong)
  · refine fun fault ↦ ⟨fun hwrong ↦ ?_, hfault fault⟩
    obtain ⟨value, hvalue⟩ | ⟨other, hother⟩ := htotal
    · cases hwrong.symm.trans (hgiven value hvalue)
    · cases hwrong.symm.trans (hfault other hother)
      exact hother

end MicroVm

import Mathlib.Data.Set.Function
import MicroVm.ByteReader
import MicroVm.Dhcp.V6.Message

/-!
# The format of messages

Which bytes are a message is said here as a grammar, with no word on how they are read: the kind and
the transaction, and then options up to the end of the bytes. All other bytes are too short or cut
off inside of an option.

Bytes spell one message only, and they are what is written of it. So reading and writing are inverse
to each other, between the bytes that are a message and the messages whose values are short enough
for 16 bits to hold their lengths. A longer value is written behind a length that is not its own,
and whatever is read then is another message or none.
-/

namespace MicroVm.Dhcp.V6

/-! ## The grammar -/

/-- Whether bytes are the header of an option: the number of a code and a length, in two bytes each,
the most significant first. -/
def IsHeader (header : List UInt8) (code : UInt16) (length : Nat) : Prop :=
  ∃ c0 c1 n0 n1 : UInt8, header = [c0, c1, n0, n1] ∧
    code.toNat = 256 * c0.toNat + c1.toNat ∧ length = 256 * n0.toNat + n1.toNat

/-- Bytes that spell options: the end of the bytes, or an option in front. -/
inductive Spells : List UInt8 → List Entry → Prop
  | nothing : Spells [] []
  | option {header value rest : List UInt8} {code : UInt16} {options : List Entry}
      (hheader : IsHeader header code value.length) (hrest : Spells rest options) :
      Spells (header ++ (value ++ rest)) ((code, value) :: options)

/-- Bytes that are cut off in an option, and the fault that this is. -/
inductive CutsOff : List UInt8 → MessageFault → Prop
  | inHeader {bytes : List UInt8} (hne : bytes ≠ []) (hshort : bytes.length < 4) :
      CutsOff bytes .headerTruncated
  | inValue {header rest : List UInt8} {code : UInt16} {length : Nat}
      (hheader : IsHeader header code length) (hshort : rest.length < length) :
      CutsOff (header ++ rest) (.optionTruncated code)
  | later {header value rest : List UInt8} {code : UInt16} {fault : MessageFault}
      (hheader : IsHeader header code value.length) (hrest : CutsOff rest fault) :
      CutsOff (header ++ (value ++ rest)) fault

/-- Whether bytes are a message: its kind and transaction, and its options after them. -/
structure IsMessage (bytes : List UInt8) (message : Message) : Prop where
  front : bytes.take 4 = message.kindCode :: message.transaction.bytes
  options : Spells (bytes.drop 4) message.options

/-- What is wrong with bytes that are no message. -/
inductive IsRefused (bytes : List UInt8) : MessageFault → Prop
  | tooShort (hshort : bytes.length < 4) : IsRefused bytes (.tooShort bytes.length)
  | cutOff {fault : MessageFault} (hlong : 4 ≤ bytes.length)
      (hcut : CutsOff (bytes.drop 4) fault) : IsRefused bytes fault

/-- Whether 16 bits hold the length of each value. -/
def AllShort (options : List Entry) : Prop := ∀ entry ∈ options, entry.2.length ≤ 65535

/-! ## Headers -/

theorem isHeader_words (c0 c1 n0 n1 : UInt8) :
    IsHeader [c0, c1, n0, n1] (word16OfBytes c0 c1) (word16OfBytes n0 n1).toNat :=
  ⟨c0, c1, n0, n1, rfl, toNat_word16OfBytes c0 c1, toNat_word16OfBytes n0 n1⟩

/-- A header says what its two words are. -/
theorem IsHeader.exists_words {header : List UInt8} {code : UInt16} {length : Nat}
    (hheader : IsHeader header code length) :
    ∃ c0 c1 n0 n1, header = [c0, c1, n0, n1] ∧ code = word16OfBytes c0 c1 ∧
      length = (word16OfBytes n0 n1).toNat := by
  obtain ⟨c0, c1, n0, n1, rfl, hcode, hlength⟩ := hheader
  have hword : code = word16OfBytes c0 c1 := by
    rw [← UInt16.toNat_inj, hcode, toNat_word16OfBytes]
  exact ⟨c0, c1, n0, n1, rfl, hword, hlength.trans (toNat_word16OfBytes n0 n1).symm⟩

/-- The header of an option is written for a length that 16 bits hold, and for no other. -/
theorem isHeader_iff {header : List UInt8} {code : UInt16} {length : Nat} :
    IsHeader header code length ↔
      length ≤ 65535 ∧ header = bytesOfWord16 code ++ bytesOfWord16 (UInt16.ofNat length) := by
  constructor
  · intro hheader
    obtain ⟨c0, c1, n0, n1, rfl, rfl, rfl⟩ := hheader.exists_words
    have hword := (word16OfBytes n0 n1).toNat_lt
    exact ⟨by omega, by simp⟩
  · rintro ⟨hlength, rfl⟩
    have hsize : (UInt16.ofNat length).toNat = length :=
      UInt16.toNat_ofNat_of_lt' (by simp [UInt16.size]; omega)
    have hwords := isHeader_words (code >>> 8).toUInt8 code.toUInt8
      (UInt16.ofNat length >>> 8).toUInt8 (UInt16.ofNat length).toUInt8
    rwa [word16OfBytes_bytesOfWord16, word16OfBytes_bytesOfWord16, hsize] at hwords

/-! ## Options -/

/-- A header and as many bytes as it announces are decoded to an option. -/
theorem decodeOptions_option {header value rest : List UInt8} {code : UInt16}
    (hheader : IsHeader header code value.length) :
    decodeOptions (header ++ (value ++ rest)) =
      (decodeOptions rest).map ((code, value) :: ·) := by
  obtain ⟨c0, c1, n0, n1, rfl, rfl, hlength⟩ := hheader.exists_words
  have htake : takeExactly? (word16OfBytes n0 n1).toNat (value ++ rest) = some (value, rest) :=
    takeExactly?_eq_some_iff.2 ⟨rfl, hlength⟩
  simp only [List.cons_append, List.nil_append]
  rw [decodeOptions]
  split
  · rename_i hnone
    rw [htake] at hnone
    cases hnone
  · rename_i hsome
    rw [htake] at hsome
    cases hsome
    rfl

theorem decodeOptions_of_spells {bytes : List UInt8} {options : List Entry}
    (hspells : Spells bytes options) : decodeOptions bytes = .ok options := by
  induction hspells with
  | nothing => rw [decodeOptions]
  | option hheader _ ih => rw [decodeOptions_option hheader, ih, Except.map]

theorem decodeOptions_of_cutsOff {bytes : List UInt8} {fault : MessageFault}
    (hcut : CutsOff bytes fault) : decodeOptions bytes = .error fault := by
  induction hcut with
  | @inHeader bytes hne hshort =>
    rw [decodeOptions]
    · exact hne
    · rintro c0 c1 n0 n1 rest rfl
      simp only [List.length_cons] at hshort
      omega
  | @inValue header rest code length hheader hshort =>
    obtain ⟨c0, c1, n0, n1, rfl, rfl, rfl⟩ := hheader.exists_words
    have hnone : takeExactly? (word16OfBytes n0 n1).toNat rest = none :=
      takeExactly?_eq_none_iff.2 hshort
    simp only [List.cons_append, List.nil_append]
    rw [decodeOptions]
    split
    · rfl
    · rename_i hsome
      rw [hnone] at hsome
      cases hsome
  | later hheader _ ih => rw [decodeOptions_option hheader, ih, Except.map]

/-- All bytes spell options or are cut off in one. -/
theorem spells_or_cutsOff (bytes : List UInt8) :
    (∃ options, Spells bytes options) ∨ ∃ fault, CutsOff bytes fault := by
  induction bytes using decodeOptions.induct with
  | case1 => exact .inl ⟨[], .nothing⟩
  | case2 c0 c1 n0 n1 bytes hnone =>
    exact .inr ⟨_, .inValue (isHeader_words c0 c1 n0 n1) (takeExactly?_eq_none_iff.1 hnone)⟩
  | case3 c0 c1 n0 n1 bytes value rest hsome ih =>
    obtain ⟨rfl, hlength⟩ := takeExactly?_eq_some_iff.1 hsome
    have hheader := isHeader_words c0 c1 n0 n1
    rw [← hlength] at hheader
    obtain ⟨options, hspells⟩ | ⟨fault, hcut⟩ := ih
    · exact .inl ⟨_, .option hheader hspells⟩
    · exact .inr ⟨fault, .later hheader hcut⟩
  | case4 bytes hnil hlong =>
    refine .inr ⟨_, .inHeader hnil ?_⟩
    match bytes with
    | [] | [_] | [_, _] | [_, _, _] => simp
    | c0 :: c1 :: n0 :: n1 :: rest => exact (hlong c0 c1 n0 n1 rest rfl).elim

/-- Options are decoded exactly from what spells them. -/
theorem decodeOptions_eq_ok_iff {bytes : List UInt8} {options : List Entry} :
    decodeOptions bytes = .ok options ↔ Spells bytes options :=
  (outcome_iff_of_total (fun _ ↦ decodeOptions_of_spells) (fun _ ↦ decodeOptions_of_cutsOff)
    (spells_or_cutsOff bytes)).1 options

/-- Bytes spell options exactly when 16 bits hold the lengths of the values and the bytes are what
is written of the options. -/
theorem spells_iff {bytes : List UInt8} {options : List Entry} :
    Spells bytes options ↔ AllShort options ∧ bytes = encodeOptions options := by
  constructor
  · intro hspells
    induction hspells with
    | nothing => simp [AllShort, encodeOptions]
    | @option header value rest code options hheader _ ih =>
      obtain ⟨hlength, rfl⟩ := isHeader_iff.1 hheader
      obtain ⟨hshort, rfl⟩ := ih
      exact ⟨List.forall_mem_cons.2 ⟨hlength, hshort⟩, by simp [encodeOptions, encodeOption]⟩
  · rintro ⟨hshort, rfl⟩
    induction options with
    | nil => exact .nothing
    | cons entry options ih =>
      obtain ⟨hentry, hrest⟩ := List.forall_mem_cons.1 hshort
      have hheader : IsHeader (bytesOfWord16 entry.1 ++ _) entry.1 entry.2.length :=
        isHeader_iff.2 ⟨hentry, rfl⟩
      simpa [encodeOptions, encodeOption] using Spells.option hheader (ih hrest)

theorem decodeOptions_encodeOptions {options : List Entry} (hshort : AllShort options) :
    decodeOptions (encodeOptions options) = .ok options :=
  decodeOptions_of_spells (spells_iff.2 ⟨hshort, rfl⟩)

/-- There is one way to spell options. -/
theorem eq_encodeOptions_of_decodeOptions {bytes : List UInt8} {options : List Entry}
    (hdecode : decodeOptions bytes = .ok options) : bytes = encodeOptions options :=
  (spells_iff.1 (decodeOptions_eq_ok_iff.1 hdecode)).2

/-! ## Messages -/

namespace Message

variable {bytes : List UInt8} {message : Message}

theorem length_front (message : Message) :
    (message.kindCode :: message.transaction.bytes).length = 4 := by
  simp [message.transaction.length_bytes]

/-- Bytes are a message exactly when 16 bits hold the lengths of its values and the bytes are what
is written of it. -/
theorem isMessage_iff :
    IsMessage bytes message ↔ AllShort message.options ∧ message.encode = bytes := by
  constructor
  · rintro ⟨hfront, hspells⟩
    obtain ⟨hshort, hdrop⟩ := spells_iff.1 hspells
    refine ⟨hshort, ?_⟩
    calc
      message.encode = message.kindCode :: message.transaction.bytes ++ bytes.drop 4 := by
        rw [hdrop, encode]
      _ = bytes := by rw [← hfront, List.take_append_drop]
  · rintro ⟨hshort, rfl⟩
    exact ⟨List.take_left' message.length_front,
      spells_iff.2 ⟨hshort, List.drop_left' message.length_front⟩⟩

/-- Bytes that are long enough have a kind, a transaction and what follows them. -/
theorem exists_front_append (hlong : 4 ≤ bytes.length) :
    ∃ (kindCode : UInt8) (transaction : Octets 3) (rest : List UInt8),
      bytes = kindCode :: transaction.bytes ++ rest := by
  obtain ⟨kindCode, bytes, rfl, hkind⟩ := ByteReader.exists_byte_append bytes (by omega)
  obtain ⟨transaction, rest, rfl, -⟩ := ByteReader.exists_octets_append 3 bytes (by omega)
  exact ⟨kindCode, transaction, rest, rfl⟩

theorem decode_append (kindCode : UInt8) (transaction : Octets 3) (rest : List UInt8) :
    decode (kindCode :: transaction.bytes ++ rest) =
      (decodeOptions rest).map fun options ↦ { kindCode, transaction, options } := by
  obtain ⟨front, hlength⟩ := transaction
  match front, hlength with
  | [_, _, _], _ => rfl

/-- Bytes are too few for a kind and a transaction. -/
theorem decode_short (hshort : bytes.length < 4) :
    decode bytes = .error (.tooShort bytes.length) := by
  match bytes with
  | [] | [_] | [_, _] | [_, _, _] => rfl
  | kindCode :: t0 :: t1 :: t2 :: rest =>
    simp only [List.length_cons] at hshort
    omega

theorem decode_of_isMessage (hmessage : IsMessage bytes message) : decode bytes = .ok message := by
  obtain ⟨hshort, rfl⟩ := isMessage_iff.1 hmessage
  rw [encode, decode_append, decodeOptions_encodeOptions hshort, Except.map]

/-- Bytes that are described as refused are refused for that reason. -/
theorem decode_of_isRefused {fault : MessageFault} (hrefused : IsRefused bytes fault) :
    decode bytes = .error fault := by
  cases hrefused with
  | tooShort hshort => exact decode_short hshort
  | cutOff hlong hcut =>
    obtain ⟨kindCode, transaction, rest, rfl⟩ := exists_front_append hlong
    have hdrop : (kindCode :: transaction.bytes ++ rest).drop 4 = rest :=
      List.drop_left' (length_front ⟨kindCode, transaction, []⟩)
    rw [hdrop] at hcut
    rw [decode_append, decodeOptions_of_cutsOff hcut, Except.map]

theorem exists_isMessage_of_spells {options : List Entry} (hlong : 4 ≤ bytes.length)
    (hspells : Spells (bytes.drop 4) options) : ∃ message, IsMessage bytes message := by
  obtain ⟨kindCode, transaction, rest, rfl⟩ := exists_front_append hlong
  let message : Message := { kindCode, transaction, options }
  exact ⟨message, List.take_left' message.length_front, hspells⟩

/-- All bytes are a message or have something wrong. -/
theorem isMessage_or_isRefused (bytes : List UInt8) :
    (∃ message, IsMessage bytes message) ∨ ∃ fault, IsRefused bytes fault := by
  by_cases hlong : 4 ≤ bytes.length
  · obtain ⟨options, hspells⟩ | ⟨fault, hcut⟩ := spells_or_cutsOff (bytes.drop 4)
    · exact .inl (exists_isMessage_of_spells hlong hspells)
    · exact .inr ⟨fault, .cutOff hlong hcut⟩
  · exact .inr ⟨_, .tooShort (by omega)⟩

theorem decode_eq_ok_iff_isMessage :
    decode bytes = .ok message ↔ IsMessage bytes message :=
  (outcome_iff_of_total (fun _ ↦ decode_of_isMessage) (fun _ ↦ decode_of_isRefused)
    (isMessage_or_isRefused bytes)).1 message

theorem decode_error_iff_isRefused {fault : MessageFault} :
    decode bytes = .error fault ↔ IsRefused bytes fault :=
  (outcome_iff_of_total (fun _ ↦ decode_of_isMessage) (fun _ ↦ decode_of_isRefused)
    (isMessage_or_isRefused bytes)).2 fault

theorem encode_of_decode (hdecode : decode bytes = .ok message) : message.encode = bytes :=
  (isMessage_iff.1 (decode_eq_ok_iff_isMessage.1 hdecode)).2

theorem allShort_of_decode (hdecode : decode bytes = .ok message) : AllShort message.options :=
  (isMessage_iff.1 (decode_eq_ok_iff_isMessage.1 hdecode)).1

/-- A message comes back exactly when 16 bits hold the lengths of its values. -/
theorem decode_encode_iff_allShort :
    decode message.encode = .ok message ↔ AllShort message.options := by
  rw [decode_eq_ok_iff_isMessage, isMessage_iff]
  exact and_iff_left rfl

/-- Bytes are a message exactly when they are long enough and the rest spells options. -/
theorem exists_decode_iff :
    (∃ message, decode bytes = .ok message) ↔
      4 ≤ bytes.length ∧ ∃ options, Spells (bytes.drop 4) options := by
  constructor
  · rintro ⟨message, hdecode⟩
    obtain ⟨hfront, hspells⟩ := decode_eq_ok_iff_isMessage.1 hdecode
    have hlength := congrArg List.length hfront
    rw [message.length_front, List.length_take] at hlength
    exact ⟨by omega, message.options, hspells⟩
  · rintro ⟨hlong, options, hspells⟩
    obtain ⟨message, hmessage⟩ := exists_isMessage_of_spells hlong hspells
    exact ⟨message, decode_of_isMessage hmessage⟩

/-- Reading and writing are inverse to each other between the bytes that are a message and the
messages with values of at most 65535 bytes. Bytes are read exactly when four bytes are followed by
whole options up to the end, as the one message that they are, and are refused exactly for what is
wrong with them. -/
theorem bijOn_encode_decode :
    (∀ bytes message, decode bytes = .ok message → message.encode = bytes) ∧
    (∀ message, decode message.encode = .ok message ↔
      ∀ entry ∈ message.options, entry.2.length ≤ 65535) ∧
    (∀ bytes, (∃ message, decode bytes = .ok message) ↔
      4 ≤ bytes.length ∧ ∃ options, Spells (bytes.drop 4) options) ∧
    (∀ bytes message, decode bytes = .ok message ↔ IsMessage bytes message) ∧
    (∀ bytes fault, decode bytes = .error fault ↔ IsRefused bytes fault) ∧
    Set.BijOn encode {message | AllShort message.options}
      {bytes | ∃ message, decode bytes = .ok message} := by
  refine ⟨fun _ _ ↦ encode_of_decode, fun _ ↦ decode_encode_iff_allShort,
    fun _ ↦ exists_decode_iff, fun _ _ ↦ decode_eq_ok_iff_isMessage,
    fun _ _ ↦ decode_error_iff_isRefused, ?_, ?_, ?_⟩
  · intro message hshort
    exact ⟨message, decode_encode_iff_allShort.2 hshort⟩
  · intro message hshort other hothers hsame
    have hback := decode_encode_iff_allShort.2 hshort
    rw [hsame, decode_encode_iff_allShort.2 hothers] at hback
    exact (Except.ok.inj hback).symm
  · rintro bytes ⟨message, hdecode⟩
    exact ⟨message, allShort_of_decode hdecode, encode_of_decode hdecode⟩

/-- A value that looks like a header and an empty value are read and come back, and a value of 65536
bytes does not come back. -/
theorem bijOn_encode_decode_long_value :
    let bytes : List UInt8 := [1, 7, 8, 9, 0, 1, 0, 4, 0, 3, 0, 9, 1, 14, 0, 0]
    let message : Message := ⟨1, ⟨[7, 8, 9], rfl⟩, [(1, [0, 3, 0, 9]), (270, [])]⟩
    let long : Message := ⟨7, ⟨[7, 8, 9], rfl⟩, [(23, List.replicate 65536 0)]⟩
    decode bytes = .ok message ∧ message.encode = bytes ∧ decode long.encode ≠ .ok long := by
  intro bytes message long
  obtain ⟨hback, hshort, -, hformat, -⟩ := bijOn_encode_decode
  have hempty : Spells ([1, 14, 0, 0] ++ ([] ++ [])) [(270, [])] :=
    .option ⟨1, 14, 0, 0, rfl, by decide, by decide⟩ .nothing
  have hspells : Spells ([0, 1, 0, 4] ++ ([0, 3, 0, 9] ++ [1, 14, 0, 0])) message.options :=
    .option ⟨0, 1, 0, 4, rfl, by decide, by decide⟩ hempty
  have hdecode : decode bytes = .ok message := (hformat bytes message).2 ⟨rfl, hspells⟩
  refine ⟨hdecode, hback bytes message hdecode, fun hlong ↦ ?_⟩
  have hlength := (hshort long).1 hlong _ List.mem_cons_self
  rw [List.length_replicate] at hlength
  exact absurd hlength (by decide)

end Message

end MicroVm.Dhcp.V6

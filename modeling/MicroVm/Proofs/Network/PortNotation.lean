import MicroVm.Network.PortMapping
import MicroVm.Proofs.Text.Numerals

/-!
# Which texts are port mappings

Colons part the text of a mapping. Before the port of the host there may be an address, and after
the port of the guest a slash with a protocol. The ports may be spelled with any of their numerals,
and the address is any text without a colon, be there slashes in it or not. What was read is read
again as the same mapping after it was written.
-/

namespace MicroVm.Network

variable {text part digits host guest : List Char} {port : UInt16} {protocol : Protocol}

theorem Protocol.parse?_eq_some_iff {name : String} :
    Protocol.parse? name = some protocol ↔ name = protocol.text := by
  rw [Protocol.parse?]
  split
  next htcp => cases protocol <;> simp [htcp, Protocol.text]
  next htcp =>
    split
    next hudp => cases protocol <;> simp [hudp, Protocol.text]
    next hudp => cases protocol <;> simp [htcp, hudp, Protocol.text]

/-- What may follow a port to name a protocol. TCP need not be named. -/
inductive Protocol.IsEnding : List Char → Protocol → Prop
  | unnamed : IsEnding [] .tcp
  | named (protocol : Protocol) : IsEnding ('/' :: protocol.text.toList) protocol

namespace PortMapping

variable {mapping : PortMapping}

/-- Whether a text has a numeral of a port and perhaps the name of a protocol after it. -/
def IsGuestPart (part : List Char) (port : UInt16) (protocol : Protocol) : Prop :=
  ∃ digits ending, part = digits ++ ending ∧ Text.IsNumeral 10 digits port.toNat ∧
    protocol.IsEnding ending

/-- The part of a text that an address takes, if there is one. -/
def addressParts (address : Option String) : List (List Char) :=
  (address.map String.toList).toList

/-- Whether a text has the parts of a mapping: perhaps the address, a numeral of the port of the
host, and the part of the guest. -/
def IsSpelling (text : List Char) (mapping : PortMapping) : Prop :=
  ∃ host guest, Text.HasParts ':' text (addressParts mapping.hostAddress ++ [host, guest]) ∧
    Text.IsNumeral 10 host mapping.hostPort.toNat ∧
    IsGuestPart guest mapping.guestPort mapping.protocol

/-! ## The part of the guest -/

theorem splitProtocol_eq_ok_iff :
    splitProtocol part = .ok (digits, protocol) ↔
      '/' ∉ digits ∧ ∃ ending, part = digits ++ ending ∧ protocol.IsEnding ending := by
  constructor
  · intro hsplit
    rw [splitProtocol] at hsplit
    split at hsplit
    next hnone =>
      cases hsplit
      exact ⟨Text.splitOnce_eq_none_iff.1 hnone, [], (List.append_nil _).symm, .unnamed⟩
    next before name hsome =>
      split at hsplit
      next found hfound =>
        cases hsplit
        obtain ⟨rfl, hbefore⟩ := Text.splitOnce_eq_some_iff.1 hsome
        have hname : name = protocol.text.toList := by
          rw [← Protocol.parse?_eq_some_iff.1 hfound, String.toList_ofList]
        exact ⟨hbefore, '/' :: name, rfl, hname ▸ .named protocol⟩
      next => cases hsplit
  · rintro ⟨hdigits, ending, rfl, hending⟩
    rw [splitProtocol]
    cases hending with
    | unnamed => rw [List.append_nil, Text.splitOnce_eq_none_iff.2 hdigits]
    | named protocol =>
      have hname : Protocol.parse? (String.ofList protocol.text.toList) = some protocol := by
        rw [String.ofList_toList, Protocol.parse?_eq_some_iff]
      simp only [Text.splitOnce_append_cons hdigits, hname]

/-- The part of the guest is split where its numeral ends, which no slash can belong to. -/
theorem exists_splitProtocol_iff :
    (∃ digits, splitProtocol part = .ok (digits, protocol) ∧ Text.readWord16 digits = .ok port) ↔
      IsGuestPart part port protocol := by
  simp only [splitProtocol_eq_ok_iff, Text.readWord16_eq_ok_iff]
  constructor
  · rintro ⟨digits, ⟨-, ending, hpart, hending⟩, hport⟩
    exact ⟨digits, ending, hpart, hport, hending⟩
  · rintro ⟨digits, ending, hpart, hport, hending⟩
    have hslash : '/' ∉ digits := hport.notMem (by decide) rfl (by decide)
    exact ⟨digits, ⟨hslash, ending, hpart, hending⟩, hport⟩

/-! ## The parts of a mapping -/

/-- The parts of a mapping are a host port and a guest part. -/
theorem ofParts_eq_ok_iff {address : Option String} :
    ofParts address host guest = .ok mapping ↔
      mapping.hostAddress = address ∧ Text.IsNumeral 10 host mapping.hostPort.toNat ∧
        IsGuestPart guest mapping.guestPort mapping.protocol := by
  rw [← exists_splitProtocol_iff, ← Text.readWord16_eq_ok_iff]
  simp only [ofParts, Text.bind_eq_ok_iff, Text.mapError_eq_ok_iff, Prod.exists]
  constructor
  · rintro ⟨digits, protocol, hsplit, hostPort, hhost, guestPort, hguest, hmapping⟩
    cases hmapping
    exact ⟨rfl, hhost, digits, hsplit, hguest⟩
  · rintro ⟨rfl, hhost, digits, hsplit, hguest⟩
    exact ⟨digits, mapping.protocol, hsplit, mapping.hostPort, hhost, mapping.guestPort, hguest,
      rfl⟩

theorem parse_eq_ok_iff_splitOn :
    parse text = .ok mapping ↔ ∃ host guest,
      Text.splitOn ':' text = addressParts mapping.hostAddress ++ [host, guest] ∧
        ofParts mapping.hostAddress host guest = .ok mapping := by
  constructor
  · intro hparse
    rw [parse] at hparse
    split at hparse
    next host guest hparts =>
      obtain ⟨haddress, -⟩ := ofParts_eq_ok_iff.1 hparse
      exact ⟨host, guest, by rw [hparts, haddress]; rfl, haddress ▸ hparse⟩
    next address host guest hparts =>
      obtain ⟨haddress, -⟩ := ofParts_eq_ok_iff.1 hparse
      refine ⟨host, guest, ?_, haddress ▸ hparse⟩
      rw [hparts, haddress, addressParts, Option.map_some, String.toList_ofList]
      rfl
    next => cases hparse
  · rintro ⟨host, guest, hparts, hread⟩
    rw [parse, hparts]
    cases haddress : mapping.hostAddress with
    | none =>
      rw [haddress] at hread
      exact hread
    | some address =>
      rw [haddress, ← String.ofList_toList (s := address)] at hread
      exact hread

/-- What is read as a mapping are its spellings. -/
theorem parse_eq_ok_iff : parse text = .ok mapping ↔ IsSpelling text mapping := by
  have hne (address : Option String) (host guest : List Char) :
      addressParts address ++ [host, guest] ≠ [] :=
    List.append_ne_nil_of_right_ne_nil _ (List.cons_ne_nil _ _)
  simp only [parse_eq_ok_iff_splitOn, IsSpelling, Text.splitOn_eq_iff (hne _ _ _),
    ofParts_eq_ok_iff, true_and]

/-! ## Writing -/

theorem chars_eq_intercalate (mapping : PortMapping) :
    mapping.chars = [':'].intercalate (addressParts mapping.hostAddress ++
      [Text.decimal mapping.hostPort.toNat,
        Text.decimal mapping.guestPort.toNat ++ '/' :: mapping.protocol.text.toList]) := by
  rw [chars]
  cases mapping.hostAddress <;>
    simp [addressParts, List.intercalate_cons_cons, List.intercalate_singleton]

theorem isGuestPart_decimal (port : UInt16) (protocol : Protocol) :
    IsGuestPart (Text.decimal port.toNat ++ '/' :: protocol.text.toList) port protocol :=
  ⟨_, _, rfl, Text.isNumeral_decimal _, .named protocol⟩

/-- The part of the guest has no colon, so it is what follows the last one. -/
theorem IsGuestPart.colon_notMem (hpart : IsGuestPart part port protocol) : ':' ∉ part := by
  obtain ⟨digits, ending, rfl, hport, hending⟩ := hpart
  have hdigits : ':' ∉ digits := hport.notMem (by decide) rfl (by decide)
  have hnone : ':' ∉ ending := by
    cases hending with
    | unnamed => exact List.not_mem_nil
    | named protocol => cases protocol <;> decide
  exact List.not_mem_append hdigits hnone

theorem IsSpelling.colon_notMem (hspelling : IsSpelling text mapping) {address : String}
    (haddress : address ∈ mapping.hostAddress) : ':' ∉ address.toList := by
  obtain ⟨host, guest, ⟨-, hparts⟩, -⟩ := hspelling
  apply hparts
  rw [haddress]
  exact List.mem_cons_self

/-- A mapping is written in one of its spellings, unless a colon in the address adds a part. -/
theorem isSpelling_chars_iff :
    IsSpelling mapping.chars mapping ↔ ∀ address ∈ mapping.hostAddress, ':' ∉ address.toList := by
  constructor
  · intro hspelling address
    exact hspelling.colon_notMem
  · intro haddress
    have hguest := isGuestPart_decimal mapping.guestPort mapping.protocol
    refine ⟨_, _, ⟨chars_eq_intercalate mapping, ?_⟩, Text.isNumeral_decimal _, hguest⟩
    intro part hpart
    rw [List.mem_append, List.mem_pair] at hpart
    obtain hpart | rfl | rfl := hpart
    · obtain ⟨address, hmem, rfl⟩ := Option.map_eq_some_iff.1 (Option.mem_toList.1 hpart)
      exact haddress address hmem
    · exact Text.notMem_decimal rfl _
    · exact hguest.colon_notMem

/-- What is read are the spellings of mappings and no other texts. A mapping is read back after it
was written exactly if its address has no colon, and so is one that was read from any spelling. -/
theorem parse_takes_spellings :
    (∀ mapping, parse mapping.chars = .ok mapping ↔
      ∀ address ∈ mapping.hostAddress, ':' ∉ address.toList) ∧
      (∀ text mapping, parse text = .ok mapping ↔ IsSpelling text mapping) ∧
      ∀ text mapping, parse text = .ok mapping → parse mapping.chars = .ok mapping := by
  refine ⟨fun _ ↦ ?_, fun _ _ ↦ parse_eq_ok_iff, fun text mapping hparse ↦ ?_⟩
  · rw [parse_eq_ok_iff, isSpelling_chars_iff]
  · rw [parse_eq_ok_iff] at hparse ⊢
    rw [isSpelling_chars_iff]
    exact fun address ↦ hparse.colon_notMem

/-- A slash in the address, a sign, zeros in front and the name of the protocol. -/
theorem parse_takes_spelling_with_slashes :
    parse "a/udp:+080:0053/udp".toList = .ok ⟨some "a/udp", 80, 53, .udp⟩ ∧
      parse "a/udp:80:53/udp".toList = .ok ⟨some "a/udp", 80, 53, .udp⟩ := by
  have hparse : parse "a/udp:+080:0053/udp".toList = .ok ⟨some "a/udp", 80, 53, .udp⟩ := by decide
  exact ⟨hparse, parse_takes_spellings.2.2 _ _ hparse⟩

-- only the name of a protocol can follow the slash
example : parse "80:53/".toList = .error (.unknownProtocol "") := by decide

end PortMapping

end MicroVm.Network

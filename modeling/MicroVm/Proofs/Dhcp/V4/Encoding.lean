import MicroVm.Proofs.Dhcp.V4.OptionArea

/-!
# Writing packets and reading them again

Writing cuts long values into pieces and drops empty ones, and reading does not join pieces again.
So a packet does not always come back as it was: each option is replaced by one option for each of
its pieces. What is kept is the value of each code as a receiver sees it that joins the values of
all options of a code. The packets that come back as they were are those whose options all have
values of 1 to 255 bytes.
-/

namespace MicroVm.Dhcp.V4

/-! ## Values in pieces -/

/-- The pieces of a value: joined they are the value, none is empty, and each has the full size but
the last, which may be shorter. -/
structure IsSplitting {α : Type} (size : Nat) (value : List α) (parts : List (List α)) : Prop where
  joined : parts.flatten = value
  ne_nil : ∀ part ∈ parts, part ≠ []
  short : ∀ part ∈ parts, part.length ≤ size
  full : ∀ part ∈ parts.dropLast, part.length = size

theorem pieces_nil {α : Type} (size : Nat) : pieces size ([] : List α) = [] := by
  rw [pieces, if_pos (.inr rfl)]

theorem pieces_of_ne_nil {α : Type} {size : Nat} {items : List α} (hsize : 0 < size)
    (hitems : items ≠ []) :
    pieces size items = items.take size :: pieces size (items.drop size) := by
  rw [pieces, if_neg (by simp [Nat.ne_of_gt hsize, hitems])]

theorem pieces_of_length_le {α : Type} {size : Nat} {items : List α} (hsize : 0 < size)
    (hitems : items ≠ []) (hshort : items.length ≤ size) : pieces size items = [items] := by
  rw [pieces_of_ne_nil hsize hitems, List.take_of_length_le hshort, List.drop_of_length_le hshort,
    pieces_nil]

/-- Cutting into pieces is the splitting described, for any size but zero. -/
theorem isSplitting_pieces {α : Type} {size : Nat} (hsize : 0 < size) (items : List α) :
    IsSplitting size items (pieces size items) := by
  generalize hlength : items.length = length
  induction length using Nat.strongRecOn generalizing items with
  | ind length ih =>
    by_cases hitems : items = []
    · subst hitems
      rw [pieces_nil]
      constructor <;> simp
    · rw [pieces_of_ne_nil hsize hitems]
      have hpositive := List.length_pos_iff.2 hitems
      have hrest := ih (items.drop size).length (by simp; omega) _ rfl
      constructor
      · rw [List.flatten_cons, hrest.joined, List.take_append_drop]
      · simpa [hitems, Nat.ne_of_gt hsize] using hrest.ne_nil
      · simpa [Nat.min_le_left] using hrest.short
      · by_cases hlast : items.drop size = []
        · rw [hlast, pieces_nil]
          simp
        · have hlong : size ≤ items.length := by
            have := List.length_pos_iff.2 hlast
            simp at this
            omega
          have hmore : pieces size (items.drop size) ≠ [] := by
            rw [pieces_of_ne_nil hsize hlast]
            exact List.cons_ne_nil _ _
          rw [List.dropLast_cons_of_ne_nil hmore]
          simpa [hlong] using hrest.full

/-- A value has its pieces in one way only. -/
theorem IsSplitting.eq_pieces {α : Type} {size : Nat} {value : List α} {parts : List (List α)}
    (hsize : 0 < size) (hparts : IsSplitting size value parts) : parts = pieces size value := by
  induction parts generalizing value with
  | nil =>
    rw [← hparts.joined, List.flatten_nil, pieces_nil]
  | cons part parts ih =>
    have hpart := hparts.ne_nil part List.mem_cons_self
    have hvalue : value = part ++ parts.flatten := hparts.joined.symm
    have hne : value ≠ [] := by simp [hvalue, hpart]
    -- A part with another one behind it is full, so it is the first piece.
    cases parts with
    | nil =>
      obtain rfl : value = part := by simpa using hvalue
      exact (pieces_of_length_le hsize hne (hparts.short _ List.mem_cons_self)).symm
    | cons next parts =>
      have hlength : part.length = size := hparts.full part List.mem_cons_self
      have hrest : IsSplitting size (next :: parts).flatten (next :: parts) :=
        ⟨rfl, fun _ hmem ↦ hparts.ne_nil _ (List.mem_cons_of_mem _ hmem),
          fun _ hmem ↦ hparts.short _ (List.mem_cons_of_mem _ hmem),
          fun _ hmem ↦ hparts.full _ (List.mem_cons_of_mem _ hmem)⟩
      rw [pieces_of_ne_nil hsize hne, hvalue, ← hlength, List.take_left, List.drop_left, hlength,
        ← ih hrest]

theorem isSplitting_append {α : Type} {size : Nat} {front back : List α}
    (hfront : front.length = size) (hback : back ≠ []) (hshort : back.length ≤ size) :
    IsSplitting size (front ++ back) [front, back] := by
  have hpositive := List.length_pos_iff.2 hback
  have hne : front ≠ [] := List.length_pos_iff.1 (by omega)
  constructor <;> simp [hfront, hback, hne, hshort]

/-- Options with each value cut into its pieces, in place. -/
inductive IsCutInto : List Entry → List Entry → Prop
  | nil : IsCutInto [] []
  | cons {code : UInt8} {value : List UInt8} {parts : List (List UInt8)}
      {options others : List Entry} (hparts : IsSplitting 255 value parts)
      (hothers : IsCutInto options others) :
      IsCutInto ((code, value) :: options) (parts.map (Prod.mk code) ++ others)

/-- The options as they are written. -/
def cutOptions (options : List Entry) : List Entry :=
  options.flatMap fun entry ↦ (pieces 255 entry.2).map (Prod.mk entry.1)

/-- Options are cut in one way only. -/
theorem isCutInto_iff {options others : List Entry} :
    IsCutInto options others ↔ others = cutOptions options := by
  constructor
  · intro hcut
    induction hcut with
    | nil => rfl
    | cons hparts _ ih =>
      rw [ih, hparts.eq_pieces (by decide)]
      rfl
  · rintro rfl
    induction options with
    | nil => exact .nil
    | cons entry options ih => exact .cons (isSplitting_pieces (by decide) entry.2) ih

/-- Cutting never makes an empty option. -/
theorem IsCutInto.value_ne_nil {options others : List Entry} (hcut : IsCutInto options others) :
    ∀ entry ∈ others, entry.2 ≠ [] := by
  induction hcut with
  | nil => simp
  | cons hparts _ ih =>
    intro entry hmem
    obtain hpart | hother := List.mem_append.1 hmem
    · obtain ⟨part, hin, rfl⟩ := List.mem_map.1 hpart
      exact hparts.ne_nil part hin
    · exact ih entry hother

/-- Values that fit into one piece stay as they are, and empty ones are gone. -/
theorem cutOptions_of_short {options : List Entry}
    (hshort : ∀ entry ∈ options, entry.2.length ≤ 255) :
    cutOptions options = options.filter fun entry ↦ entry.2 ≠ [] := by
  induction options with
  | nil => rfl
  | cons entry options ih =>
    obtain ⟨hentry, hoptions⟩ := List.forall_mem_cons.1 hshort
    have hrest := ih hoptions
    unfold cutOptions at hrest ⊢
    rw [List.flatMap_cons, hrest]
    by_cases hempty : entry.2 = []
    · simp [hempty, pieces_nil]
    · simp [hempty, pieces_of_length_le (by decide : 0 < 255) hempty hentry]

/-! ## Values joined over options -/

/-- The values of all options with a code, joined. -/
def joinedValue (options : List Entry) (code : UInt8) : List UInt8 :=
  (options.filter fun entry ↦ entry.1 == code).flatMap Prod.snd

theorem joinedValue_append (options others : List Entry) (code : UInt8) :
    joinedValue (options ++ others) code = joinedValue options code ++ joinedValue others code := by
  simp [joinedValue]

theorem joinedValue_map (parts : List (List UInt8)) (own code : UInt8) :
    joinedValue (parts.map (Prod.mk own)) code = if own = code then parts.flatten else [] := by
  induction parts with
  | nil => simp [joinedValue]
  | cons part parts ih =>
    by_cases hcode : own = code <;> simp_all [joinedValue]

/-- Cutting changes no joined value. -/
theorem IsCutInto.joinedValue_eq {options others : List Entry} (hcut : IsCutInto options others)
    (code : UInt8) : joinedValue others code = joinedValue options code := by
  induction hcut with
  | nil => rfl
  | @cons own value parts options others hparts _ ih =>
    calc
      _ = joinedValue (parts.map (Prod.mk own)) code ++ joinedValue others code :=
        joinedValue_append _ _ _
      _ = joinedValue ([value].map (Prod.mk own)) code ++ joinedValue options code := by
        rw [ih, joinedValue_map, joinedValue_map, hparts.joined, List.flatten_singleton]
      _ = joinedValue ((own, value) :: options) code := (joinedValue_append _ _ _).symm

/-! ## What is written -/

/-- The pieces of an option, each written with its length, spell the options they were cut into. -/
theorem spells_pieces {code : UInt8} {parts : List (List UInt8)} {rest : List UInt8}
    {options : List Entry} (hcode : IsOptionCode code) (hshort : ∀ part ∈ parts, part.length ≤ 255)
    (hrest : Spells rest options) :
    Spells (parts.flatMap (encodePiece code) ++ rest) (parts.map (Prod.mk code) ++ options) := by
  induction parts with
  | nil => exact hrest
  | cons part parts ih =>
    obtain ⟨hpart, hparts⟩ := List.forall_mem_cons.1 hshort
    have hlength : part.length = (UInt8.ofNat part.length).toNat := by
      rw [UInt8.toNat_ofNat_of_lt' (by simp [UInt8.size]; omega)]
    rw [List.flatMap_cons, List.append_assoc]
    exact .option hcode hlength (ih hparts)

/-- Options written one after the other, with the end code behind them, spell what they are cut
into. -/
theorem spells_encodeOptions {options : List Entry}
    (hcodes : ∀ entry ∈ options, IsOptionCode entry.1) (padding : List UInt8) :
    Spells (options.flatMap encodeOption ++ Code.last :: padding) (cutOptions options) := by
  induction options with
  | nil => exact .last padding
  | cons entry options ih =>
    obtain ⟨hcode, hrest⟩ := List.forall_mem_cons.1 hcodes
    rw [List.flatMap_cons, List.append_assoc]
    exact spells_pieces hcode (isSplitting_pieces (by decide) entry.2).short (ih hrest)

namespace Packet

/-- Behind the fields and the cookie, decoding depends on the option area only. -/
theorem decode_append_eq_ok_iff {packet other : Packet} {unused : Octets unusedLength}
    {area : List UInt8} :
    decode (packet.encodeFields ++ (unused.bytes ++ (magicCookie ++ area))) = .ok other ↔
      Spells area other.options ∧ other = { packet with options := other.options } := by
  rw [decode_eq_ok_iff, ← exists_readOptions_iff]
  rw [read_append packet unused ⟨magicCookie, rfl⟩ area, if_pos rfl]
  cases hread : readOptions area with
  | error stop => simp [Except.map]
  | ok result =>
    obtain ⟨options, rest⟩ := result
    simp only [Except.map, Except.ok.injEq, Prod.mk.injEq, exists_and_left, exists_eq', and_true]
    constructor
    · rintro rfl
      exact ⟨rfl, rfl⟩
    · rintro ⟨rfl, hother⟩
      exact hother.symm

theorem exists_encode_eq (packet : Packet) :
    ∃ (unused : Octets unusedLength) (padding : List UInt8),
      packet.encode = packet.encodeFields ++ (unused.bytes ++ (magicCookie ++
        (packet.options.flatMap encodeOption ++ Code.last :: padding))) :=
  ⟨.zero unusedLength, _, by simp [encode, Octets.zero]; rfl⟩

/-- Encoded packets are padded to the least length. -/
theorem minPacketLength_le_length_encode (packet : Packet) :
    minPacketLength ≤ packet.encode.length := by
  simp only [encode, List.length_append, List.length_replicate]
  omega

/-- A packet whose options have valid codes is read back with its options cut. -/
theorem decode_encode_of_codes {packet : Packet}
    (hcodes : ∀ entry ∈ packet.options, IsOptionCode entry.1) :
    decode packet.encode = .ok { packet with options := cutOptions packet.options } := by
  obtain ⟨unused, padding, hencode⟩ := packet.exists_encode_eq
  rw [hencode, decode_append_eq_ok_iff]
  exact ⟨spells_encodeOptions hcodes padding, rfl⟩

theorem forall_mem_of_decode_encode {packet other : Packet}
    (hdecode : decode packet.encode = .ok other) :
    ∀ entry ∈ other.options, IsOptionCode entry.1 ∧ entry.2.length ≤ 255 := by
  obtain ⟨unused, padding, hencode⟩ := packet.exists_encode_eq
  rw [hencode, decode_append_eq_ok_iff] at hdecode
  exact hdecode.1.forall_mem

theorem decode_encode_eq_self_iff {packet : Packet} :
    decode packet.encode = .ok packet ↔
      ∀ entry ∈ packet.options,
        IsOptionCode entry.1 ∧ 1 ≤ entry.2.length ∧ entry.2.length ≤ 255 := by
  constructor
  · intro hdecode entry hmem
    have hread := forall_mem_of_decode_encode hdecode
    obtain ⟨hcode, hshort⟩ := hread entry hmem
    rw [decode_encode_of_codes fun entry hmem ↦ (hread entry hmem).1] at hdecode
    have hsame : cutOptions packet.options = packet.options :=
      congrArg Packet.options (Except.ok.inj hdecode)
    have hcut := isCutInto_iff.2 hsame.symm
    exact ⟨hcode, List.length_pos_iff.2 (hcut.value_ne_nil entry hmem), hshort⟩
  · intro hoptions
    rw [decode_encode_of_codes fun entry hmem ↦ (hoptions entry hmem).1,
      cutOptions_of_short fun entry hmem ↦ (hoptions entry hmem).2.2]
    have hall : (packet.options.filter fun entry ↦ entry.2 ≠ []) = packet.options :=
      List.filter_eq_self.2 fun entry hmem ↦ by
        simpa using List.length_pos_iff.1 (hoptions entry hmem).2.1
    rw [hall]

/-- A packet whose options have codes of options comes back with each value cut into its pieces and
with the joined values unchanged. Any packet comes back as it was exactly when its options have
codes of options and values of 1 to 255 bytes. What is written is never short. -/
theorem decode_encode (packet : Packet) :
    ((∀ entry ∈ packet.options, IsOptionCode entry.1) →
      ∃ options, decode packet.encode = .ok { packet with options } ∧
        (∀ others, IsCutInto packet.options others ↔ others = options) ∧
        ∀ code, joinedValue options code = joinedValue packet.options code) ∧
    (decode packet.encode = .ok packet ↔
      ∀ entry ∈ packet.options,
        IsOptionCode entry.1 ∧ 1 ≤ entry.2.length ∧ entry.2.length ≤ 255) ∧
    300 ≤ packet.encode.length := by
  refine ⟨fun hcodes ↦ ?_, decode_encode_eq_self_iff, packet.minPacketLength_le_length_encode⟩
  refine ⟨_, decode_encode_of_codes hcodes, fun _ ↦ isCutInto_iff, fun code ↦ ?_⟩
  exact (isCutInto_iff.2 rfl).joinedValue_eq code

/-- A value of 256 bytes comes back in two pieces, and an empty one does not come back. -/
theorem decode_encode_long_and_empty :
    let packet : Packet := ⟨2, 1, 6, 0, 7, 0, 0, .unspecified, .unspecified, .unspecified,
      .unspecified, .zero 16, [(6, List.replicate 255 8 ++ [8]), (12, [])]⟩
    (∀ entry ∈ packet.options, IsOptionCode entry.1) ∧
    decode packet.encode =
      .ok { packet with options := [(6, List.replicate 255 8), (6, [8])] } ∧
    decode packet.encode ≠ .ok packet ∧ 300 ≤ packet.encode.length := by
  intro packet
  have hcodes : ∀ entry ∈ packet.options, IsOptionCode entry.1 := by decide
  obtain ⟨hcut, hsame, hlength⟩ := decode_encode packet
  obtain ⟨options, hdecode, hunique, -⟩ := hcut hcodes
  have hlong :
      IsSplitting 255 (List.replicate 255 (8 : UInt8) ++ [8]) [List.replicate 255 8, [8]] :=
    isSplitting_append List.length_replicate (List.cons_ne_nil _ _) (by decide)
  have hempty : IsSplitting 255 ([] : List UInt8) [] :=
    ⟨by decide, by decide, by decide, by decide⟩
  have hoptions := (hunique _).1 (.cons hlong (.cons hempty .nil))
  refine ⟨hcodes, by rw [hdecode, ← hoptions]; rfl, fun hback ↦ ?_, hlength⟩
  have hvalue := hsame.1 hback (12, []) (by decide)
  exact absurd hvalue.2.1 (by decide)

end Packet

end MicroVm.Dhcp.V4

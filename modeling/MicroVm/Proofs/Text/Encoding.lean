import MicroVm.Text.Utf8

/-!
# Reading UTF-8 back

The bytes of a text are read back as that text. A character of more than one byte is read back
because its first byte leaves room for just the ranges that the second one can lie in.
-/

namespace MicroVm.Text

/-! ## First bytes -/

/-- The byte of an ASCII character leads nothing. -/
theorem leadByte?_one {code : Nat} (h : code < 0x80) : leadByte? code = some (code, []) := by
  rw [leadByte?, if_pos h]

theorem leadByte?_two {code : Nat} (hlow : 0x80 ≤ code) (hhigh : code < 0x800) :
    leadByte? (code / 64 % 32 + 192) = some (code / 64, [continuation]) := by
  rw [leadByte?, if_neg (by omega), if_neg (by omega), if_pos (by omega)]
  simp only [Option.some.injEq, Prod.mk.injEq, and_true]
  omega

/-- Long forms and surrogates are excluded by the range of the second byte. -/
theorem leadByte?_three {code : Nat} (hlow : 0x800 ≤ code) (hhigh : code < 0x10000)
    (hsurrogate : code < 0xd800 ∨ 0xdfff < code) :
    ∃ low high, leadByte? (code / 4096 % 16 + 224) =
        some (code / 4096, [(low, high), continuation]) ∧
      low ≤ code / 64 % 64 + 128 ∧ code / 64 % 64 + 128 ≤ high := by
  rw [leadByte?, if_neg (by omega), if_neg (by omega), if_neg (by omega)]
  split
  next hlead =>
    refine ⟨0xa0, 0xbf, ?_, by omega, by omega⟩
    rw [show code / 4096 = 0 by omega]
  next =>
    split
    next hlead =>
      refine ⟨0x80, 0x9f, ?_, by omega, by omega⟩
      rw [show code / 4096 = 0xd by omega]
    next =>
      refine ⟨0x80, 0xbf, ?_, by omega, by omega⟩
      rw [if_pos (by omega), show code / 4096 % 16 + 224 - 0xe0 = code / 4096 by omega]
      rfl

/-- Long forms and codes above the last are excluded by the range of the second byte. -/
theorem leadByte?_four {code : Nat} (hlow : 0x10000 ≤ code) (hhigh : code < 0x110000) :
    ∃ low high, leadByte? (code / 262144 % 8 + 240) =
        some (code / 262144, [(low, high), continuation, continuation]) ∧
      low ≤ code / 4096 % 64 + 128 ∧ code / 4096 % 64 + 128 ≤ high := by
  rw [leadByte?, if_neg (by omega), if_neg (by omega), if_neg (by omega), if_neg (by omega),
    if_neg (by omega), if_neg (by omega)]
  split
  next hlead =>
    refine ⟨0x90, 0xbf, ?_, by omega, by omega⟩
    rw [show code / 262144 = 0 by omega]
  next =>
    split
    next hlead =>
      refine ⟨0x80, 0xbf, ?_, by omega, by omega⟩
      rw [show code / 262144 % 8 + 240 - 0xf0 = code / 262144 by omega]
      rfl
    next =>
      refine ⟨0x80, 0x8f, ?_, by omega, by omega⟩
      rw [if_pos (by omega), show code / 262144 = 4 by omega]

/-! ## Characters -/

theorem continueChar_cons {bits low high byte : Nat} {ranges : List (Nat × Nat)}
    (hlow : low ≤ byte) (hhigh : byte ≤ high) (hbyte : byte < 256) (rest : List UInt8) :
    continueChar bits ((low, high) :: ranges) (UInt8.ofNat byte :: rest) =
      continueChar (bits * 64 + (byte - 128)) ranges rest := by
  rw [continueChar, UInt8.toNat_ofNat_of_lt' hbyte, if_pos ⟨hlow, hhigh⟩]

theorem continueChar_continuation {bits code : Nat} {ranges : List (Nat × Nat)}
    (rest : List UInt8) :
    continueChar bits (continuation :: ranges) (UInt8.ofNat (code % 64 + 128) :: rest) =
      continueChar (bits * 64 + code % 64) ranges rest := by
  rw [continuation, continueChar_cons (by omega) (by omega) (by omega), Nat.add_sub_cancel]

theorem utf8Step_of_lead {lead bits : Nat} {ranges : List (Nat × Nat)} (hlead : lead < 256)
    (hbits : leadByte? lead = some (bits, ranges)) (rest : List UInt8) :
    utf8Step (UInt8.ofNat lead) rest = continueChar bits ranges rest := by
  rw [utf8Step, UInt8.toNat_ofNat_of_lt' hlead, hbits]

theorem continueChar_nil (c : Char) (rest : List UInt8) :
    continueChar c.toNat [] rest = .char c rest := by
  rw [continueChar, Char.ofNat_toNat]

section Lengths

variable {c : Char}

theorem utf8Step_one (h : c.toNat < 0x80) (rest : List UInt8) :
    utf8Step (UInt8.ofNat c.toNat) rest = .char c rest := by
  calc utf8Step (UInt8.ofNat c.toNat) rest
      = continueChar c.toNat [] rest := utf8Step_of_lead (by omega) (leadByte?_one h) rest
    _ = .char c rest := continueChar_nil c rest

theorem utf8Step_two (hlow : 0x80 ≤ c.toNat) (hhigh : c.toNat < 0x800) (rest : List UInt8) :
    utf8Step (UInt8.ofNat (c.toNat / 64 % 32 + 192)) (UInt8.ofNat (c.toNat % 64 + 128) :: rest) =
      .char c rest := by
  have hlead := leadByte?_two hlow hhigh
  have hcode : c.toNat / 64 * 64 + c.toNat % 64 = c.toNat := by omega
  rw [utf8Step_of_lead (by omega) hlead, continueChar_continuation, hcode]
  exact continueChar_nil c rest

theorem utf8Step_three (hlow : 0x800 ≤ c.toNat) (hhigh : c.toNat < 0x10000) (rest : List UInt8) :
    utf8Step (UInt8.ofNat (c.toNat / 4096 % 16 + 224))
      (UInt8.ofNat (c.toNat / 64 % 64 + 128) :: UInt8.ofNat (c.toNat % 64 + 128) :: rest) =
      .char c rest := by
  have hvalid : c.toNat < 0xd800 ∨ (0xdfff < c.toNat ∧ c.toNat < 0x110000) := c.valid
  obtain ⟨low, high, hlead, hrange⟩ := leadByte?_three hlow hhigh (by omega)
  have hcode : (c.toNat / 4096 * 64 + (c.toNat / 64 % 64 + 128 - 128)) * 64 + c.toNat % 64 =
      c.toNat := by omega
  rw [utf8Step_of_lead (by omega) hlead, continueChar_cons hrange.1 hrange.2 (by omega),
    continueChar_continuation, hcode]
  exact continueChar_nil c rest

theorem utf8Step_four (hlow : 0x10000 ≤ c.toNat) (rest : List UInt8) :
    utf8Step (UInt8.ofNat (c.toNat / 262144 % 8 + 240))
      (UInt8.ofNat (c.toNat / 4096 % 64 + 128) :: UInt8.ofNat (c.toNat / 64 % 64 + 128) ::
        UInt8.ofNat (c.toNat % 64 + 128) :: rest) = .char c rest := by
  have hvalid : c.toNat < 0xd800 ∨ (0xdfff < c.toNat ∧ c.toNat < 0x110000) := c.valid
  obtain ⟨low, high, hlead, hrange⟩ := leadByte?_four hlow (by omega)
  have hcode : ((c.toNat / 262144 * 64 + (c.toNat / 4096 % 64 + 128 - 128)) * 64 +
      c.toNat / 64 % 64) * 64 + c.toNat % 64 = c.toNat := by omega
  rw [utf8Step_of_lead (by omega) hlead, continueChar_cons hrange.1 hrange.2 (by omega),
    continueChar_continuation, continueChar_continuation, hcode]
  exact continueChar_nil c rest

end Lengths

theorem utf8EncodeChar_eq (c : Char) : String.utf8EncodeChar c =
    if c.toNat ≤ 127 then [UInt8.ofNat c.toNat]
    else if c.toNat ≤ 2047 then
      [UInt8.ofNat (c.toNat / 64 % 32 + 192), UInt8.ofNat (c.toNat % 64 + 128)]
    else if c.toNat ≤ 65535 then
      [UInt8.ofNat (c.toNat / 4096 % 16 + 224), UInt8.ofNat (c.toNat / 64 % 64 + 128),
        UInt8.ofNat (c.toNat % 64 + 128)]
    else
      [UInt8.ofNat (c.toNat / 262144 % 8 + 240), UInt8.ofNat (c.toNat / 4096 % 64 + 128),
        UInt8.ofNat (c.toNat / 64 % 64 + 128), UInt8.ofNat (c.toNat % 64 + 128)] := rfl

/-- The bytes of a character are read as that character, whatever follows them. -/
theorem exists_utf8EncodeChar_eq (c : Char) :
    ∃ first more, String.utf8EncodeChar c = first :: more ∧
      ∀ rest, utf8Step first (more ++ rest) = .char c rest := by
  rw [utf8EncodeChar_eq]
  split
  next => exact ⟨_, _, rfl, utf8Step_one (by omega)⟩
  next =>
    split
    next => exact ⟨_, _, rfl, utf8Step_two (by omega) (by omega)⟩
    next =>
      split
      next => exact ⟨_, _, rfl, utf8Step_three (by omega) (by omega)⟩
      next => exact ⟨_, _, rfl, utf8Step_four (by omega)⟩

/-! ## Texts -/

/-- Reading goes on behind a character that was read. -/
theorem decodeStrict?_cons {first : UInt8} {bytes rest : List UInt8} {c : Char}
    (hstep : utf8Step first bytes = .char c rest) :
    decodeStrict? (first :: bytes) = (decodeStrict? rest).map (c :: ·) := by
  rw [decodeStrict?]
  split
  next found after hfound =>
    rw [hstep] at hfound
    cases hfound
    rfl
  next hfound =>
    rw [hstep] at hfound
    cases hfound

/-- A text is read back from the bytes of its characters. -/
theorem decodeStrict?_flatMap_utf8EncodeChar (text : List Char) :
    decodeStrict? (text.flatMap String.utf8EncodeChar) = some text := by
  induction text with
  | nil => rw [List.flatMap_nil, decodeStrict?]
  | cons c text ih =>
    obtain ⟨first, more, hbytes, hstep⟩ := exists_utf8EncodeChar_eq c
    rw [List.flatMap_cons, hbytes, List.cons_append, decodeStrict?_cons (hstep _), ih]
    rfl

theorem toList_loop_eq (bytes : ByteArray) (i : Nat) (front : List UInt8) :
    ByteArray.toList.loop bytes i front = front.reverse ++ bytes.data.toList.drop i := by
  fun_induction ByteArray.toList.loop bytes i front with
  | case1 i front hlt ih =>
    have hlength : i < bytes.data.toList.length := by simpa using hlt
    rw [ih, List.drop_eq_getElem_cons hlength]
    simp [ByteArray.get!, hlt]
  | case2 i front hge =>
    rw [List.drop_eq_nil_of_le (by simpa using Nat.le_of_not_lt hge), List.append_nil]

/-- The bytes of a text are those of its characters. -/
theorem bytesOfText_ofList (text : List Char) :
    bytesOfText (String.ofList text) = text.flatMap String.utf8EncodeChar := by
  calc bytesOfText (String.ofList text)
      = (text.flatMap String.utf8EncodeChar).toByteArray.toList := by
        rw [bytesOfText, String.toUTF8_eq_toByteArray, String.toByteArray_ofList, List.utf8Encode]
    _ = (text.flatMap String.utf8EncodeChar).toByteArray.data.toList := by
        rw [ByteArray.toList, toList_loop_eq]
        rfl
    _ = text.flatMap String.utf8EncodeChar := List.toList_data_toByteArray

/-- The bytes of a text are read as that text. -/
theorem decodeStrict?_bytesOfText (text : String) :
    decodeStrict? (bytesOfText text) = some text.toList := by
  rw [← String.ofList_toList (s := text), bytesOfText_ofList,
    decodeStrict?_flatMap_utf8EncodeChar, String.toList_ofList]

end MicroVm.Text

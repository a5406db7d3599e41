import MicroVm.Dhcp.V4.Wire

/-!
# The grammar of options

What may follow the mark of a packet is said here as a grammar, with no word on how it is read:
fillers and options in any order, up to the end of the bytes or to an end code that leaves the rest
without meaning. All other bytes are cut off inside of an option, after its code or in its value.

Reading agrees with the grammar. It gives options exactly when the bytes spell them, it refuses the
bytes exactly when they are cut off, and it names the code of the option where they are.
-/

namespace MicroVm.Dhcp.V4

/-- A code that an option can have. -/
def IsOptionCode (code : UInt8) : Prop := 1 ≤ code.toNat ∧ code.toNat ≤ 254

instance (code : UInt8) : Decidable (IsOptionCode code) :=
  inferInstanceAs (Decidable (1 ≤ code.toNat ∧ code.toNat ≤ 254))

theorem isOptionCode_iff {code : UInt8} :
    IsOptionCode code ↔ code ≠ Code.pad ∧ code ≠ Code.last := by
  have hsize := code.toNat_lt
  simp only [IsOptionCode, Code.pad, Code.last, ne_eq, ← UInt8.toNat_inj, UInt8.reduceToNat]
  omega

/-- Bytes that spell options: the end of the bytes, a filler in front, an end code with anything
after it, or an option in front. -/
inductive Spells : List UInt8 → List Entry → Prop
  | nothing : Spells [] []
  | filler {rest : List UInt8} {options : List Entry} (hrest : Spells rest options) :
      Spells (0 :: rest) options
  | last (anything : List UInt8) : Spells (255 :: anything) []
  | option {code length : UInt8} {value rest : List UInt8} {options : List Entry}
      (hcode : IsOptionCode code) (hlength : value.length = length.toNat)
      (hrest : Spells rest options) :
      Spells (code :: length :: (value ++ rest)) ((code, value) :: options)

/-- Bytes that are cut off in an option with the given code, before its length or in its value. -/
inductive CutsOff : List UInt8 → UInt8 → Prop
  | filler {rest : List UInt8} {cut : UInt8} (hrest : CutsOff rest cut) : CutsOff (0 :: rest) cut
  | option {code length cut : UInt8} {value rest : List UInt8} (hcode : IsOptionCode code)
      (hlength : value.length = length.toNat) (hrest : CutsOff rest cut) :
      CutsOff (code :: length :: (value ++ rest)) cut
  | beforeLength {cut : UInt8} (hcode : IsOptionCode cut) : CutsOff [cut] cut
  | inValue {cut length : UInt8} {rest : List UInt8} (hcode : IsOptionCode cut)
      (hshort : rest.length < length.toNat) : CutsOff (cut :: length :: rest) cut

/-- What is spelled has the codes and the lengths of options. -/
theorem Spells.forall_mem {bytes : List UInt8} {options : List Entry}
    (hspells : Spells bytes options) :
    ∀ entry ∈ options, IsOptionCode entry.1 ∧ entry.2.length ≤ 255 := by
  induction hspells with
  | nothing => simp
  | filler _ ih => exact ih
  | last => simp
  | @option code length value rest options hcode hlength _ ih =>
    have hsize := length.toNat_lt
    have hvalue : value.length ≤ 255 := by omega
    simpa [hcode, hvalue] using ih

/-! ## Reading and the grammar -/

theorem exists_readOptions_of_spells {bytes : List UInt8} {options : List Entry}
    (hspells : Spells bytes options) : ∃ rest, readOptions bytes = .ok (options, rest) := by
  induction hspells with
  | nothing => exact ⟨[], readOptions_nil⟩
  | @filler rest _ _ ih =>
    obtain ⟨after, hafter⟩ := ih
    exact ⟨after, (readOptions_filler rest).trans hafter⟩
  | last anything => exact ⟨anything, readOptions_last anything⟩
  | option hcode hlength _ ih =>
    obtain ⟨after, hafter⟩ := ih
    obtain ⟨hpad, hlast⟩ := isOptionCode_iff.1 hcode
    exact ⟨after, by rw [readOptions_entry hpad hlast hlength, hafter]; rfl⟩

theorem readOptions_of_cutsOff {bytes : List UInt8} {code : UInt8} (hcut : CutsOff bytes code) :
    readOptions bytes = .error (.refused (.optionTruncated code)) := by
  induction hcut with
  | @filler rest _ _ ih => exact (readOptions_filler rest).trans ih
  | option hcode hlength _ ih =>
    obtain ⟨hpad, hlast⟩ := isOptionCode_iff.1 hcode
    rw [readOptions_entry hpad hlast hlength, ih]
    rfl
  | beforeLength hcode =>
    obtain ⟨hpad, hlast⟩ := isOptionCode_iff.1 hcode
    exact readOptions_alone hpad hlast
  | inValue hcode hshort =>
    obtain ⟨hpad, hlast⟩ := isOptionCode_iff.1 hcode
    exact readOptions_short hpad hlast hshort

/-- All bytes spell options or are cut off in one. -/
theorem spells_or_cutsOff (bytes : List UInt8) :
    (∃ options, Spells bytes options) ∨ ∃ code, CutsOff bytes code := by
  induction bytes using options_induction with
  | nothing => exact .inl ⟨[], .nothing⟩
  | filler rest ih =>
    obtain ⟨options, hspells⟩ | ⟨code, hcut⟩ := ih
    · exact .inl ⟨options, .filler hspells⟩
    · exact .inr ⟨code, .filler hcut⟩
  | last rest => exact .inl ⟨[], .last rest⟩
  | alone code hpad hlast => exact .inr ⟨code, .beforeLength (isOptionCode_iff.2 ⟨hpad, hlast⟩)⟩
  | short code length rest hpad hlast hshort =>
    exact .inr ⟨code, .inValue (isOptionCode_iff.2 ⟨hpad, hlast⟩) hshort⟩
  | entry code length value rest hpad hlast hlength ih =>
    have hcode := isOptionCode_iff.2 ⟨hpad, hlast⟩
    obtain ⟨options, hspells⟩ | ⟨cut, hcut⟩ := ih
    · exact .inl ⟨_, .option hcode hlength hspells⟩
    · exact .inr ⟨cut, .option hcode hlength hcut⟩

/-- The options that are read are those that the bytes spell. -/
theorem exists_readOptions_iff {bytes : List UInt8} {options : List Entry} :
    (∃ rest, readOptions bytes = .ok (options, rest)) ↔ Spells bytes options := by
  refine ⟨fun ⟨rest, hread⟩ ↦ ?_, exists_readOptions_of_spells⟩
  obtain ⟨spelled, hspells⟩ | ⟨code, hcut⟩ := spells_or_cutsOff bytes
  · obtain ⟨after, hafter⟩ := exists_readOptions_of_spells hspells
    rw [hafter] at hread
    cases hread
    exact hspells
  · rw [readOptions_of_cutsOff hcut] at hread
    cases hread

end MicroVm.Dhcp.V4

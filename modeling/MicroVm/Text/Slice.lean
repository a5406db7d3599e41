/-!
# Slices of a text

A place in a text is told by the number of bytes before it. A text can be sliced where a character
begins and at its end, and nowhere else.
-/

namespace MicroVm.Text

/-- The first place where `needle` occurs. -/
def find? (needle : List Char) : List Char → Option Nat
  | [] => if needle.isEmpty then some 0 else none
  | c :: text =>
    if needle.isPrefixOf (c :: text) then some 0 else (find? needle text).map (c.utf8Size + ·)

/-- The text from a place on, unless the place is inside a character or after the end. -/
def sliceFrom? (place : Nat) (text : List Char) : Option (List Char) :=
  if h : (⟨place⟩ : String.Pos.Raw).IsValid (String.ofList text) then
    some ((String.ofList text).sliceFrom ⟨⟨place⟩, h⟩).copy.toList
  else none

/-- A slice is what remains of the text after as many bytes as its place tells. -/
theorem sliceFrom?_eq_some_iff {place : Nat} {text rest : List Char} :
    sliceFrom? place text = some rest ↔
      ∃ front, text = front ++ rest ∧ (String.ofList front).utf8ByteSize = place := by
  constructor
  · intro hslice
    rw [sliceFrom?] at hslice
    split at hslice
    next hvalid =>
      have hsplits := String.Pos.splits ⟨⟨place⟩, hvalid⟩
      refine ⟨((String.ofList text).sliceTo ⟨⟨place⟩, hvalid⟩).copy.toList, ?_, ?_⟩
      · rw [← Option.some.inj hslice, ← String.toList_append, ← hsplits.eq_append,
          String.toList_ofList]
      · rw [String.ofList_toList]
        exact (congrArg String.Pos.Raw.byteIdx hsplits.offset_eq_rawEndPos).symm
    next => cases hslice
  · rintro ⟨front, rfl, rfl⟩
    have hvalid : (⟨(String.ofList front).utf8ByteSize⟩ : String.Pos.Raw).IsValid
        (String.ofList (front ++ rest)) :=
      String.Pos.Raw.isValid_iff_exists_append.2 ⟨_, _, String.ofList_append, rfl⟩
    have hsplits : String.Pos.Splits ⟨_, hvalid⟩ (String.ofList front) (String.ofList rest) :=
      ⟨String.ofList_append, rfl⟩
    rw [sliceFrom?, dif_pos hvalid, (String.Pos.splits _).eq_right hsplits, String.toList_ofList]

/-- What is found stands after as many bytes as its place tells. -/
theorem exists_append_of_find? {needle text : List Char} {place : Nat}
    (hfound : find? needle text = some place) :
    ∃ before after, text = before ++ needle ++ after ∧
      (String.ofList before).utf8ByteSize = place := by
  induction text generalizing place with
  | nil =>
    rw [find?, Option.ite_none_right_eq_some, List.isEmpty_iff] at hfound
    obtain ⟨rfl, hplace⟩ := hfound
    cases hplace
    exact ⟨[], [], rfl, rfl⟩
  | cons c text ih =>
    rw [find?] at hfound
    split at hfound
    next hprefix =>
      obtain ⟨after, hafter⟩ := List.isPrefixOf_iff_prefix.1 hprefix
      cases hfound
      exact ⟨[], after, hafter.symm, rfl⟩
    next =>
      obtain ⟨later, hlater, rfl⟩ := Option.map_eq_some_iff.1 hfound
      obtain ⟨before, after, rfl, rfl⟩ := ih hlater
      refine ⟨c :: before, after, rfl, ?_⟩
      rw [String.ofList_cons, String.utf8ByteSize_append, String.utf8ByteSize_singleton]

/-- A text can be sliced right after what was found. -/
theorem exists_sliceFrom?_of_find? {needle text : List Char} {place : Nat}
    (hfound : find? needle text = some place) :
    ∃ front rest, text = front ++ rest ∧
      sliceFrom? (place + (String.ofList needle).utf8ByteSize) text = some rest := by
  obtain ⟨before, after, rfl, rfl⟩ := exists_append_of_find? hfound
  refine ⟨before ++ needle, after, rfl,
    sliceFrom?_eq_some_iff.2 ⟨before ++ needle, rfl, ?_⟩⟩
  rw [String.ofList_append, String.utf8ByteSize_append]

end MicroVm.Text

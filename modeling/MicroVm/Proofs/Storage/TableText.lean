import Mathlib.Data.List.Basic
import MicroVm.Proofs.Text.Digits
import MicroVm.Proofs.Text.Items
import MicroVm.Proofs.Text.Occurrence
import MicroVm.Storage.Table
import MicroVm.Text.Blank

/-!
# Reading the text of a table

The device mapper takes a table as a text. It has a line for each segment, and a line has words: the
first sector, the number of sectors and what the segment is. Blanks stand between the words, so the
paths in a table have to be words themselves. Then a table is read from its own text.
-/

namespace MicroVm

namespace Text

/-! ## Words -/

/-- The words of a text. -/
def words (text : List Char) : List (List Char) :=
  (text.splitOnP isBlank).filter fun word ↦ !word.isEmpty

/-- Whether a text has no blanks. -/
def HasNoBlank (text : List Char) : Prop := ∀ c ∈ text, isBlank c = false

instance (text : List Char) : Decidable (HasNoBlank text) :=
  List.decidableBAll (fun c ↦ isBlank c = false) text

/-- Whether a text is a word, which has characters but no blanks. -/
structure IsWord (text : List Char) : Prop where
  ne_nil : text ≠ []
  hasNoBlank : HasNoBlank text

/-- The number that a word of digits stands for. -/
def natural? (word : List Char) : Option ℕ :=
  if !word.isEmpty && word.all Char.isDigit then some (valueOfDigits word) else none

variable {word rest : List Char}

theorem IsWord.words_eq (hword : IsWord word) : words word = [word] := by
  rw [words, List.splitOnP_eq_singleton hword.hasNoBlank]
  exact List.filter_eq_self.2 (by simp [hword.ne_nil])

/-- A word ends at a blank. -/
theorem IsWord.words_append (hword : IsWord word) (rest : List Char) :
    words (word ++ ' ' :: rest) = word :: words rest := by
  have hblank : isBlank ' ' = true := rfl
  rw [words, List.splitOnP_append_cons _ _ hblank, List.filter_append]
  exact congrArg (· ++ words rest) hword.words_eq

theorem IsWord.append {other : List Char} (hword : IsWord word)
    (hother : HasNoBlank other) : IsWord (word ++ other) where
  ne_nil := List.append_ne_nil_of_left_ne_nil hword.ne_nil other
  hasNoBlank c hc := by
    obtain hfirst | hlater := List.mem_append.1 hc
    · exact hword.hasNoBlank c hfirst
    · exact hother c hlater

theorem IsWord.newline_notMem (hword : IsWord word) : '\n' ∉ word := by
  intro hmem
  have hblank := hword.hasNoBlank '\n' hmem
  exact absurd hblank (by decide)

/-- Words with blanks between them are the words of the text. -/
theorem words_intercalate {parts : List (List Char)} (hparts : ∀ part ∈ parts, IsWord part)
    (hne : parts ≠ []) : words ([' '].intercalate parts) = parts := by
  induction parts with
  | nil => exact absurd rfl hne
  | cons part parts ih =>
    obtain ⟨hpart, hlater⟩ := List.forall_mem_cons.1 hparts
    cases parts with
    | nil => rw [List.intercalate_singleton, hpart.words_eq]
    | cons other parts =>
      rw [List.intercalate_cons_cons, List.append_assoc, List.singleton_append, hpart.words_append,
        ih hlater (List.cons_ne_nil other parts)]

/-- Words with blanks between them stand on one line. -/
theorem newline_notMem_intercalate {parts : List (List Char)}
    (hparts : ∀ part ∈ parts, IsWord part) : '\n' ∉ [' '].intercalate parts := by
  induction parts with
  | nil => exact List.not_mem_nil
  | cons part parts ih =>
    obtain ⟨hpart, hlater⟩ := List.forall_mem_cons.1 hparts
    cases parts with
    | nil =>
      rw [List.intercalate_singleton]
      exact hpart.newline_notMem
    | cons other parts =>
      rw [List.intercalate_cons_cons, List.append_assoc, List.singleton_append, List.mem_append,
        List.mem_cons]
      rintro (hfirst | hblank | hrest)
      · exact hpart.newline_notMem hfirst
      · cases hblank
      · exact ih hlater hrest

theorem isWord_decimal (n : ℕ) : IsWord (decimal n) where
  ne_nil := decimal_ne_nil n
  hasNoBlank _ hc := isBlank_of_isDigit (isDigit_of_mem_decimal hc)

/-- Sector numbers are read back. -/
theorem natural?_decimal (n : ℕ) : natural? (decimal n) = some n := by
  have hdigits : (decimal n).all Char.isDigit = true :=
    List.all_eq_true.2 fun _ ↦ isDigit_of_mem_decimal
  have hne : (decimal n).isEmpty = false := List.isEmpty_eq_false_iff.2 (decimal_ne_nil n)
  rw [natural?, hdigits, hne, valueOfDigits_decimal]
  rfl

theorem toList_toString (n : ℕ) : (toString n).toList = decimal n := by
  rw [Nat.toString_eq_repr, Nat.repr_eq_ofList_toDigits, String.toList_ofList]
  rfl

end Text

namespace Storage

open Text

/-! ## Reading -/

/-- The target that words stand for. -/
def Target.ofWords? : List (List Char) → Option Target
  | [kind] => if kind = "zero".toList then some .zero else none
  | [kind, device, offset] =>
    if kind = "linear".toList then (natural? offset).map (.linear (String.ofList device)) else none
  | [kind, origin, store, mode, chunk] =>
    if kind = "snapshot".toList ∧ mode = "P".toList then
      (natural? chunk).map (.snapshot (String.ofList origin) (String.ofList store))
    else none
  | _ => none

/-- The segment that a line stands for. -/
def Segment.ofLine? (line : List Char) : Option Segment :=
  match words line with
  | start :: length :: target => do
    return ⟨← natural? start, ← natural? length, ← Target.ofWords? target⟩
  | _ => none

/-- The table that a text stands for. -/
def Table.ofText? (text : String) : Option Table :=
  (splitOn '\n' text.toList).mapM Segment.ofLine?

/-! ## A table and its text -/

/-- The devices that a target is on. -/
def Target.devices : Target → List String
  | .linear device _ => [device]
  | .zero => []
  | .snapshot origin store _ => [origin, store]

/-- The words of a target. -/
def Target.words : Target → List (List Char)
  | .linear device offset => ["linear".toList, device.toList, decimal offset]
  | .zero => ["zero".toList]
  | .snapshot origin store chunkSectors =>
    ["snapshot".toList, origin.toList, store.toList, "P".toList, decimal chunkSectors]

/-- A target is read back from its words. -/
theorem Target.ofWords?_words (target : Target) : ofWords? target.words = some target := by
  cases target with
  | zero => rfl
  | linear device offset =>
    rw [words, ofWords?, if_pos rfl, natural?_decimal, String.ofList_toList]
    rfl
  | snapshot origin store chunkSectors =>
    rw [words, ofWords?, if_pos ⟨rfl, rfl⟩, natural?_decimal, String.ofList_toList,
      String.ofList_toList]
    rfl

/-- The words of a segment. -/
def Segment.words (segment : Segment) : List (List Char) :=
  decimal segment.start :: decimal segment.length :: segment.target.words

variable {target : Target} {segment : Segment} {table : Table}

theorem Target.toList_text : target.text.toList = [' '].intercalate target.words := by
  cases target with
  | zero => rfl
  | linear device offset =>
    simp only [text, words, String.toList_append, toList_toString, List.intercalate_cons_cons,
      List.intercalate_singleton, List.append_assoc]
    rfl
  | snapshot origin store chunkSectors =>
    simp only [text, words, String.toList_append, toList_toString, List.intercalate_cons_cons,
      List.intercalate_singleton, List.append_assoc]
    rfl

theorem Target.words_ne_nil : target.words ≠ [] := by
  cases target <;> exact List.cons_ne_nil _ _

/-- A segment is written as its words with blanks between them. -/
theorem Segment.toList_text : segment.text.toList = [' '].intercalate segment.words := by
  rw [words, List.intercalate_cons_cons, List.intercalate_cons_of_ne_nil Target.words_ne_nil,
    ← Target.toList_text]
  simp only [text, String.toList_append, toList_toString, List.append_assoc]
  rfl

/-- A table is written with one segment on each line. -/
theorem Table.toList_text :
    table.text.toList = ['\n'].intercalate (table.map fun segment ↦ segment.text.toList) := by
  induction table with
  | nil => rfl
  | cons segment table ih =>
    cases table with
    | nil => exact List.intercalate_singleton.symm
    | cons other table =>
      have hlines : (other :: table).map (fun segment ↦ segment.text.toList) ≠ [] :=
        List.cons_ne_nil _ _
      rw [text, String.toList_append, String.toList_append, ih, List.map_cons (a := segment),
        List.intercalate_cons_of_ne_nil hlines]
      · rfl
      · exact nofun

/-- Whether the devices of a segment are named by words. -/
def Segment.HasWords (segment : Segment) : Prop :=
  ∀ device ∈ segment.target.devices, IsWord device.toList

/-- A target whose devices are words consists of words. -/
theorem Target.isWord_of_mem_words (hdevices : ∀ device ∈ target.devices, IsWord device.toList) :
    ∀ word ∈ target.words, IsWord word := by
  cases target with
  | zero =>
    intro word hword
    obtain rfl := List.mem_singleton.1 hword
    exact ⟨by decide, by decide⟩
  | linear device offset =>
    have hdevice : IsWord device.toList := hdevices device List.mem_cons_self
    have hlast : ∀ word ∈ [device.toList, decimal offset], IsWord word :=
      List.forall_mem_cons.2 ⟨hdevice, List.forall_mem_singleton.2 (isWord_decimal offset)⟩
    exact List.forall_mem_cons.2 ⟨⟨by decide, by decide⟩, hlast⟩
  | snapshot origin store chunkSectors =>
    obtain ⟨horigin, hrest⟩ := List.forall_mem_cons.1 hdevices
    have hstore : IsWord store.toList := hrest store List.mem_cons_self
    have hlast : ∀ word ∈ ["P".toList, decimal chunkSectors], IsWord word :=
      List.forall_mem_cons.2
        ⟨⟨by decide, by decide⟩, List.forall_mem_singleton.2 (isWord_decimal chunkSectors)⟩
    exact List.forall_mem_cons.2 ⟨⟨by decide, by decide⟩,
      List.forall_mem_cons.2 ⟨horigin, List.forall_mem_cons.2 ⟨hstore, hlast⟩⟩⟩

theorem Segment.HasWords.isWord (hsegment : segment.HasWords) :
    ∀ word ∈ segment.words, IsWord word :=
  List.forall_mem_cons.2 ⟨isWord_decimal _, List.forall_mem_cons.2
    ⟨isWord_decimal _, Target.isWord_of_mem_words hsegment⟩⟩

/-- A segment is read from its line. -/
theorem Segment.HasWords.ofLine?_text (hsegment : segment.HasWords) :
    ofLine? segment.text.toList = some segment := by
  rw [ofLine?, toList_text, words_intercalate hsegment.isWord (List.cons_ne_nil _ _)]
  dsimp only [words]
  rw [natural?_decimal, natural?_decimal, Target.ofWords?_words]
  rfl

/-- A table is read from its text. -/
theorem Table.ofText?_text (hsegments : ∀ segment ∈ table, segment.HasWords)
    (htable : table ≠ []) : ofText? table.text = some table := by
  have hlines : ∀ line ∈ table.map fun segment ↦ segment.text.toList, '\n' ∉ line := by
    intro line hline
    obtain ⟨segment, hsegment, rfl⟩ := List.mem_map.1 hline
    rw [Segment.toList_text]
    exact newline_notMem_intercalate (hsegments segment hsegment).isWord
  rw [ofText?, toList_text, splitOn_intercalate hlines (mt List.map_eq_nil_iff.1 htable)]
  exact mapM_map_eq_some fun segment hsegment ↦ (hsegments segment hsegment).ofLine?_text

end Storage

end MicroVm

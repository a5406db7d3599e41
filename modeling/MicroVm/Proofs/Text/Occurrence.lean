import Mathlib.Data.List.Infix
import MicroVm.Text.Blank
import MicroVm.Text.Slice
import MicroVm.Text.Split

/-!
# Occurrence in a text

A text occurs in another one when there is something before it and something after it that make up
the other one. Lowering letters keeps occurrences. A text that a separator does not belong to occurs
on one side of the separator or on the other, so putting texts together with a separator between
them adds no occurrence.
-/

namespace MicroVm.Text

theorem dropBeginning?_eq_some_iff {beginning text rest : List Char} :
    dropBeginning? beginning text = some rest ↔ text = beginning ++ rest := by
  induction beginning generalizing text with
  | nil => simp [dropBeginning?, eq_comm]
  | cons b beginning ih =>
    cases text with
    | nil => simp [dropBeginning?]
    | cons c text =>
      rw [dropBeginning?]
      split
      · next hequal => simp [hequal, ih]
      · next hequal => simp [Ne.symm hequal]

theorem dropBeginning?_isSome_iff {beginning text : List Char} :
    (dropBeginning? beginning text).isSome ↔ beginning <+: text := by
  rw [Option.isSome_iff_exists]
  exact exists_congr fun rest ↦ dropBeginning?_eq_some_iff.trans eq_comm

/-- To occur is to be an infix. -/
theorem occursIn_iff {needle text : List Char} : occursIn needle text ↔ needle <:+: text := by
  unfold occursIn
  induction text with
  | nil => rw [afterFirst?, dropBeginning?_isSome_iff, List.prefix_nil, List.infix_nil]
  | cons c text ih =>
    rw [afterFirst?, List.infix_cons_iff, ← dropBeginning?_isSome_iff, ← ih]
    split
    · next hfound => simp [hfound]
    · next hmissing => simp [hmissing]

/-- A text that occurs still does so when all letters are lowered. -/
theorem lowered_infix {needle text : List Char} (hoccurs : needle <:+: text) :
    lowered needle <:+: lowered text :=
  hoccurs.map Char.toLower

/-- A text is found where it occurs, unless it occurs earlier, perhaps with all but its last
character before that place. -/
theorem find?_append {needle before after : List Char} (hne : needle ≠ [])
    (hfirst : ¬ needle <:+: before ++ needle.dropLast) :
    find? needle (before ++ needle ++ after) = some (String.ofList before).utf8ByteSize := by
  induction before with
  | nil =>
    obtain ⟨c, start, rfl⟩ := List.exists_cons_of_ne_nil hne
    have hprefix : (c :: start).isPrefixOf (c :: (start ++ after)) :=
      List.isPrefixOf_iff_prefix.2 (List.prefix_append (c :: start) after)
    rw [List.nil_append, List.cons_append, find?, if_pos hprefix]
    rfl
  | cons c before ih =>
    have hlater : ¬ needle <:+: before ++ needle.dropLast := fun hoccurs ↦
      hfirst (List.infix_cons_iff.2 (.inr hoccurs))
    have hfront : ¬ needle.isPrefixOf (c :: (before ++ needle ++ after)) := by
      rw [List.isPrefixOf_iff_prefix, List.append_assoc]
      intro hprefix
      -- at least one character stands before, so the last one of the needle there is not needed
      have hothers : c :: before ++ needle.dropLast <+: c :: before ++ (needle ++ after) :=
        (List.prefix_append_right_inj _).2 (needle.dropLast_prefix.trans (List.prefix_append _ _))
      have hlength : needle.length ≤ (c :: before ++ needle.dropLast).length := by
        rw [List.length_append, List.length_cons, List.length_dropLast]
        omega
      exact hfirst (List.prefix_of_prefix_length_le hprefix hothers hlength).isInfix
    rw [List.cons_append, List.cons_append, find?, if_neg hfront, ih hlater, Option.map_some,
      String.ofList_cons, String.utf8ByteSize_append, String.utf8ByteSize_singleton]

/-! ## Separators -/

section Separators

variable {c : Char} {needle start before after : List Char}

/-- A text without a separator is at the front when it is before the separator. -/
theorem prefix_append_cons_iff (habsent : c ∉ needle) :
    needle <+: before ++ c :: after ↔ needle <+: before := by
  constructor
  · intro hprefix
    obtain hshorter | hlonger :=
      List.prefix_or_prefix_of_prefix hprefix (List.prefix_append before (c :: after))
    · exact hshorter
    · obtain ⟨rest, rfl⟩ := hlonger
      cases rest with
      | nil => rw [List.append_nil]
      | cons d rest =>
        have hhead := List.cons_prefix_cons.1 ((List.prefix_append_right_inj before).1 hprefix)
        rw [hhead.1] at habsent
        exact absurd (List.mem_append_right before List.mem_cons_self) habsent
  · intro hprefix
    exact hprefix.trans (List.prefix_append before (c :: after))

/-- A text without a separator lies on one side of it. -/
theorem infix_append_cons_iff (habsent : c ∉ needle) :
    needle <:+: before ++ c :: after ↔ needle <:+: before ∨ needle <:+: after := by
  induction before with
  | nil =>
    have hfront : needle <+: c :: after ↔ needle <+: [] := by
      rw [← List.nil_append (c :: after), prefix_append_cons_iff habsent]
    rw [List.nil_append, List.infix_cons_iff, hfront, List.prefix_nil, List.infix_nil]
  | cons b before ih =>
    rw [List.cons_append, List.infix_cons_iff, ih, ← List.cons_append,
      prefix_append_cons_iff habsent, List.infix_cons_iff, or_assoc]

/-- A text that begins with a separator occurs at a separator. -/
theorem cons_infix_append_cons_iff (habsent : c ∉ before) :
    c :: start <:+: before ++ c :: after ↔ start <+: after ∨ c :: start <:+: after := by
  induction before with
  | nil => rw [List.nil_append, List.infix_cons_iff, List.cons_prefix_cons, and_iff_right rfl]
  | cons b before ih =>
    obtain ⟨hfirst, hlater⟩ := not_or.1 (List.mem_cons.not.1 habsent)
    rw [List.cons_append, List.infix_cons_iff, List.cons_prefix_cons, ih hlater]
    exact or_iff_right fun hhead ↦ hfirst hhead.1

/-- A separator with a text after it occurs between parts only where a later one begins with the
text. -/
theorem exists_prefix_of_infix_intercalate {parts : List (List Char)}
    (hparts : ∀ part ∈ parts, c ∉ part) (hstart : c ∉ start)
    (hoccurs : c :: start <:+: [c].intercalate parts) : ∃ part ∈ parts.tail, start <+: part := by
  induction parts with
  | nil => exact absurd (List.infix_nil.1 hoccurs) (List.cons_ne_nil c start)
  | cons part parts ih =>
    obtain ⟨hpart, hlater⟩ := List.forall_mem_cons.1 hparts
    cases parts with
    | nil =>
      rw [List.intercalate_singleton] at hoccurs
      exact absurd (hoccurs.subset List.mem_cons_self) hpart
    | cons other parts =>
      rw [List.intercalate_cons_cons, List.append_assoc, List.singleton_append,
        cons_infix_append_cons_iff hpart] at hoccurs
      obtain hfront | hinner := hoccurs
      · refine ⟨other, List.mem_cons_self, ?_⟩
        cases parts with
        | nil => rwa [List.intercalate_singleton] at hfront
        | cons another parts =>
          rwa [List.intercalate_cons_cons, List.append_assoc, List.singleton_append,
            prefix_append_cons_iff hstart] at hfront
      · obtain ⟨found, hmem, hprefix⟩ := ih hlater hinner
        exact ⟨found, List.mem_cons_of_mem other hmem, hprefix⟩

/-- Dropping characters from the front that cannot begin a text keeps its occurrences. -/
theorem infix_dropWhile_iff {p : Char → Bool} (hfirst : needle.head?.any p = false) :
    needle <:+: after.dropWhile p ↔ needle <:+: after := by
  induction after with
  | nil => rfl
  | cons b after ih =>
    rw [List.dropWhile_cons]
    split
    next hdropped =>
      rw [ih, List.infix_cons_iff]
      refine (or_iff_right_of_imp fun hprefix ↦ ?_).symm
      cases needle with
      | nil => exact List.nil_infix
      | cons c start =>
        obtain ⟨rfl, -⟩ := List.cons_prefix_cons.1 hprefix
        have hkept : p c = false := hfirst
        rw [hkept] at hdropped
        cases hdropped
    next => rfl

/-- Trimming keeps what neither begins nor ends with a blank. -/
theorem infix_trim_iff (hfirst : needle.head?.any isBlank = false)
    (hlast : needle.getLast?.any isBlank = false) :
    needle <:+: trim after ↔ needle <:+: after := by
  unfold trim trimStart
  rw [← List.reverse_infix, List.reverse_reverse, infix_dropWhile_iff, List.reverse_infix,
    infix_dropWhile_iff hfirst]
  rwa [List.head?_reverse]

end Separators

/-! ## Blanks and capital letters -/

/-- Capital letters are lowered by a fixed distance, and nothing else changes. -/
theorem toLower_cases (c : Char) :
    (65 ≤ c.toNat ∧ c.toNat ≤ 90 ∧ c.toLower.toNat = c.toNat + 32) ∨ c.toLower = c := by
  unfold Char.toLower
  split
  next hcapital =>
    have hcode : 65 ≤ c.toNat ∧ c.toNat ≤ 90 := hcapital
    refine .inl ⟨hcode.1, hcode.2, ?_⟩
    change (c.val + 32).toNat = c.toNat + 32
    rw [UInt32.toNat_add]
    change (c.toNat + 32) % _ = _
    omega
  next => exact .inr rfl

/-- A character that comes before the letters is not made by lowering one. -/
theorem mem_lowered_iff {c : Char} {text : List Char} (hcode : c.toNat < 65) :
    c ∈ lowered text ↔ c ∈ text := by
  have hlowers (d : Char) : d.toLower = c ↔ d = c := by
    obtain ⟨hlow, -, hsmall⟩ | hsame := toLower_cases d
    · refine iff_of_false ?_ ?_
      · rintro rfl
        omega
      · rintro rfl
        omega
    · rw [hsame]
  unfold lowered
  simp only [List.mem_map, hlowers, exists_eq_right]

/-- No character of ASCII after the space is blank. -/
theorem isBlank_of_visible {c : Char} (hcode : 32 < c.toNat ∧ c.toNat < 127) :
    isBlank c = false := by
  simp only [isBlank, Bool.or_eq_false_iff, Bool.and_eq_false_iff, decide_eq_false_iff_not,
    beq_eq_false_iff_ne]
  omega

theorem isBlank_of_isDigit {c : Char} (hdigit : c.isDigit = true) : isBlank c = false := by
  have hcode : 48 ≤ c.toNat ∧ c.toNat ≤ 57 := by
    rw [Char.isDigit, Bool.and_eq_true, decide_eq_true_eq, decide_eq_true_eq] at hdigit
    exact hdigit
  exact isBlank_of_visible ⟨by omega, by omega⟩

theorem isBlank_toLower (c : Char) : isBlank c.toLower = isBlank c := by
  obtain ⟨hlow, hhigh, hsmall⟩ | hsame := toLower_cases c
  · rw [isBlank_of_visible (c := c) (by omega), isBlank_of_visible (by omega)]
  · rw [hsame]

theorem lowered_append (before after : List Char) :
    lowered (before ++ after) = lowered before ++ lowered after :=
  List.map_append

theorem lowered_intercalate (separator : List Char) (parts : List (List Char)) :
    lowered (separator.intercalate parts) =
      (lowered separator).intercalate (parts.map lowered) := by
  induction parts with
  | nil => rfl
  | cons part parts ih =>
    cases parts with
    | nil => rw [List.map_singleton, List.intercalate_singleton, List.intercalate_singleton]
    | cons other parts =>
      rw [List.intercalate_cons_cons, lowered_append, lowered_append, ih]
      exact List.intercalate_cons_cons.symm

/-- Lowering letters makes no blanks and removes none. -/
theorem lowered_trim (text : List Char) : lowered (trim text) = trim (lowered text) := by
  have hstart (text : List Char) : lowered (trimStart text) = trimStart (lowered text) := by
    unfold lowered trimStart
    rw [List.dropWhile_map]
    congr 2
    funext c
    exact (isBlank_toLower c).symm
  have hreverse (text : List Char) : lowered text.reverse = (lowered text).reverse :=
    List.map_reverse
  unfold trim
  rw [hreverse, hstart, hreverse, hstart]

end MicroVm.Text

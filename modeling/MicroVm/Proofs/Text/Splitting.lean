import MicroVm.Text.Split

/-!
# Where a text splits

A text without the separator is one part. The parts before a separator and those after it are the
parts of the whole, and put together again with the separator they are the text. A run of characters
of a kind ends where another character follows.
-/

namespace MicroVm.Text

variable {separator : Char}

/-- A text without the separator is one part. -/
theorem splitOn_of_not_mem {part : List Char} (h : separator ∉ part) :
    splitOn separator part = [part] := by
  induction part with
  | nil => rfl
  | cons c part ih =>
    have hc : c ≠ separator := fun heq ↦ h (heq ▸ List.mem_cons_self)
    have hpart : separator ∉ part := fun hmem ↦ h (List.mem_cons_of_mem _ hmem)
    rw [splitOn, if_neg hc, ih hpart]

/-- A separator divides a text into what is before it and what is after it. -/
theorem splitOn_append_cons (before after : List Char) :
    splitOn separator (before ++ separator :: after) =
      splitOn separator before ++ splitOn separator after := by
  induction before with
  | nil => rw [List.nil_append, splitOn, splitOn, if_pos rfl, List.singleton_append]
  | cons c before ih =>
    rw [List.cons_append, splitOn, splitOn, ih]
    split
    · rfl
    · cases hparts : splitOn separator before with
      | nil => exact absurd hparts (splitOn_ne_nil separator before)
      | cons part parts => rfl

/-- The parts with the separator between them are the text again. -/
theorem intercalate_splitOn (separator : Char) (text : List Char) :
    [separator].intercalate (splitOn separator text) = text := by
  induction text with
  | nil => exact List.intercalate_singleton
  | cons c text ih =>
    rw [splitOn]
    cases hparts : splitOn separator text with
    | nil => exact absurd hparts (splitOn_ne_nil separator text)
    | cons part parts =>
      rw [hparts] at ih
      split
      next hc =>
        rw [List.intercalate_cons_cons, ih, hc]
        rfl
      next =>
        cases parts with
        | nil => rw [List.intercalate_singleton] at ih ⊢; rw [ih]
        | cons other parts =>
          rw [List.intercalate_cons_cons] at ih ⊢
          rw [List.cons_append, List.cons_append, ih]

/-- Parts with the separator between them are the parts of the text. -/
theorem splitOn_intercalate {parts : List (List Char)} (hparts : ∀ part ∈ parts, separator ∉ part)
    (hne : parts ≠ []) : splitOn separator ([separator].intercalate parts) = parts := by
  induction parts with
  | nil => exact absurd rfl hne
  | cons part parts ih =>
    obtain ⟨hpart, hlater⟩ := List.forall_mem_cons.1 hparts
    cases parts with
    | nil => rw [List.intercalate_singleton, splitOn_of_not_mem hpart]
    | cons other parts =>
      rw [List.intercalate_cons_cons, List.append_assoc, List.singleton_append,
        splitOn_append_cons, splitOn_of_not_mem hpart, ih hlater (List.cons_ne_nil other parts)]
      rfl

theorem notMem_of_mem_splitOn {text part : List Char} (hpart : part ∈ splitOn separator text) :
    separator ∉ part := by
  induction text generalizing part with
  | nil =>
    rw [List.mem_singleton.1 hpart]
    exact List.not_mem_nil
  | cons c text ih =>
    rw [splitOn] at hpart
    split at hpart
    next =>
      obtain rfl | hlater := List.mem_cons.1 hpart
      · exact List.not_mem_nil
      · exact ih hlater
    next hc =>
      split at hpart
      next hnone => exact absurd hnone (splitOn_ne_nil separator text)
      next first others hparts =>
        rw [hparts] at ih
        obtain rfl | hlater := List.mem_cons.1 hpart
        · exact List.not_mem_cons_of_ne_of_not_mem (Ne.symm hc) (ih List.mem_cons_self)
        · exact ih (List.mem_cons_of_mem first hlater)

/-- Whether a text consists of parts with the separator between them and in none of them. -/
def HasParts (separator : Char) (text : List Char) (parts : List (List Char)) : Prop :=
  text = [separator].intercalate parts ∧ ∀ part ∈ parts, separator ∉ part

/-- The parts of a text are those that it is put together from. -/
theorem splitOn_eq_iff {text : List Char} {parts : List (List Char)} (hne : parts ≠ []) :
    splitOn separator text = parts ↔ HasParts separator text parts := by
  constructor
  · rintro rfl
    exact ⟨(intercalate_splitOn separator text).symm, fun _ ↦ notMem_of_mem_splitOn⟩
  · rintro ⟨rfl, hparts⟩
    exact splitOn_intercalate hparts hne

/-- What joins the texts of items by putting the separator in front of all but the first. -/
theorem eq_intercalate_map {α : Type} {write : α → List Char} {join : List α → List Char}
    (hnil : join [] = []) (hone : ∀ item, join [item] = write item)
    (hmore : ∀ item other items,
      join (item :: other :: items) = write item ++ [separator] ++ join (other :: items))
    (items : List α) : join items = [separator].intercalate (items.map write) := by
  induction items with
  | nil => exact hnil
  | cons item items ih =>
    cases items with
    | nil => exact (hone item).trans List.intercalate_singleton.symm
    | cons other items =>
      rw [List.map_cons] at ih
      rw [hmore, ih, List.map_cons, List.map_cons, List.intercalate_cons_cons]

/-- The first separator divides a text in two. -/
theorem splitOnce_append_cons {before : List Char} (h : separator ∉ before) (after : List Char) :
    splitOnce separator (before ++ separator :: after) = some (before, after) := by
  induction before with
  | nil => rw [List.nil_append, splitOnce, if_pos rfl]
  | cons c before ih =>
    have hc : c ≠ separator := (List.ne_of_not_mem_cons h).symm
    rw [List.cons_append, splitOnce, if_neg hc, ih (List.not_mem_of_not_mem_cons h)]
    rfl

theorem splitOnce_eq_some_iff {text before after : List Char} :
    splitOnce separator text = some (before, after) ↔
      text = before ++ separator :: after ∧ separator ∉ before := by
  constructor
  · intro hsplit
    induction text generalizing before with
    | nil => cases hsplit
    | cons c text ih =>
      rw [splitOnce] at hsplit
      split at hsplit
      next hc =>
        cases hsplit
        exact ⟨by rw [hc, List.nil_append], List.not_mem_nil⟩
      next hc =>
        obtain ⟨⟨front, rest⟩, hrest, hpair⟩ := Option.map_eq_some_iff.1 hsplit
        cases hpair
        obtain ⟨htext, hfront⟩ := ih hrest
        exact ⟨congrArg (c :: ·) htext, List.not_mem_cons_of_ne_of_not_mem (Ne.symm hc) hfront⟩
  · rintro ⟨rfl, hbefore⟩
    exact splitOnce_append_cons hbefore after

theorem splitOnce_eq_none_iff {text : List Char} :
    splitOnce separator text = none ↔ separator ∉ text := by
  constructor
  · intro hnone hmem
    obtain ⟨before, after, rfl, hbefore⟩ := List.eq_append_cons_of_mem hmem
    rw [splitOnce_append_cons hbefore] at hnone
    cases hnone
  · intro habsent
    rw [Option.eq_none_iff_forall_ne_some]
    rintro ⟨before, after⟩ hsplit
    rw [(splitOnce_eq_some_iff.1 hsplit).1] at habsent
    exact habsent (List.mem_append_right before List.mem_cons_self)

section Runs

variable {p : Char → Bool} {front rest : List Char}

theorem takeWhile_append_of_stop (hfront : ∀ c ∈ front, p c = true)
    (hstop : ∀ c ∈ rest.head?, p c = false) : (front ++ rest).takeWhile p = front := by
  rw [List.takeWhile_append_of_pos hfront]
  cases rest with
  | nil => simp
  | cons c rest => simp [hstop c rfl]

theorem dropWhile_append_of_stop (hfront : ∀ c ∈ front, p c = true)
    (hstop : ∀ c ∈ rest.head?, p c = false) : (front ++ rest).dropWhile p = rest := by
  rw [List.dropWhile_append_of_pos hfront]
  cases rest with
  | nil => rfl
  | cons c rest => simp [hstop c rfl]

end Runs

end MicroVm.Text

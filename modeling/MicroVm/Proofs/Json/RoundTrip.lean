import Mathlib.Data.List.DropRight
import MicroVm.Json.Parser
import MicroVm.Json.Printer
import MicroVm.Proofs.Text.Digits

/-!
# Reading JSON text back

Every value is read back from its indented text, with all its strings, numbers and members. The
readers of the parts are followed with an arbitrary text after the part, which for a number must
not go on with it.
-/

namespace MicroVm.Json

/-! ## Spaces -/

theorem skipSpace_cons {c : Char} (h : isSpace c = false) (text : List Char) :
    skipSpace (c :: text) = c :: text := by
  rw [skipSpace, List.dropWhile_cons, h]
  rfl

/-- A line break is skipped with its indentation. -/
theorem skipSpace_newLine (level : Nat) (text : List Char) :
    skipSpace (newLine level ++ text) = skipSpace text := by
  have hspaces : ∀ c ∈ newLine level, isSpace c = true := by
    intro c hmem
    rcases List.mem_cons.1 hmem with rfl | hmem
    · rfl
    · rw [List.eq_of_mem_replicate hmem]
      rfl
  exact List.dropWhile_append_of_pos hspaces

theorem skipSpace_newLine_cons (level : Nat) {c : Char} (h : isSpace c = false)
    (text : List Char) : skipSpace (newLine level ++ c :: text) = c :: text := by
  rw [skipSpace_newLine, skipSpace_cons h]

@[simp]
theorem length_newLine (level : Nat) : (newLine level).length = 2 * level + 1 := by
  simp [newLine]

theorem skipSpace_skipSpace (text : List Char) : skipSpace (skipSpace text) = skipSpace text :=
  List.dropWhile_idempotent isSpace text

/-- Reading a value does not depend on the space before it. -/
theorem readValue_of_skipSpace {text other : List Char} (h : skipSpace text = skipSpace other)
    (fuel : Nat) : readValue fuel text = readValue fuel other := by
  cases fuel with
  | zero => rw [readValue, readValue]
  | succ fuel => rw [readValue, readValue, h]

theorem readValue_newLine (level fuel : Nat) (text : List Char) :
    readValue fuel (newLine level ++ text) = readValue fuel text :=
  readValue_of_skipSpace (skipSpace_newLine level text) fuel

theorem readValue_space (fuel : Nat) (text : List Char) :
    readValue fuel (' ' :: text) = readValue fuel text :=
  readValue_of_skipSpace (List.dropWhile_cons_of_pos rfl) fuel

/-- Reading items does not depend on the space before them. -/
theorem readItems_of_skipSpace {text other : List Char} (h : skipSpace text = skipSpace other)
    (fuel : Nat) : readItems fuel text = readItems fuel other := by
  cases fuel with
  | zero => rw [readItems, readItems]
  | succ fuel => rw [readItems, readItems, readValue_of_skipSpace h]

/-- Reading members does not depend on the space before them. -/
theorem readMembers_of_skipSpace {text other : List Char} (h : skipSpace text = skipSpace other)
    (fuel : Nat) : readMembers fuel text = readMembers fuel other := by
  cases fuel with
  | zero => rw [readMembers, readMembers]
  | succ fuel => rw [readMembers, readMembers, h]

/-! ## Strings -/

theorem hexValue?_digitChar : ∀ n < 16, hexValue? (Nat.digitChar n) = some n := by decide

theorem unit?_digitChar {n : Nat} (h : n < 256) :
    unit? '0' '0' (Nat.digitChar (n / 16)) (Nat.digitChar (n % 16)) = some n := by
  have hhigh := hexValue?_digitChar (n / 16) (by omega)
  have hlow := hexValue?_digitChar (n % 16) (by omega)
  have hzero := hexValue?_digitChar 0 (by decide)
  change hexValue? '0' = some 0 at hzero
  simp only [unit?, hzero, hhigh, hlow, Option.pure_def, Option.bind_eq_bind, Option.bind_some,
    Option.some.injEq]
  omega

/-- A unit below the surrogates is a character of its own. -/
theorem joinPieces?_unit {u : Nat} (h : u < 0xd800) (pieces : List Piece) :
    joinPieces? (.unit u :: pieces) = (joinPieces? pieces).map (Char.ofNat u :: ·) := by
  have hlow : ¬ (0xd800 ≤ u ∧ u < 0xdc00) := by omega
  have hhigh : ¬ (0xdc00 ≤ u ∧ u < 0xe000) := by omega
  have hboth : ¬ (0xd800 ≤ u ∧ u < 0xe000) := by omega
  rcases pieces with _ | ⟨c | low, pieces⟩
  · simp only [joinPieces?, if_neg hboth]
  · simp only [joinPieces?, if_neg hboth]
  · rw [joinPieces?, if_neg hlow, if_neg hhigh]

/-- Adds a piece in front of those that were read. -/
def Piece.before (piece : Piece) : List Piece × List Char → List Piece × List Char
  | (pieces, rest) => (piece :: pieces, rest)

/-- A short escape is read as the character it stands for. -/
theorem readPieces_shortEscape {e c : Char} (h : shortEscape? e = some c) (rest : List Char) :
    readPieces ('\\' :: e :: rest) = (readPieces rest).map (Piece.char c).before := by
  have hunit : e ≠ 'u' := by
    rintro rfl
    cases h
  rw [readPieces, h]
  · cases readPieces rest <;> rfl
  · rintro _ _ _ _ _ rfl
    exact absurd rfl hunit

theorem readPieces_unit {a b c d : Char} {u : Nat} (h : unit? a b c d = some u)
    (rest : List Char) : readPieces ('\\' :: 'u' :: a :: b :: c :: d :: rest) =
      (readPieces rest).map (Piece.unit u).before := by
  rw [readPieces, h]
  cases readPieces rest <;> rfl

/-- A character without a meaning of its own is read as itself. -/
theorem readPieces_char {c : Char} (hquote : c ≠ '"') (hescape : c ≠ '\\')
    (hcontrol : ¬ c.toNat < 0x20) (rest : List Char) :
    readPieces (c :: rest) = (readPieces rest).map (Piece.char c).before := by
  rw [readPieces, if_neg hcontrol]
  · cases readPieces rest <;> rfl
  · exact hquote
  · rintro _ _ _ _ _ rfl
    exact absurd rfl hescape
  · rintro _ _ rfl
    exact absurd rfl hescape

/-- A character is written in such a way that one piece is read there, which stands for it. -/
theorem exists_piece (c : Char) :
    ∃ piece : Piece,
      (∀ rest, readPieces (printChar c ++ rest) = (readPieces rest).map piece.before) ∧
      ∀ pieces, joinPieces? (piece :: pieces) = (joinPieces? pieces).map (c :: ·) := by
  unfold printChar
  split
  · exact ⟨.char '"', readPieces_shortEscape rfl, fun _ ↦ rfl⟩
  · exact ⟨.char '\\', readPieces_shortEscape rfl, fun _ ↦ rfl⟩
  · exact ⟨.char '\x08', readPieces_shortEscape rfl, fun _ ↦ rfl⟩
  · exact ⟨.char '\x0c', readPieces_shortEscape rfl, fun _ ↦ rfl⟩
  · exact ⟨.char '\n', readPieces_shortEscape rfl, fun _ ↦ rfl⟩
  · exact ⟨.char '\r', readPieces_shortEscape rfl, fun _ ↦ rfl⟩
  · exact ⟨.char '\t', readPieces_shortEscape rfl, fun _ ↦ rfl⟩
  next hquote hescape _ _ _ _ _ =>
    split
    next hcontrol =>
      have hbyte : c.toNat.toUInt8.toNat = c.toNat :=
        UInt8.toNat_ofNat_of_lt' (show c.toNat < 256 by omega)
      refine ⟨.unit c.toNat, fun rest ↦ ?_, fun pieces ↦ ?_⟩
      · rw [Text.hexByte, hbyte]
        exact readPieces_unit (unit?_digitChar (by omega)) rest
      · rw [joinPieces?_unit (by omega), Char.ofNat_toNat]
    next hcontrol => exact ⟨.char c, readPieces_char hquote hescape hcontrol, fun _ ↦ rfl⟩

/-- The pieces of a printed text are joined to the text. -/
theorem exists_pieces (text rest : List Char) :
    ∃ pieces, readPieces (text.flatMap printChar ++ '"' :: rest) = some (pieces, rest) ∧
      joinPieces? pieces = some text := by
  induction text with
  | nil => exact ⟨[], rfl, rfl⟩
  | cons c text ih =>
    obtain ⟨piece, hread, hjoin⟩ := exists_piece c
    obtain ⟨pieces, hpieces, htext⟩ := ih
    refine ⟨piece :: pieces, ?_, ?_⟩
    · rw [List.flatMap_cons, List.append_assoc, hread, hpieces]
      rfl
    · rw [hjoin, htext]
      rfl

/-- A string is read back from behind its first quotation mark. -/
theorem exists_printString_eq (text : Option String) :
    ∃ body, printString text = '"' :: body ∧
      ∀ rest, readString (body ++ rest) = some (text, rest) := by
  cases text with
  | none => exact ⟨_, rfl, fun rest ↦ rfl⟩
  | some text =>
    refine ⟨_, rfl, fun rest ↦ ?_⟩
    obtain ⟨pieces, hread, hjoin⟩ := exists_pieces text.toList rest
    change readString (text.toList.flatMap printChar ++ ['"'] ++ rest) = _
    rw [List.append_assoc, readString]
    change (readPieces (text.toList.flatMap printChar ++ '"' :: rest)).map _ = _
    rw [hread, Option.map_some]
    dsimp only
    rw [hjoin, Option.map_some, String.ofList_toList]

/-! ## Numbers -/

/-- Whether a text does not go on with a number before it. -/
def EndsNumber (text : List Char) : Prop :=
  ∀ c ∈ text.head?, c.isDigit = false ∧ c ≠ '.' ∧ c ≠ 'e' ∧ c ≠ 'E'

theorem endsNumber_nil : EndsNumber [] := by
  intro c h
  cases h

theorem endsNumber_cons {c : Char} (h : c.isDigit = false ∧ c ≠ '.' ∧ c ≠ 'e' ∧ c ≠ 'E')
    (text : List Char) : EndsNumber (c :: text) := by
  intro _ hhead
  obtain rfl := Option.some.inj hhead
  exact h

theorem EndsNumber.endsDigits {text : List Char} (h : EndsNumber text) : Text.EndsDigits text :=
  fun c hhead ↦ (h c hhead).1

section Numbers

variable {rest : List Char}

theorem readDigitRun_decimal (n : Nat) (h : Text.EndsDigits rest) :
    readDigitRun (Text.decimal n ++ rest) = some (Text.decimal n, rest) := by
  have hdigits : ∀ c ∈ Text.decimal n, c.isDigit = true := fun c ↦ Text.isDigit_of_mem_decimal
  simp only [readDigitRun, Text.takeWhile_isDigit_append hdigits h,
    Text.dropWhile_isDigit_append hdigits h, List.isEmpty_iff, Text.decimal_ne_nil, if_false]

/-- The digits of a number are read back when no digit follows. -/
theorem readWhole_decimal (n : Nat) (h : Text.EndsDigits rest) :
    readWhole (Text.decimal n ++ rest) = some (Text.decimal n, rest) := by
  obtain rfl | hne := Nat.eq_zero_or_pos n
  · rfl
  · have hrun := readDigitRun_decimal n h
    have hzero := (Text.head?_decimal_eq_zero_iff n).not.2 hne.ne'
    obtain ⟨first, others, hfront⟩ := List.exists_cons_of_ne_nil (Text.decimal_ne_nil n)
    rw [hfront, List.head?_cons, Option.some.injEq] at hzero
    rw [hfront, List.cons_append] at hrun ⊢
    rw [readWhole, hrun]
    exact fun _ heq ↦ hzero (List.cons.inj heq).1

/-- Integers are read back. -/
theorem readSigned_printInt (n : Int) (h : Text.EndsDigits rest) :
    readSigned (printInt n ++ rest) = some (n, rest) := by
  cases n with
  | negSucc n =>
    change (readDigitRun (Text.decimal (n + 1) ++ rest)).map _ = _
    rw [readDigitRun_decimal _ h, Option.map_some]
    dsimp only
    rw [Text.valueOfDigits_decimal]
    rfl
  | ofNat n =>
    have hrun := readDigitRun_decimal n h
    obtain ⟨first, others, hfront⟩ := List.exists_cons_of_ne_nil (Text.decimal_ne_nil n)
    have hdigit : first.isDigit = true :=
      Text.isDigit_of_mem_decimal (hfront ▸ List.mem_cons_self)
    change readSigned (Text.decimal n ++ rest) = _
    rw [hfront, List.cons_append] at hrun ⊢
    rw [readSigned, hrun, Option.map_some, ← hfront]
    · dsimp only
      rw [Text.valueOfDigits_decimal]
      rfl
    · intro _ heq
      obtain ⟨rfl, -⟩ := List.cons.inj heq
      cases hdigit
    · intro _ heq
      obtain ⟨rfl, -⟩ := List.cons.inj heq
      cases hdigit

/-- The text of an exponent that may be missing. -/
def exponentText : Option Int → List Char
  | none => []
  | some exponent => 'e' :: printInt exponent

/-- Exponents are read back, and so is their absence. -/
theorem readExponent_exponentText (exponent : Option Int) (h : EndsNumber rest) :
    readExponent (exponentText exponent ++ rest) = some (exponent, rest) := by
  cases exponent with
  | some exponent =>
    change (readSigned (printInt exponent ++ rest)).map _ = _
    rw [readSigned_printInt exponent h.endsDigits]
    rfl
  | none =>
    cases rest with
    | nil => rfl
    | cons c rest =>
      obtain ⟨-, -, he, hE⟩ := h c rfl
      change readExponent (c :: rest) = _
      rw [readExponent]
      · exact fun _ heq ↦ he (List.cons.inj heq).1
      · exact fun _ heq ↦ hE (List.cons.inj heq).1

/-- After the digits of a number stands no other digit and no point. -/
theorem endsNumber_or_exponent (exponent : Option Int) (h : EndsNumber rest) :
    ∀ c ∈ (exponentText exponent ++ rest).head?, c.isDigit = false ∧ c ≠ '.' := by
  intro c hhead
  cases exponent with
  | none => exact ⟨(h c hhead).1, (h c hhead).2.1⟩
  | some exponent =>
    obtain rfl := Option.some.inj hhead
    decide

theorem readFraction_of_head {text : List Char} (h : ∀ c ∈ text.head?, c ≠ '.') :
    readFraction text = some (none, text) := by
  cases text with
  | nil => rfl
  | cons c text =>
    rw [readFraction]
    exact fun _ heq ↦ h c rfl (List.cons.inj heq).1

theorem readUnsigned_decimal (negative : Bool) (n : Nat) (exponent : Option Int)
    (h : EndsNumber rest) :
    readUnsigned negative (Text.decimal n ++ (exponentText exponent ++ rest)) =
      some (⟨negative, n, exponent⟩, rest) := by
  have hends := endsNumber_or_exponent exponent h
  have hwhole := readWhole_decimal n fun c hhead ↦ (hends c hhead).1
  have hfraction := readFraction_of_head fun c hhead ↦ (hends c hhead).2
  have hexponent := readExponent_exponentText exponent h
  simp only [readUnsigned, hwhole, hfraction, hexponent, Option.pure_def, Option.bind_eq_bind,
    Option.bind_some, Number.ofParts, Option.getD_none, List.append_nil,
    Text.valueOfDigits_decimal]
  cases exponent with
  | none => rfl
  | some exponent => simp

theorem printNumber_eq (n : Number) : printNumber n =
    (if n.negative then ['-'] else []) ++
      (Text.decimal n.significand ++ exponentText n.exponent) := by
  rw [printNumber, List.append_assoc]
  cases n.exponent <;> rfl

/-- A number begins with its sign or with a digit. -/
theorem head_printNumber (n : Number) :
    ∃ c text, printNumber n = c :: text ∧ (c = '-' ∨ c.isDigit = true) := by
  obtain ⟨first, others, hfront⟩ :=
    List.exists_cons_of_ne_nil (Text.decimal_ne_nil n.significand)
  rw [printNumber_eq]
  cases n.negative with
  | true => exact ⟨'-', _, rfl, .inl rfl⟩
  | false =>
    refine ⟨first, others ++ exponentText n.exponent, ?_, .inr ?_⟩
    · rw [hfront]
      rfl
    · exact Text.isDigit_of_mem_decimal (hfront ▸ List.mem_cons_self)

/-- Numbers are read back. -/
theorem readNumber_printNumber (n : Number) (h : EndsNumber rest) :
    readNumber (printNumber n ++ rest) = some (n, rest) := by
  obtain ⟨negative, significand, exponent⟩ := n
  have hunsigned := readUnsigned_decimal negative significand exponent h
  rw [printNumber_eq]
  dsimp only
  cases negative with
  | true =>
    change readUnsigned true (Text.decimal significand ++ exponentText exponent ++ rest) = _
    rw [List.append_assoc, hunsigned]
  | false =>
    change readNumber (Text.decimal significand ++ exponentText exponent ++ rest) = _
    obtain ⟨first, others, hfront⟩ :=
      List.exists_cons_of_ne_nil (Text.decimal_ne_nil significand)
    have hdigit : first.isDigit = true :=
      Text.isDigit_of_mem_decimal (hfront ▸ List.mem_cons_self)
    rw [List.append_assoc]
    rw [hfront, List.cons_append] at hunsigned ⊢
    rw [readNumber, hunsigned]
    intro _ heq
    obtain ⟨rfl, -⟩ := List.cons.inj heq
    cases hdigit

end Numbers

/-! ## Values -/

theorem isSpace_eq_false_of_number {c : Char} (h : c = '-' ∨ c.isDigit = true) :
    isSpace c = false := by
  by_contra hspace
  simp only [isSpace, Bool.not_eq_false, Bool.or_eq_true, beq_iff_eq] at hspace
  rcases hspace with ((rfl | rfl) | rfl) | rfl <;> simp at h

theorem readValue_number {fuel : Nat} {c : Char} {text : List Char}
    (h : c = '-' ∨ c.isDigit = true) :
    readValue (fuel + 1) (c :: text) =
      (readNumber (c :: text)).map fun (number, rest) ↦ (.number number, rest) := by
  rw [readValue, skipSpace_cons (isSpace_eq_false_of_number h)]
  split
  case h_7 => rfl
  all_goals
    next heq =>
      obtain ⟨rfl, -⟩ := List.cons.inj heq
      simp at h

theorem readValue_string {fuel : Nat} (text : List Char) :
    readValue (fuel + 1) ('"' :: text) =
      (readString text).map fun (found, rest) ↦ (.string found, rest) := by
  rw [readValue, skipSpace_cons rfl]
  rfl

/-- Behind a bracket stand items, unless the next one closes it. -/
theorem readValue_array {fuel : Nat} {text after : List Char} {c : Char}
    (hskip : skipSpace text = c :: after) (hc : c ≠ ']') :
    readValue (fuel + 1) ('[' :: text) =
      (readItems fuel text).map fun (items, rest) ↦ (.array items, rest) := by
  have hitems := readItems_of_skipSpace (skipSpace_skipSpace text) fuel
  rw [readValue, skipSpace_cons rfl]
  simp only
  rw [hskip] at hitems ⊢
  split
  next heq => exact absurd (List.cons.inj heq).1 hc
  next => rw [hitems]

/-- Behind a brace stand members, unless the next one closes it. -/
theorem readValue_object {fuel : Nat} {text after : List Char} {c : Char}
    (hskip : skipSpace text = c :: after) (hc : c ≠ '\x7d') :
    readValue (fuel + 1) ('\x7b' :: text) =
      (readMembers fuel text).map fun (members, rest) ↦ (.object members, rest) := by
  have hmembers := readMembers_of_skipSpace (skipSpace_skipSpace text) fuel
  rw [readValue, skipSpace_cons rfl]
  simp only
  rw [hskip] at hmembers ⊢
  split
  next heq => exact absurd (List.cons.inj heq).1 hc
  next => rw [hmembers]

/-- The text of a value begins with a character that is no space and closes no array. -/
theorem head_indentValue (level : Nat) (value : Value) :
    ∃ c text, indentValue level value = c :: text ∧ isSpace c = false ∧ c ≠ ']' := by
  cases value with
  | null => exact ⟨'n', _, rfl, rfl, by decide⟩
  | bool b => cases b <;> exact ⟨_, _, rfl, rfl, by decide⟩
  | number n =>
    obtain ⟨c, text, heq, hc⟩ := head_printNumber n
    refine ⟨c, text, heq, isSpace_eq_false_of_number hc, ?_⟩
    rintro rfl
    simp at hc
  | string text =>
    obtain ⟨body, heq, -⟩ := exists_printString_eq text
    exact ⟨'"', body, heq, rfl, by decide⟩
  | array items => cases items <;> exact ⟨'[', _, rfl, rfl, by decide⟩
  | object members => cases members <;> exact ⟨'\x7b', _, rfl, rfl, by decide⟩

section Indented

variable {level : Nat} {item : Value} {items : List Value} {name : Option String}
  {value : Value} {members : List (Option String × Value)} {rest : List Char} {fuel : Nat}

theorem indentValue_array (h : items ≠ []) : indentValue level (.array items) =
    '[' :: (indentItems (level + 1) items ++ (newLine level ++ [']'])) := by
  rw [indentValue, List.append_assoc, List.append_assoc]
  · rfl
  · exact h

theorem indentValue_object (h : members ≠ []) : indentValue level (.object members) =
    '\x7b' :: (indentMembers (level + 1) members ++ (newLine level ++ ['\x7d'])) := by
  rw [indentValue, List.append_assoc, List.append_assoc]
  · rfl
  · exact h

theorem indentItems_cons : indentItems level (item :: items) =
    newLine level ++ (indentValue level item ++
      if items = [] then [] else ',' :: indentItems level items) := by
  cases items <;> simp [indentItems]

theorem indentMembers_cons : indentMembers level ((name, value) :: members) =
    newLine level ++ (printString name ++ (':' :: ' ' :: (indentValue level value ++
      if members = [] then [] else ',' :: indentMembers level members))) := by
  cases members <;> simp [indentMembers]

/-- Printed items do not begin with a closing bracket. -/
theorem exists_skipSpace_indentItems (h : items ≠ []) (level : Nat) (tail : List Char) :
    ∃ c after, skipSpace (indentItems level items ++ tail) = c :: after ∧ c ≠ ']' := by
  obtain ⟨item, items, rfl⟩ := List.exists_cons_of_ne_nil h
  obtain ⟨c, text, hitem, hspace, hc⟩ := head_indentValue level item
  rw [indentItems_cons, List.append_assoc, skipSpace_newLine, hitem]
  exact ⟨c, _, skipSpace_cons hspace _, hc⟩

/-- Printed members do not begin with a closing brace. -/
theorem exists_skipSpace_indentMembers (h : members ≠ []) (level : Nat) (tail : List Char) :
    ∃ c after, skipSpace (indentMembers level members ++ tail) = c :: after ∧ c ≠ '\x7d' := by
  obtain ⟨⟨name, value⟩, members, rfl⟩ := List.exists_cons_of_ne_nil h
  obtain ⟨body, hname, -⟩ := exists_printString_eq name
  rw [indentMembers_cons, List.append_assoc, skipSpace_newLine, hname]
  exact ⟨'"', _, skipSpace_cons rfl _, by decide⟩

/-- The name of a member stands in quotes at the beginning of a line. -/
theorem exists_skipSpace_printString (name : Option String) (level : Nat) : ∃ body,
    (∀ tail, skipSpace (newLine level ++ (printString name ++ tail)) = '"' :: (body ++ tail)) ∧
      ∀ tail, readString (body ++ tail) = some (name, tail) := by
  obtain ⟨body, htext, hread⟩ := exists_printString_eq name
  refine ⟨body, fun tail ↦ ?_, hread⟩
  rw [htext, List.cons_append, skipSpace_newLine_cons level rfl]

/-- An item before a closing bracket is the last one. -/
theorem readItems_last {text after : List Char} (hread : readValue fuel text = some (item, after))
    (hskip : skipSpace after = ']' :: rest) : readItems (fuel + 1) text = some ([item], rest) := by
  simp [readItems, hread, hskip]

/-- A comma after an item leads to more items. -/
theorem readItems_more {text after next : List Char}
    (hread : readValue fuel text = some (item, after)) (hskip : skipSpace after = ',' :: next) :
    readItems (fuel + 1) text =
      (readItems fuel next).map fun (items, rest) ↦ (item :: items, rest) := by
  simp only [readItems, hread, hskip, Option.bind_eq_bind, Option.bind_some, Option.pure_def]
  cases readItems fuel next <;> rfl

/-- A member before a closing brace is the last one. -/
theorem readMembers_last {text before between after : List Char}
    (hquote : skipSpace text = '"' :: before) (hname : readString before = some (name, between))
    {body : List Char} (hcolon : skipSpace between = ':' :: body)
    (hread : readValue fuel body = some (value, after))
    (hskip : skipSpace after = '\x7d' :: rest) :
    readMembers (fuel + 1) text = some ([(name, value)], rest) := by
  simp [readMembers, hquote, hname, hcolon, hread, hskip]

/-- A comma after a member leads to more members. -/
theorem readMembers_more {text before between after next : List Char}
    (hquote : skipSpace text = '"' :: before) (hname : readString before = some (name, between))
    {body : List Char} (hcolon : skipSpace between = ':' :: body)
    (hread : readValue fuel body = some (value, after)) (hskip : skipSpace after = ',' :: next) :
    readMembers (fuel + 1) text =
      (readMembers fuel next).map fun (members, rest) ↦ ((name, value) :: members, rest) := by
  simp only [readMembers, hquote, hname, hcolon, hread, hskip, Option.bind_eq_bind,
    Option.bind_some, Option.pure_def]
  cases readMembers fuel next <;> rfl

end Indented

mutual

/-- A value is read back from its indented text, whatever stands behind it. -/
theorem readValue_indentValue (fuel level : Nat) (value : Value) {rest : List Char}
    (hfuel : (indentValue level value).length < fuel) (hrest : EndsNumber rest) :
    readValue fuel (indentValue level value ++ rest) = some (value, rest) := by
  obtain ⟨fuel, rfl⟩ := Nat.exists_eq_succ_of_ne_zero (Nat.ne_zero_of_lt hfuel)
  match value with
  | .null => rfl
  | .bool true => rfl
  | .bool false => rfl
  | .number n =>
    obtain ⟨c, text, heq, hc⟩ := head_printNumber n
    have hread := readNumber_printNumber n hrest
    rw [indentValue, heq, List.cons_append] at *
    rw [readValue_number hc, hread]
    rfl
  | .string text =>
    obtain ⟨body, heq, hread⟩ := exists_printString_eq text
    rw [indentValue, heq, List.cons_append, readValue_string, hread]
    rfl
  | .array [] => rfl
  | .object [] => rfl
  | .array (item :: items) =>
    have hne : item :: items ≠ [] := List.cons_ne_nil _ _
    obtain ⟨c, after, hskip, hc⟩ := exists_skipSpace_indentItems hne
      (level + 1) (newLine level ++ ']' :: rest)
    rw [indentValue_array hne] at hfuel ⊢
    have hitems := readItems_indentItems fuel (level + 1) level (item :: items) rest hne
      (by simp at hfuel; omega)
    have htext : indentItems (level + 1) (item :: items) ++ (newLine level ++ [']']) ++ rest =
        indentItems (level + 1) (item :: items) ++ (newLine level ++ ']' :: rest) := by simp
    rw [List.cons_append, htext, readValue_array hskip hc, hitems]
    rfl
  | .object (member :: members) =>
    have hne : member :: members ≠ [] := List.cons_ne_nil _ _
    obtain ⟨c, after, hskip, hc⟩ := exists_skipSpace_indentMembers hne
      (level + 1) (newLine level ++ '\x7d' :: rest)
    rw [indentValue_object hne] at hfuel ⊢
    have hmembers := readMembers_indentMembers fuel (level + 1) level (member :: members) rest
      hne (by simp at hfuel; omega)
    have htext :
        indentMembers (level + 1) (member :: members) ++ (newLine level ++ ['\x7d']) ++ rest =
        indentMembers (level + 1) (member :: members) ++ (newLine level ++ '\x7d' :: rest) := by
      simp
    rw [List.cons_append, htext, readValue_object hskip hc, hmembers]
    rfl

/-- Items are read back up to the bracket that closes their array. -/
theorem readItems_indentItems (fuel level below : Nat) (items : List Value) (rest : List Char)
    (hne : items ≠ []) (hfuel : (indentItems level items).length < fuel) :
    readItems fuel (indentItems level items ++ (newLine below ++ ']' :: rest)) =
      some (items, rest) := by
  obtain ⟨fuel, rfl⟩ := Nat.exists_eq_succ_of_ne_zero (Nat.ne_zero_of_lt hfuel)
  match items with
  | [item] =>
    have hafter : EndsNumber (newLine below ++ ']' :: rest) := endsNumber_cons (by decide) _
    have hitem := readValue_indentValue fuel level item
      (by simp [indentItems] at hfuel; omega) hafter
    rw [← readValue_newLine level] at hitem
    rw [indentItems, List.append_assoc,
      readItems_last hitem (skipSpace_newLine_cons below rfl rest)]
  | item :: next :: items =>
    have hitem := readValue_indentValue fuel level item
      (by simp [indentItems] at hfuel; omega)
      (endsNumber_cons (c := ',') (by decide)
        (indentItems level (next :: items) ++ (newLine below ++ ']' :: rest)))
    rw [← readValue_newLine level] at hitem
    have hitems := readItems_indentItems fuel level below (next :: items) rest
      (List.cons_ne_nil _ _) (by simp [indentItems] at hfuel ⊢; omega)
    rw [indentItems_cons, if_neg (List.cons_ne_nil _ _), List.append_assoc, List.append_assoc,
      List.cons_append, readItems_more hitem (skipSpace_cons rfl _), hitems]
    rfl

/-- Members are read back up to the brace that closes their object. -/
theorem readMembers_indentMembers (fuel level below : Nat)
    (members : List (Option String × Value)) (rest : List Char) (hne : members ≠ [])
    (hfuel : (indentMembers level members).length < fuel) :
    readMembers fuel (indentMembers level members ++ (newLine below ++ '\x7d' :: rest)) =
      some (members, rest) := by
  obtain ⟨fuel, rfl⟩ := Nat.exists_eq_succ_of_ne_zero (Nat.ne_zero_of_lt hfuel)
  match members with
  | [(name, value)] =>
    have hvalue := readValue_indentValue fuel level value
      (by simp [indentMembers] at hfuel; omega)
      (endsNumber_cons (c := '\n') (by decide)
        (List.replicate (2 * below) ' ' ++ '\x7d' :: rest))
    rw [← readValue_space] at hvalue
    obtain ⟨body, hquote, hname⟩ := exists_skipSpace_printString name level
    rw [indentMembers_cons, if_pos rfl, List.append_nil, List.append_assoc, List.append_assoc]
    exact readMembers_last (hquote _) (hname _) (skipSpace_cons rfl _) hvalue
      (skipSpace_newLine_cons below rfl rest)
  | (name, value) :: next :: members =>
    have hvalue := readValue_indentValue fuel level value
      (by simp [indentMembers] at hfuel; omega)
      (endsNumber_cons (c := ',') (by decide)
        (indentMembers level (next :: members) ++ (newLine below ++ '\x7d' :: rest)))
    rw [← readValue_space] at hvalue
    have hmembers := readMembers_indentMembers fuel level below (next :: members) rest
      (List.cons_ne_nil _ _) (by simp [indentMembers] at hfuel ⊢; omega)
    obtain ⟨body, hquote, hname⟩ := exists_skipSpace_printString name level
    have hmore := readMembers_more (hquote _) (hname _) (skipSpace_cons rfl _) hvalue
      (skipSpace_cons rfl _)
    rw [hmembers] at hmore
    rw [indentMembers_cons, if_neg (List.cons_ne_nil _ _)]
    simpa using hmore

end

/-- A value is read back from its indented text. -/
theorem parse?_pretty (value : Value) : parse? value.pretty.toList = some value := by
  rw [Value.pretty, String.toList_ofList]
  have hread := readValue_indentValue _ 0 value (Nat.lt_succ_self _) endsNumber_nil
  rw [List.append_nil] at hread
  simp only [parse?, hread]
  rfl

end MicroVm.Json

import MicroVm.Hypervisor.LogLine
import MicroVm.Proofs.Text.Occurrence

/-!
# The message of a log line

Whatever the hypervisor and its guest write, a line is never sliced inside a character, and what is
logged again is what the line ends with. A time stamp is taken off once and the name of an instance
once, so a message that looks like either is left as it is.
-/

namespace MicroVm.Hypervisor

variable {line text stamp name rest message : List Char}

/-! ## What may stand before a message -/

/-- Whether a text is a time stamp of this century. -/
structure IsTimeStamp (stamp : List Char) : Prop where
  century : "20".toList <+: stamp
  dash : stamp[4]? = some '-'
  noSpace : ' ' ∉ stamp

/-- The name of an instance as it stands in a line. -/
def label (name : List Char) : List Char := '[' :: name ++ [']', ' ']

theorem beginsWithTime_iff :
    beginsWithTime text ↔ "20".toList <+: text ∧ text[4]? = some '-' := by
  rw [beginsWithTime, Bool.and_eq_true, List.isPrefixOf_iff_prefix, beq_iff_eq]

theorem IsTimeStamp.beginsWithTime_append (hstamp : IsTimeStamp stamp) (rest : List Char) :
    beginsWithTime (stamp ++ rest) := by
  have hlength : 4 < stamp.length := (List.getElem?_eq_some_iff.1 hstamp.dash).1
  rw [beginsWithTime_iff, List.getElem?_append_left hlength]
  exact ⟨hstamp.century.trans (List.prefix_append stamp rest), hstamp.dash⟩

/-- In a label the bracket with the space after it stands at the end only. -/
theorem not_infix_label (hname : ¬ [']', ' '] <:+: name) :
    ¬ [']', ' '] <:+: '[' :: name ++ [']'] := by
  rw [List.infix_concat_iff, List.infix_cons_iff, List.cons_prefix_cons]
  rintro (⟨front, hlast⟩ | ⟨hfirst, -⟩ | hinside)
  · have hchars := congrArg List.getLast? hlast
    rw [List.getLast?_concat, List.getLast?_append_of_ne_nil _ (List.cons_ne_nil _ _)] at hchars
    exact absurd hchars (by decide)
  · exact absurd hfirst (by decide)
  · exact hname hinside

/-! ## Taking off -/

/-- A line is sliced after the first place of what it is searched for. -/
theorem dropThrough?_append {needle before after : List Char} {width : Nat} (hne : needle ≠ [])
    (hwidth : (String.ofList needle).utf8ByteSize = width)
    (hfirst : ¬ needle <:+: before ++ needle.dropLast) :
    dropThrough? true needle width (before ++ needle ++ after) = some after := by
  rw [dropThrough?, if_pos rfl, Text.find?_append hne hfirst]
  refine Text.sliceFrom?_eq_some_iff.2 ⟨before ++ needle, rfl, ?_⟩
  rw [String.ofList_append, String.utf8ByteSize_append, hwidth]

theorem dropThrough?_false (needle : List Char) (width : ℕ) (line : List Char) :
    dropThrough? false needle width line = some line := rfl

/-- What follows a time stamp and a blank is what is left. -/
theorem dropTime?_stamp (hstamp : IsTimeStamp stamp) (rest : List Char) :
    dropTime? (stamp ++ [' '] ++ rest) = some rest := by
  have hfirst : ¬ [' '] <:+: stamp ++ [' '].dropLast := by
    rw [List.dropLast_singleton, List.append_nil]
    exact fun hspace ↦ hstamp.noSpace (hspace.subset List.mem_cons_self)
  have hbegins : beginsWithTime (stamp ++ [' '] ++ rest) := by
    rw [List.append_assoc]
    exact hstamp.beginsWithTime_append _
  rw [dropTime?, hbegins]
  exact dropThrough?_append (List.cons_ne_nil _ _) rfl hfirst

theorem dropTime?_eq_self (hline : ¬ "20".toList <+: line) : dropTime? line = some line := by
  have hbegins : beginsWithTime line = false := by
    rw [← Bool.not_eq_true, beginsWithTime_iff]
    exact fun hboth ↦ hline hboth.1
  rw [dropTime?, hbegins, dropThrough?_false]

theorem dropInstance?_label (hname : ¬ [']', ' '] <:+: name) (message : List Char) :
    dropInstance? (label name ++ message) = some message := by
  have hbegins : ((label name ++ message).head? == some '[') = true := rfl
  rw [dropInstance?, hbegins]
  exact dropThrough?_append (List.cons_ne_nil _ _) rfl (not_infix_label hname)

theorem dropInstance?_eq_self (hline : line.head? ≠ some '[') :
    dropInstance? line = some line := by
  rw [dropInstance?, beq_eq_false_iff_ne.2 hline, dropThrough?_false]

/-! ## Messages -/

theorem logMessage?_eq (line : List Char) : logMessage? line = some (logMessage line) :=
  (Option.some_get _).symm

theorem logMessage_suffix (line : List Char) : logMessage line <:+ line := by
  obtain ⟨front, message, hline, hmessage⟩ := exists_logMessage?_eq line
  rw [logMessage?_eq, Option.some_inj] at hmessage
  rw [hmessage, hline]
  exact List.suffix_append front message

/-- A line is never sliced inside a character, and its message is what it ends with. A time stamp
and a label are taken off once, and a line that begins like neither is left as it is. -/
theorem logMessage_follows_label :
    (∀ line, logMessage? line = some (logMessage line) ∧ logMessage line <:+ line) ∧
      (∀ name message, ¬ [']', ' '] <:+: name →
        logMessage? (label name ++ message) = some message ∧
          ∀ stamp, IsTimeStamp stamp →
            logMessage? (stamp ++ [' '] ++ (label name ++ message)) = some message) ∧
      ∀ line, ¬ "20".toList <+: line → line.head? ≠ some '[' → logMessage? line = some line := by
  refine ⟨fun line ↦ ⟨logMessage?_eq line, logMessage_suffix line⟩, ?_, ?_⟩
  · intro name message hname
    have hinstance := dropInstance?_label hname message
    have htime : dropTime? (label name ++ message) = some (label name ++ message) :=
      dropTime?_eq_self fun hcentury ↦ absurd (List.cons_prefix_cons.1 hcentury).1 (by decide)
    exact ⟨logMessage?_eq_some htime hinstance,
      fun stamp hstamp ↦ logMessage?_eq_some (dropTime?_stamp hstamp _) hinstance⟩
  · intro line htime hinstance
    exact logMessage?_eq_some (dropTime?_eq_self htime) (dropInstance?_eq_self hinstance)

/-- A message that looks like a line of its own. -/
theorem logMessage_follows_label_lookalike :
    IsTimeStamp "2025-11-15T17:18:55".toList ∧ ¬ [']', ' '] <:+: "é:main]".toList ∧
      logMessage? ("2025-11-15T17:18:55".toList ++ [' '] ++
        (label "é:main]".toList ++ "[fc] 2025-01-01 [ü] ".toList)) =
          some "[fc] 2025-01-01 [ü] ".toList := by
  have hstamp : IsTimeStamp "2025-11-15T17:18:55".toList := ⟨by decide, by decide, by decide⟩
  have hname : ¬ [']', ' '] <:+: "é:main]".toList := by decide
  exact ⟨hstamp, hname, (logMessage_follows_label.2.1 _ _ hname).2 _ hstamp⟩

end MicroVm.Hypervisor

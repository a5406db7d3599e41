import MicroVm.Proofs.Machine.StoreReaders
import MicroVm.Proofs.Storage.Operations
import MicroVm.Proofs.Text.Occurrence
import MicroVm.Storage.DeviceTools

/-!
# What a failed removal says

A removal of mappings that are not there counts as done. Whether they are not there is read off the
message of the failure, which holds more than what the device mapper has printed. It begins with the
words of the command, and so with the names of the mappings, which come from the id of the machine.
None of that can say that a mapping is not there, neither by itself nor together with what is
printed. The names are single words, no word after the first one begins as the words for a missing
mapping go on, and a colon comes before what is printed.
-/

namespace MicroVm.Storage

open MicroVm.Host

/-! ## Words for a missing mapping -/

/-- What is said of a mapping that is not there, in small letters. -/
def absencePhrases : List (List Char) := ["no such device or address".toList, "not found".toList]

/-- How these phrases go on after a blank. -/
def absenceEndings : List (List Char) := ["such".toList, "found".toList]

/-- Whether a text says, in letters of any case, that something is not there. -/
def SaysAbsent (text : List Char) : Prop :=
  ∃ phrase ∈ absencePhrases, phrase <:+: Text.lowered text

instance (text : List Char) : Decidable (SaysAbsent text) :=
  inferInstanceAs (Decidable (∃ phrase ∈ absencePhrases, phrase <:+: Text.lowered text))

variable {before after text : List Char}

theorem Chain.saysGone_iff {message : String} :
    Chain.saysGone message = true ↔ SaysAbsent message.toList := by
  unfold saysGone SaysAbsent absencePhrases
  simp only [Bool.or_eq_true, Text.occursIn_iff, List.mem_cons, List.not_mem_nil, or_false,
    exists_eq_or_imp, exists_eq_left]

/-- Two texts with a colon between them say no more than each of them. -/
theorem saysAbsent_append_colon_iff :
    SaysAbsent (before ++ ':' :: after) ↔ SaysAbsent before ∨ SaysAbsent after := by
  have hcolon : ∀ phrase ∈ absencePhrases, ':' ∉ phrase := by decide
  have hlowered : Text.lowered (before ++ ':' :: after) =
      Text.lowered before ++ ':' :: Text.lowered after := Text.lowered_append before (':' :: after)
  unfold SaysAbsent
  rw [hlowered, ← exists_or]
  apply exists_congr
  intro phrase
  rw [← and_or_left]
  apply and_congr_right
  intro hphrase
  exact Text.infix_append_cons_iff (hcolon phrase hphrase)

/-- Blanks at the ends of a text do not matter. -/
theorem saysAbsent_trim_iff : SaysAbsent (Text.trim text) ↔ SaysAbsent text := by
  have hends : ∀ phrase ∈ absencePhrases, phrase.head?.any Text.isBlank = false ∧
      phrase.getLast?.any Text.isBlank = false := by decide
  unfold SaysAbsent
  rw [Text.lowered_trim]
  apply exists_congr
  intro phrase
  apply and_congr_right
  intro hphrase
  exact Text.infix_trim_iff (hends phrase hphrase).1 (hends phrase hphrase).2

theorem saysAbsent_blank_cons_iff : SaysAbsent (' ' :: text) ↔ SaysAbsent text :=
  calc
    SaysAbsent (' ' :: text) ↔ SaysAbsent (Text.trim (' ' :: text)) := saysAbsent_trim_iff.symm
    _ ↔ SaysAbsent (Text.trim text) := Iff.rfl
    _ ↔ SaysAbsent text := saysAbsent_trim_iff

/-- Whether a word that comes after others is no part of such a phrase. -/
def IsHarmless (word : String) : Prop :=
  ' ' ∉ word.toList ∧ ∀ ending ∈ absenceEndings, ¬ ending <+: Text.lowered word.toList

instance (word : String) : Decidable (IsHarmless word) :=
  inferInstanceAs (Decidable (' ' ∉ word.toList ∧
    ∀ ending ∈ absenceEndings, ¬ ending <+: Text.lowered word.toList))

/-- A sentence of harmless words does not say that something is not there. -/
theorem not_saysAbsent_of_words {first : String} {later : List String}
    (hfirst : ' ' ∉ first.toList) (hlater : ∀ word ∈ later, IsHarmless word) :
    ¬ SaysAbsent (" ".intercalate (first :: later)).toList := by
  have hending : ∀ phrase ∈ absencePhrases, ∃ ending ∈ absenceEndings,
      ' ' :: ending <:+: phrase := by decide
  have hblank : ∀ ending ∈ absenceEndings, ' ' ∉ ending := by decide
  let lowered (word : String) : List Char := Text.lowered word.toList
  have hlowered : Text.lowered (" ".intercalate (first :: later)).toList =
      [' '].intercalate ((first :: later).map lowered) := by
    rw [String.toList_intercalate, Text.lowered_intercalate, List.map_map]
    rfl
  have hwords : ∀ word ∈ (first :: later).map lowered, ' ' ∉ word := by
    rw [List.forall_mem_map]
    intro word hword
    rw [Text.mem_lowered_iff (by decide)]
    obtain rfl | hmem := List.mem_cons.1 hword
    · exact hfirst
    · exact (hlater word hmem).1
  rintro ⟨phrase, hphrase, hoccurs⟩
  obtain ⟨ending, hmem, hpart⟩ := hending phrase hphrase
  rw [hlowered] at hoccurs
  obtain ⟨_, hfound, hprefix⟩ := Text.exists_prefix_of_infix_intercalate hwords
    (hblank ending hmem) (hpart.trans hoccurs)
  obtain ⟨word, hword, rfl⟩ := List.mem_map.1 hfound
  exact (hlater word hword).2 ending hmem hprefix

/-! ## The names of mappings -/

/-- What the names of mappings begin with is no beginning of another word. -/
theorem isHarmless_append {rest : String} (hblank : ' ' ∉ rest.toList) :
    IsHarmless ("fcspawn-" ++ rest) := by
  have happart : ∀ ending ∈ absenceEndings, ¬ ending <+: Text.lowered "fcspawn-".toList ∧
      ¬ Text.lowered "fcspawn-".toList <+: ending := by decide
  unfold IsHarmless
  rw [String.toList_append, List.mem_append, not_or, Text.lowered_append]
  refine ⟨⟨by decide, hblank⟩, fun ending hmem hprefix ↦ ?_⟩
  obtain hshorter | hlonger :=
    List.prefix_or_prefix_of_prefix hprefix (List.prefix_append _ _)
  · exact (happart ending hmem).1 hshorter
  · exact (happart ending hmem).2 hlonger

/-- The names of a machine's mappings are harmless, because its id has no blank. -/
theorem Chain.isHarmless_of_mem {chain : Chain} (huid : Machine.checkUid chain.uid = .ok ())
    {isPadded : Bool} {name : String} (hname : name ∈ chain.mappingNames isPadded) :
    IsHarmless name := by
  obtain ⟨-, -, -, hchars⟩ := Machine.isUid_iff.1 huid
  have huid : ' ' ∉ chain.uid.toList := fun hmem ↦ absurd (hchars ' ' hmem) (by decide)
  have hpadded : ' ' ∉ (chain.uid ++ "-base").toList := by
    rw [String.toList_append, List.mem_append, not_or]
    exact ⟨huid, by decide⟩
  unfold mappingNames baseNames at hname
  obtain rfl | hbelow := List.mem_cons.1 hname
  · exact isHarmless_append huid
  · cases isPadded with
    | false => exact absurd hbelow List.not_mem_nil
    | true =>
      obtain rfl := List.mem_singleton.1 hbelow
      rw [paddedBaseName_eq, String.append_assoc]
      exact isHarmless_append hpadded

/-! ## The command -/

/-- The command that removes mappings. -/
def removal (names : List String) : Command :=
  ⟨"dmsetup", ["remove", "--verifyudev"] ++ names, none⟩

/-- What a removal comes to, by what became of its command. -/
def removalResult (names : List String) :
    Except SystemError CommandResult → Except Failure Unit
  | .ok result =>
    if result.status.isSuccess then .ok ()
    else .error (.cause (.commandFailed (DeviceTools.removalWords names) result.complaint))
  | .error error => .error (.within (.executing (removal names).text) (.system error))

theorem attempt_removeMappings (names : List String) :
    (DeviceTools.removeMappings names).attempt =
      .ask (I := Commands) (removal names) fun answer ↦ .done (removalResult names answer) := by
  change Program.ask _ _ = _
  congr 1
  funext answer
  cases answer with
  | error error => rfl
  | ok result =>
    change (Commands.requireSuccess _ result).attempt = _
    unfold Commands.requireSuccess removalResult
    by_cases hsuccess : result.status.isSuccess = true
    · simp only [if_pos hsuccess]
      rfl
    · simp only [if_neg hsuccess]
      rfl

variable {names : List String}

/-- The words of a removal that has failed. -/
theorem removalWords_failed (hne : names ≠ []) : DeviceTools.removalWords names ++ " failed" =
    " ".intercalate (["dmsetup", "remove"] ++ names ++ ["failed"]) := by
  have hfront : ["dmsetup", "remove"] ++ names ≠ [] := List.cons_ne_nil _ _
  calc
    DeviceTools.removalWords names ++ " failed" =
        " ".intercalate ["dmsetup", "remove"] ++ " " ++ " ".intercalate names ++
          (" " ++ " ".intercalate ["failed"]) := rfl
    _ = " ".intercalate (["dmsetup", "remove"] ++ names) ++
          (" " ++ " ".intercalate ["failed"]) := by
      rw [String.intercalate_append_of_ne_nil (List.cons_ne_nil _ _) hne]
    _ = " ".intercalate (["dmsetup", "remove"] ++ names ++ ["failed"]) := by
      rw [String.intercalate_append_of_ne_nil hfront (List.cons_ne_nil _ _), String.append_assoc]

/-- The words of a removal that could not be started. -/
theorem text_executing_removal (hne : names ≠ []) :
    (Activity.executing (removal names).text).text =
      " ".intercalate (["executing", "dmsetup", "remove", "--verifyudev"] ++ names) := by
  have harguments : " ".intercalate (removal names).arguments =
      "remove --verifyudev " ++ " ".intercalate names := by
    change " ".intercalate (["remove", "--verifyudev"] ++ names) = _
    rw [String.intercalate_append_of_ne_nil (List.cons_ne_nil _ _) hne]
    rfl
  calc
    (Activity.executing (removal names).text).text =
        "executing " ++ ("dmsetup " ++ " ".intercalate (removal names).arguments) := rfl
    _ = "executing dmsetup remove --verifyudev " ++ " ".intercalate names := by
      rw [harguments, ← String.append_assoc, ← String.append_assoc]
      rfl
    _ = " ".intercalate (["executing", "dmsetup", "remove", "--verifyudev"] ++ names) := by
      rw [String.intercalate_append_of_ne_nil (List.cons_ne_nil _ _) hne]
      rfl

/-- A removal that has failed says that a mapping is not there exactly when the device mapper has
printed that. -/
theorem saysAbsent_commandFailed_iff (hnames : ∀ name ∈ names, IsHarmless name) (hne : names ≠ [])
    (errors : String) :
    SaysAbsent (Cause.commandFailed (DeviceTools.removalWords names)
      (Text.trimmed errors)).message.toList ↔ SaysAbsent errors.toList := by
  have hwords : ¬ SaysAbsent (DeviceTools.removalWords names ++ " failed").toList := by
    have hlater : ∀ word ∈ "remove" :: (names ++ ["failed"]), IsHarmless word := by
      simp only [List.forall_mem_cons, List.forall_mem_append]
      exact ⟨by decide, hnames, by decide⟩
    rw [removalWords_failed hne]
    exact not_saysAbsent_of_words (by decide) hlater
  have hmessage : (Cause.commandFailed (DeviceTools.removalWords names)
      (Text.trimmed errors)).message.toList =
        (DeviceTools.removalWords names ++ " failed").toList ++
          ':' :: ' ' :: Text.trim errors.toList := by
    change (DeviceTools.removalWords names ++ " failed: " ++ Text.trimmed errors).toList = _
    simp [Text.trimmed]
  rw [hmessage, saysAbsent_append_colon_iff, saysAbsent_blank_cons_iff, saysAbsent_trim_iff]
  exact or_iff_right hwords

/-- A removal that could not be started says that a mapping is not there exactly when the operating
system gives that as the reason. -/
theorem saysAbsent_executing_iff (hnames : ∀ name ∈ names, IsHarmless name) (hne : names ≠ [])
    {error : SystemError} :
    SaysAbsent (Failure.within (.executing (removal names).text) (.system error)).message.toList ↔
      SaysAbsent error.message.toList := by
  have hwords : ¬ SaysAbsent (Activity.executing (removal names).text).text.toList := by
    have hlater : ∀ word ∈ ["dmsetup", "remove", "--verifyudev"] ++ names, IsHarmless word := by
      rw [List.forall_mem_append]
      exact ⟨by decide, hnames⟩
    rw [text_executing_removal hne]
    exact not_saysAbsent_of_words (by decide) hlater
  have hmessage : (Failure.within (.executing (removal names).text)
      (.system error)).message.toList =
        (Activity.executing (removal names).text).text.toList ++
          ':' :: ' ' :: error.message.toList := by
    change ((Activity.executing (removal names).text).text ++ ": " ++ error.message).toList = _
    simp
  rw [hmessage, saysAbsent_append_colon_iff, saysAbsent_blank_cons_iff]
  exact or_iff_right hwords

/-! ## The deactivation -/

namespace Chain

/-- What a deactivation makes of the result of its removal. -/
def absorbed : Except Failure Unit → Except Failure Unit
  | .ok () => .ok ()
  | .error failure =>
    if saysGone failure.message then .ok () else .error (.within .removingSnapshot failure)

variable (chain : Chain)

/-- Under the lock there is one removal, of all mappings that are known. -/
theorem attempt_deactivateLocked :
    chain.deactivateLocked.attempt =
      .ask (I := Devices) (.mappingExists (paddedBaseName chain.uid)) fun isPadded ↦
        .ask (I := Devices) (.removeMappings (chain.mappingNames isPadded)) fun removed ↦
          .done (absorbed removed) := by
  have hremoved (names : List String) :
      Task.attempt (do
        match ← ExceptT.lift (Devices.removeMappings names).attempt with
        | .ok () => return ()
        | .error failure =>
          if saysGone failure.message then return ()
          else Task.of (.done (.error (.within .removingSnapshot failure)))) =
        .ask (I := Devices) (.removeMappings names) fun removed ↦ .done (absorbed removed) := by
    refine congrArg (Program.ask _) (funext fun removed ↦ ?_)
    cases removed with
    | ok value => rfl
    | error failure =>
      change Task.attempt (if saysGone failure.message then pure ()
        else Task.of (.done (.error (.within .removingSnapshot failure)))) = _
      unfold absorbed
      by_cases hgone : saysGone failure.message = true
      · simp only [if_pos hgone]
        rfl
      · simp only [if_neg hgone]
        rfl
  refine congrArg (Program.ask _) (funext fun isPadded ↦ ?_)
  cases isPadded with
  | false => exact hremoved _
  | true => exact hremoved _

variable {chain} {history : History Devices} {names : List String} {removed : Except Failure Unit}

/-- The result of a deactivation that has come to its removal is made of that of the removal. -/
theorem eq_absorbed_of_isRun {ended : Option (Except Failure Unit)}
    (hrun : chain.deactivate.attempt.IsRun history ended)
    (hremoval : (⟨.removeMappings names, removed⟩ : Event Devices) ∈ history) :
    (∃ isPadded, names = chain.mappingNames isPadded) ∧ ended = some (absorbed removed) := by
  unfold deactivate at hrun
  rw [attempt_withLock, attempt_deactivateLocked] at hrun
  obtain ⟨acquired, _, rfl, hlocked⟩ := Program.isRun_ask_iff.1 hrun
  cases acquired with
  | error failure =>
    obtain ⟨rfl, -⟩ := Program.isRun_done_iff.1 hlocked
    cases List.mem_singleton.1 hremoval
  | ok value =>
    obtain ⟨isPadded, _, rfl, hfound⟩ := Program.isRun_ask_iff.1 hlocked
    obtain ⟨answer, _, rfl, hremoved⟩ := Program.isRun_ask_iff.1 hfound
    obtain ⟨_, _, rfl, hreleased⟩ := Program.isRun_ask_iff.1 hremoved
    obtain ⟨rfl, hended⟩ := Program.isRun_done_iff.1 hreleased
    simp only [List.mem_cons, List.not_mem_nil, or_false] at hremoval
    obtain hacquired | hexists | hevent | hreleased := hremoval
    · cases hacquired
    · cases hexists
    · cases hevent
      exact ⟨⟨isPadded, rfl⟩, hended⟩
    · cases hreleased

theorem absorbed_eq_ok_iff {failure : Failure} :
    absorbed (.error failure) = .ok () ↔ SaysAbsent failure.message.toList := by
  rw [← saysGone_iff, absorbed]
  split
  next hgone => exact iff_of_true rfl hgone
  next hother => exact iff_of_false nofun hother

theorem absorbed_of_not_saysAbsent {failure : Failure}
    (hother : ¬ SaysAbsent failure.message.toList) :
    absorbed (.error failure) = .error (.within .removingSnapshot failure) := by
  rw [absorbed, if_neg (saysGone_iff.not.2 hother)]

/-- A deactivation takes a failed removal for done exactly when the device mapper has printed, in
letters of any case, that a mapping is not there. All other failures are passed on. The names of the
mappings and the words of the command make no difference. -/
theorem deactivate_absorbs_iff (huid : Machine.checkUid chain.uid = .ok ())
    {ended : Option (Except Failure Unit)} (hrun : chain.deactivate.attempt.IsRun history ended)
    (hremoval : (⟨.removeMappings names, removed⟩ : Event Devices) ∈ history)
    {command : Command} {answer : Except SystemError CommandResult}
    (hcommand : (DeviceTools.removeMappings names).attempt.IsRun
      [(⟨command, answer⟩ : Event Commands)] (some removed)) :
    (∀ result, answer = .ok result → result.status.isSuccess = false →
      ∃ failure, removed = .error failure ∧
        failure.message = "dmsetup remove " ++ " ".intercalate names ++ " failed: " ++
          Text.trimmed (Text.textOfBytes result.errors) ∧
        (ended = some (.ok ()) ↔ SaysAbsent (Text.decodeReplacing result.errors)) ∧
        (¬ SaysAbsent (Text.decodeReplacing result.errors) →
          ended = some (.error (.within .removingSnapshot failure)))) ∧
    ∀ error, answer = .error error → ¬ SaysAbsent error.message.toList →
      ∃ failure, removed = .error failure ∧
        ended = some (.error (.within .removingSnapshot failure)) := by
  obtain ⟨⟨isPadded, rfl⟩, rfl⟩ := eq_absorbed_of_isRun hrun hremoval
  have hnames (name : String) (hname : name ∈ chain.mappingNames isPadded) : IsHarmless name :=
    isHarmless_of_mem huid hname
  have hne : chain.mappingNames isPadded ≠ [] := List.cons_ne_nil _ _
  rw [attempt_removeMappings] at hcommand
  obtain ⟨found, rest, hevents, hrest⟩ := Program.isRun_ask_iff.1 hcommand
  cases hevents
  obtain ⟨-, hvalue⟩ := Program.isRun_done_iff.1 hrest
  obtain rfl := Option.some.inj hvalue
  refine ⟨?_, ?_⟩
  · rintro result rfl hstatus
    let failure : Failure := .cause (.commandFailed
      (DeviceTools.removalWords (chain.mappingNames isPadded)) result.complaint)
    have hfailed : removalResult (chain.mappingNames isPadded) (.ok result) = .error failure := by
      rw [removalResult, hstatus]
      rfl
    have habsent : SaysAbsent failure.message.toList ↔
        SaysAbsent (Text.decodeReplacing result.errors) := by
      have hprinted := saysAbsent_commandFailed_iff hnames hne (Text.textOfBytes result.errors)
      rw [Text.textOfBytes, String.toList_ofList] at hprinted
      exact hprinted
    rw [hfailed]
    have hok : some (absorbed (.error failure)) = some (.ok ()) ↔
        SaysAbsent (Text.decodeReplacing result.errors) := by
      rw [Option.some.injEq, absorbed_eq_ok_iff, habsent]
    refine ⟨failure, rfl, rfl, hok, fun hother ↦ ?_⟩
    exact congrArg some (absorbed_of_not_saysAbsent (habsent.not.2 hother))
  · rintro error rfl hother
    refine ⟨_, rfl, congrArg some (absorbed_of_not_saysAbsent ?_)⟩
    exact (saysAbsent_executing_iff hnames hne).not.2 hother

theorem isRun_deactivate_removal (chain : Chain) (isPadded : Bool) (removed : Except Failure Unit) :
    chain.deactivate.attempt.IsRun
      ([⟨.acquireLock chain.lockPath, .ok ()⟩] ++
        ([⟨.mappingExists (paddedBaseName chain.uid), isPadded⟩,
          ⟨.removeMappings (chain.mappingNames isPadded), removed⟩] ++
            [⟨.releaseLock chain.lockPath, ()⟩])) (some (absorbed removed)) := by
  apply HostDevices.isRun_withLock
  rw [attempt_deactivateLocked]
  exact .ask _ (.ask _ (.done _))

/-- The id of a machine that is a phrase for something missing makes no difference. -/
theorem deactivate_absorbs_iff_not_found :
    let chain : Chain := ⟨"not-found", "/run/lock", 8⟩
    let result : CommandResult := ⟨.exited 1, [], Text.bytesOfText "busy\n"⟩
    ∃ history failure, Machine.checkUid chain.uid = .ok () ∧
      (⟨.removeMappings (chain.mappingNames true), .error failure⟩ : Event Devices) ∈ history ∧
      (DeviceTools.removeMappings (chain.mappingNames true)).attempt.IsRun
        [(⟨removal (chain.mappingNames true), .ok result⟩ : Event Commands)]
        (some (.error failure)) ∧
      chain.deactivate.attempt.IsRun history
        (some (.error (.within .removingSnapshot failure))) := by
  intro chain result
  have huid : Machine.checkUid chain.uid = .ok () := by decide
  let removed := removalResult (chain.mappingNames true) (.ok result)
  have hrun := chain.isRun_deactivate_removal true removed
  have hremoval : (⟨.removeMappings (chain.mappingNames true), removed⟩ : Event Devices) ∈
      [⟨.acquireLock chain.lockPath, .ok ()⟩] ++
        ([⟨.mappingExists (paddedBaseName chain.uid), true⟩,
          ⟨.removeMappings (chain.mappingNames true), removed⟩] ++
            [⟨.releaseLock chain.lockPath, ()⟩]) := by simp
  have hcommand : (DeviceTools.removeMappings (chain.mappingNames true)).attempt.IsRun
      [(⟨removal (chain.mappingNames true), .ok result⟩ : Event Commands)] (some removed) := by
    rw [attempt_removeMappings]
    exact .ask _ (.done _)
  have hprinted : ¬ SaysAbsent (Text.decodeReplacing result.errors) := by
    have htext : Text.decodeReplacing result.errors = "busy\n".toList := by decide +kernel
    rw [htext]
    decide
  obtain ⟨hfailed, -⟩ := deactivate_absorbs_iff huid hrun hremoval hcommand
  obtain ⟨failure, hremoved, -, -, hpassed⟩ := hfailed result rfl rfl
  rw [hpassed hprinted] at hrun
  rw [hremoved] at hrun hremoval hcommand
  exact ⟨_, failure, huid, hremoval, hcommand, hrun⟩

end Chain

end MicroVm.Storage

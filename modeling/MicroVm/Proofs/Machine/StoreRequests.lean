import MicroVm.Machine.Store
import MicroVm.Proofs.Machine.RecordFormat
import MicroVm.Proofs.Program.Requests

/-!
# What the store asks for

A save asks for three things, each after the one before has succeeded, and a load by id reads one
file. What a load makes of the content of a file undoes what a save writes there.
-/

namespace MicroVm.Machine

open MicroVm.Host

/-! ## Requests -/

/-- Whether a text is the id of a machine. -/
def IsUid (text : String) : Prop := checkUid text = .ok ()

instance (text : String) : Decidable (IsUid text) := inferInstanceAs (Decidable (_ = _))

/-- The record that was read from a file, for a load by id. -/
def readResult (uid : String) (found : Except SystemError (List UInt8)) : Except Failure Record :=
  match found with
  | .error error => .error (.within (.readingRecord uid) (.system error))
  | .ok content =>
    match Text.decodeStrict? content with
    | none => .error (.within (.readingRecord uid) (.cause .notText))
    | some text =>
      match Record.parse? text with
      | some record => .ok record
      | none => .error (.within .parsingRecord (.cause .malformedJson))

/-- The record that reading a file gave. -/
def foundRecord? : Except SystemError (List UInt8) → Option Record
  | .ok content => Record.ofBytes? content
  | .error _ => none

/-- A load by id succeeds exactly with the record that was read. -/
theorem readResult_eq_ok_iff {uid : String} {found : Except SystemError (List UInt8)}
    {record : Record} : readResult uid found = .ok record ↔ foundRecord? found = some record := by
  cases found with
  | error error => simp [readResult, foundRecord?]
  | ok content =>
    rw [foundRecord?, Record.ofBytes?, readResult]
    cases Text.decodeStrict? content with
    | none => simp
    | some text =>
      change _ ↔ Record.parse? text = some record
      cases hparse : Record.parse? text <;> simp [hparse]

theorem attempt_readText (path : String) : (Files.readText path).attempt =
    .ask (I := Files) (.readFile path) fun
    | .error error => .done (.error (.system error))
    | .ok content =>
      match Text.decodeStrict? content with
      | none => .done (.error (.cause .notText))
      | some text => .done (.ok text) := by
  rw [Files.readText, Task.attempt_bind]
  change Program.ask _ _ = _
  congr 1
  funext found
  cases found with
  | error error => rfl
  | ok content =>
    dsimp only
    conv_lhs => whnf
    cases Text.decodeStrict? content <;> rfl

namespace Store

variable {store : Store} {record : Record} {uid : String} {history : History Files}

theorem requireUid_of_isUid (h : IsUid uid) : requireUid uid = pure () := by
  rw [requireUid, show checkUid uid = .ok () from h]

theorem attempt_save (h : IsUid record.uid) :
    (store.save record).attempt =
      .ask (I := Files) (.writeFile (store.draftPath record.uid) (Text.bytesOfText record.text)) fun
      | .error error => .done (.error (.within .writingRecord (.system error)))
      | .ok () => .ask (I := Files) (.setMode (store.draftPath record.uid) recordMode) fun
        | .error error => .done (.error (.within .restrictingRecord (.system error)))
        | .ok () =>
          .ask (I := Files)
            (.rename (store.draftPath record.uid) (store.recordPath record.uid)) fun
          | .error error => .done (.error (.within .placingRecord (.system error)))
          | .ok () => .done (.ok ()) := by
  rw [save, requireUid_of_isUid h, pure_bind]
  simp only [Task.attempt_bind]
  change Program.ask _ _ = _
  congr 1
  funext written
  cases written with
  | error error => rfl
  | ok value =>
    change Program.ask _ _ = _
    congr 1
    funext restricted
    cases restricted with
    | error error => rfl
    | ok value =>
      change Program.ask _ _ = _
      congr 1
      funext placed
      cases placed <;> rfl

/-- A save without an id is refused before anything is asked. -/
theorem attempt_save_of_not_isUid (store : Store) (h : ¬ IsUid record.uid) :
    ∃ fault, checkUid record.uid = .error fault ∧
      (store.save record).attempt = .done (.error (.cause (.badUid fault))) := by
  cases hcheck : checkUid record.uid with
  | ok value => exact absurd hcheck h
  | error fault =>
    refine ⟨fault, rfl, ?_⟩
    rw [save, requireUid, hcheck]
    rfl

theorem attempt_loadByUid (h : IsUid uid) : (store.loadByUid uid).attempt =
    .ask (I := Files) (.readFile (store.recordPath uid)) fun found ↦
      .done (readResult uid found) := by
  rw [loadByUid, requireUid_of_isUid h, pure_bind, Task.attempt_bind, Task.within,
    Task.attempt_of, attempt_readText]
  change Program.ask _ _ = _
  congr 1
  funext found
  cases found with
  | error error => rfl
  | ok content =>
    rw [readResult]
    dsimp only
    cases Text.decodeStrict? content with
    | none => rfl
    | some text =>
      simp only [Program.done_bind]
      cases Record.parse? text <;> rfl

/-- An id that is none is refused before any file is touched. -/
theorem attempt_loadByUid_of_not_isUid (store : Store) (h : ¬ IsUid uid) :
    ∃ fault, (store.loadByUid uid).attempt = .done (.error (.cause (.badUid fault))) := by
  cases hcheck : checkUid uid with
  | ok value => exact absurd hcheck h
  | error fault =>
    refine ⟨fault, ?_⟩
    rw [loadByUid, requireUid, hcheck]
    rfl

/-- A listing reads the files that are named like records one after the other. -/
theorem readAll_cons (store : Store) (name : String) (names : List String) :
    store.readAll (name :: names) =
      if isRecordName name then
        .ask (I := Files) (.readFile (joinPath store.directory name)) fun found ↦
          (store.readAll names).bind fun records ↦
            .done ((foundRecord? found).toList ++ records)
      else store.readAll names := by
  rw [readAll]
  split
  next =>
    rw [attempt_readText, Program.bind_eq]
    change Program.ask _ _ = _
    congr 1
    funext found
    cases found with
    | error error => exact (Program.bind_done _).symm
    | ok content =>
      rw [foundRecord?, Record.ofBytes?]
      dsimp only
      cases Text.decodeStrict? content with
      | none => exact (Program.bind_done _).symm
      | some text =>
        rw [Option.bind_eq_bind, Option.bind_some]
        simp only [Program.done_bind]
        cases Record.parse? text with
        | none => exact (Program.bind_done _).symm
        | some record => rfl
  next => rfl

/-- What a save may ask for: it writes the text of its record only. -/
inductive IsSaveRequest (store : Store) (record : Record) : FileRequest → Prop
  | write :
    IsSaveRequest store record
      (.writeFile (store.draftPath record.uid) (Text.bytesOfText record.text))
  | restrict : IsSaveRequest store record (.setMode (store.draftPath record.uid) recordMode)
  | place :
    IsSaveRequest store record
      (.rename (store.draftPath record.uid) (store.recordPath record.uid))

theorem asks_save (store : Store) (h : IsUid record.uid) (past : History Files) :
    (store.save record).attempt.Asks (fun _ request ↦ IsSaveRequest store record request) past
      fun _ _ ↦ True := by
  rw [attempt_save h]
  refine .ask .write fun written ↦ ?_
  cases written with
  | error error => exact .done trivial
  | ok value =>
    refine .ask .restrict fun restricted ↦ ?_
    cases restricted with
    | error error => exact .done trivial
    | ok value =>
      refine .ask .place fun placed ↦ ?_
      cases placed with
      | error error => exact .done trivial
      | ok value => exact .done trivial

/-- A save writes nothing but the text of its record, and only if that has an id. -/
theorem eq_of_mem_save {result : Option (Except Failure Unit)} {path : String}
    {content : List UInt8} {answer : Except SystemError Unit}
    (hrun : (store.save record).attempt.IsRun history result)
    (hmem : (⟨.writeFile path content, answer⟩ : Event Files) ∈ history) :
    IsUid record.uid ∧ path = store.draftPath record.uid ∧
      content = Text.bytesOfText record.text := by
  by_cases h : IsUid record.uid
  · have hbegins : (store.save record).attempt.IsRun (history ++ []) result := by
      rwa [List.append_nil]
    obtain ⟨_, hleaves, -⟩ := hbegins.exists_leaves
    obtain ⟨_, hkind⟩ := ((asks_save store h []).isOfKind hleaves).of_mem hmem
    cases hkind
    exact ⟨h, rfl, rfl⟩
  · obtain ⟨fault, -, hrefused⟩ := attempt_save_of_not_isUid store h
    rw [hrefused] at hrun
    obtain ⟨rfl, -⟩ := Program.isRun_done_iff.1 hrun
    cases hmem

end Store

/-! ## Saving and loading -/

/-- Every record is read back from its text, a load reads it back from what a save writes, and a
content that holds a record takes the form of a save at the first one and keeps it. -/
theorem records_are_read_back :
    (∀ record : Record, Record.parse? record.text.toList = some record) ∧
    (∀ (store : Store) (record : Record) (history : History Files)
      (result : Option (Except Failure Unit)) (path : String) (content : List UInt8)
      (answer : Except SystemError Unit),
      (store.save record).attempt.IsRun history result →
      (⟨.writeFile path content, answer⟩ : Event Files) ∈ history →
      (store.loadByUid record.uid).attempt.IsRun
        [⟨.readFile (store.recordPath record.uid), .ok content⟩] (some (.ok record))) ∧
    ∀ (content : List UInt8) (record : Record), Record.ofBytes? content = some record →
      ∀ cycles, Record.resaved^[cycles + 1] content = Text.bytesOfText record.text ∧
        Record.ofBytes? (Record.resaved^[cycles + 1] content) = some record := by
  refine ⟨Record.parse?_text, ?_, ?_⟩
  · intro store record history result path content answer hrun hmem
    obtain ⟨huid, -, rfl⟩ := Store.eq_of_mem_save hrun hmem
    have hread : readResult record.uid (.ok (Text.bytesOfText record.text)) = .ok record :=
      readResult_eq_ok_iff.2 (Record.ofBytes?_bytesOfText record)
    rw [Store.attempt_loadByUid huid, ← hread]
    exact .ask _ (.done _)
  · intro content record h cycles
    have hcontent := Record.iterate_resaved h cycles
    exact ⟨hcontent, hcontent ▸ Record.ofBytes?_bytesOfText record⟩

namespace Sample

/-- A leap second. -/
def moment : Timestamp :=
  ⟨⟨2016, 12, 31, by decide, by decide⟩, 1439, 60, 5000000, by decide, by decide, by decide,
    by decide⟩

/-- The record of a machine that was never started. -/
def record (uid name : String) : Record where
  metadata := ⟨uid, name, Annotations.empty.insert "\"key\"" "\u2028", moment⟩
  spec := ⟨"image", "kernel", "", 2, 256, 1, [⟨none, 8080, 80, .udp⟩], false, by decide, by decide,
    by decide⟩
  status := .initial

/-- A form of the record with its parts in another order and without its status. -/
def otherForm : String :=
  (Json.Value.record [
    ("spec", (record "abc" "web").spec.toJson),
    ("metadata", (record "abc" "web").metadata.toJson)]).pretty

theorem ofBytes?_otherForm :
    Record.ofBytes? (Text.bytesOfText otherForm) = some (record "abc" "web") := by
  rw [Record.ofBytes?, otherForm, Text.decodeStrict?_bytesOfText, Option.bind_eq_bind,
    Option.bind_some, Record.parse?, Json.parse?_pretty, Option.bind_eq_bind, Option.bind_some,
    Record.ofJson?, Json.Value.record, Json.Value.fields?]
  simp [Json.theMember?, Json.membersNamed, Json.Fields.required, Json.Fields.withDefault,
    Json.Fields.get?, List.lookup_cons, Spec.ofJson?_toJson, Metadata.ofJson?_toJson]
  rfl

end Sample

/-- Another form of a record, and what two cycles make of it. -/
theorem records_are_read_back_from_otherForm :
    ∃ history result,
      ((⟨"/state"⟩ : Store).save (Sample.record "abc" "web")).attempt.IsRun history result ∧
      ((⟨"/state"⟩ : Store).loadByUid "abc").attempt.IsRun
        [⟨.readFile "/state/abc.json", .ok (Text.bytesOfText (Sample.record "abc" "web").text)⟩]
        (some (.ok (Sample.record "abc" "web"))) ∧
      Record.resaved^[2] (Text.bytesOfText Sample.otherForm) =
        Text.bytesOfText (Sample.record "abc" "web").text := by
  obtain ⟨-, hloads, hcycles⟩ := records_are_read_back
  have hrun : ((⟨"/state"⟩ : Store).save (Sample.record "abc" "web")).attempt.IsRun
      [⟨.writeFile "/state/abc.json.tmp" (Text.bytesOfText (Sample.record "abc" "web").text),
        .error .notFound⟩] (some (.error (.within .writingRecord (.system .notFound)))) := by
    rw [Store.attempt_save (by decide)]
    exact .ask _ (.done _)
  exact ⟨_, _, hrun, hloads _ _ _ _ _ _ _ hrun List.mem_cons_self,
    (hcycles _ _ Sample.ofBytes?_otherForm 1).1⟩

end MicroVm.Machine

import MicroVm.Proofs.Machine.StoreReaders
import MicroVm.Proofs.Program.Requests

/-!
# The steps of a save

A save writes its draft, restricts it and moves it to the place of its record. Each step either
changes the draft at most, which no reader takes for a record, or puts the whole record in its
place.
-/

namespace MicroVm.Machine.Store

open MicroVm.Host MicroVm.Rehearsal

variable {store : Store} {tree middle after : FileTree} {place : List String} {record : Record}
  {uid name : String} {past : History Files} {node : FileNode}

/-- Where the record of an id lies. -/
def recordPlace (place : List String) (uid : String) : List String := place ++ [recordName uid]

/-- Where the draft of a record lies. -/
def draftPlace (place : List String) (uid : String) : List String := place ++ [draftName uid]

/-- The file of a record that was saved. -/
def savedFile (record : Record) : FileNode := .file (Text.bytesOfText record.text) 0 recordMode

theorem recordPlace_ne_nil (place : List String) (uid : String) : recordPlace place uid ≠ [] :=
  List.concat_ne_nil _ place

theorem draftPlace_ne_nil (place : List String) (uid : String) : draftPlace place uid ≠ [] :=
  List.concat_ne_nil _ place

theorem append_singleton_ne {other : String} (hne : other ≠ name) :
    place ++ [other] ≠ place ++ [name] := fun heq ↦
  hne (List.singleton_inj.1 (List.append_cancel_left heq))

theorem recordPlace_ne {other : String} (hne : other ≠ uid) :
    recordPlace place other ≠ recordPlace place uid :=
  append_singleton_ne fun heq ↦ hne (recordName_inj.1 heq)

theorem draftPlace_ne {other : String} (hne : other ≠ uid) :
    draftPlace place other ≠ draftPlace place uid :=
  append_singleton_ne fun heq ↦ hne (draftName_inj.1 heq)

/-- No record is at the place of a draft. -/
theorem recordPlace_ne_draftPlace (place : List String) (uid other : String) :
    recordPlace place uid ≠ draftPlace place other :=
  append_singleton_ne (draftName_ne_recordName other uid).symm

/-- What is saved for a record is read as this record. -/
theorem recordOf?_savedFile (record : Record) : recordOf? (savedFile record) = some record := by
  rw [savedFile, recordOf?, List.replicate_zero, List.append_nil, Record.ofBytes?_bytesOfText]

theorem recordAt_of_savedFile
    (hnode : tree.node? (recordPlace place uid) = some (savedFile record)) :
    recordAt tree place (recordName uid) = some record := by
  unfold recordPlace at hnode
  rw [recordAt, hnode, Option.bind_eq_bind, Option.bind_some, recordOf?_savedFile]

/-- A record that was saved is what a load by its id gives. -/
theorem readResult_savedFile (h : tree.HoldsDirectory store.directory place) (huid : IsUid uid)
    (hnode : tree.node? (recordPlace place uid) = some (savedFile record)) :
    readResult uid (tree.read (store.recordPath uid)) = .ok record := by
  rw [readResult_eq_ok_iff, recordPath, foundRecord?_read h (isFileName_recordName huid),
    recordAt_of_savedFile hnode]

/-! ## Records and other files -/

/-- The records in the files below a place whose names are picked. -/
def recordsWhere (tree : FileTree) (place : List String) (pick : String → Bool) : List Record :=
  recordsNamed tree place ((tree.namesIn place).filter pick)

/-- The records in the files below a place, but for the file of one name. -/
def otherRecords (tree : FileTree) (place : List String) (name : String) : List Record :=
  recordsWhere tree place (· ≠ name)

theorem recordsIn_eq (tree : FileTree) (place : List String) :
    recordsIn tree place = recordsWhere tree place fun _ ↦ true := by
  rw [recordsWhere, List.filter_true, recordsIn]

/-- Changes to one file leave the records in the others as they are. -/
theorem recordsNamed_eq (h : ∀ other, other ≠ name →
    after.node? (place ++ [other]) = tree.node? (place ++ [other])) (names : List String) :
    recordsNamed after place (names.filter (· ≠ name)) =
      recordsNamed tree place (names.filter (· ≠ name)) := by
  refine List.filterMap_congr fun other hmem ↦ ?_
  have hne : other ≠ name :=
    of_decide_eq_true (List.mem_filter.1 (List.mem_filter.1 hmem).1).2
  rw [recordAt, recordAt, h other hne]

/-- A file that is not named like a record holds none. -/
theorem recordsNamed_filter_ne (hname : isRecordName name = false) (names : List String) :
    recordsNamed tree place (names.filter (· ≠ name)) = recordsNamed tree place names := by
  have hnames : (names.filter (· ≠ name)).filter isRecordName = names.filter isRecordName := by
    rw [List.filter_filter]
    refine List.filter_congr fun other _ ↦ ?_
    obtain rfl | hne := eq_or_ne other name
    · rw [hname, Bool.false_and]
    · rw [decide_eq_true hne, Bool.and_true]
  rw [recordsNamed, hnames, recordsNamed]

theorem node?_put_of_ne (other : String) (hne : other ≠ name) :
    (tree.put (place ++ [name]) node).node? (place ++ [other]) = tree.node? (place ++ [other]) := by
  rw [FileTree.node?_put (List.concat_ne_nil name place), if_neg (append_singleton_ne hne)]

theorem node?_drop_of_ne (other : String) (hne : other ≠ name) :
    (tree.drop (place ++ [name])).node? (place ++ [other]) = tree.node? (place ++ [other]) := by
  rw [FileTree.node?_drop (List.concat_ne_nil name place), if_neg (append_singleton_ne hne)]

/-- A file that is not named like a record adds no record. -/
theorem recordsWhere_put_of_not_record (hname : isRecordName name = false)
    (pick : String → Bool) :
    recordsWhere (tree.put (place ++ [name]) node) place pick = recordsWhere tree place pick := by
  have hfront : recordsNamed (tree.put (place ++ [name]) node) place
      ((name :: (tree.namesIn place).filter (· ≠ name)).filter pick) =
        recordsNamed (tree.put (place ++ [name]) node) place
          (((tree.namesIn place).filter (· ≠ name)).filter pick) := by
    rw [List.filter_cons]
    split
    · rw [recordsNamed_cons, hname]
      rfl
    · rfl
  rw [recordsWhere, FileTree.namesIn_put, hfront, List.filter_comm, recordsNamed_eq node?_put_of_ne,
    recordsNamed_filter_ne hname, recordsWhere]

/-- Dropping a file that is not named like a record drops no record. -/
theorem recordsWhere_drop_of_not_record (hname : isRecordName name = false)
    (pick : String → Bool) :
    recordsWhere (tree.drop (place ++ [name])) place pick = recordsWhere tree place pick := by
  rw [recordsWhere, FileTree.namesIn_drop, List.filter_comm, recordsNamed_eq node?_drop_of_ne,
    recordsNamed_filter_ne hname, recordsWhere]

/-- Putting a file under the name of a record changes that record and none of the others. -/
theorem recordsIn_put_record (hname : isRecordName name = true) :
    recordsIn (tree.put (place ++ [name]) node) place =
      (recordOf? node).toList ++ otherRecords tree place name := by
  have hnode : recordAt (tree.put (place ++ [name]) node) place name = recordOf? node := by
    rw [recordAt, FileTree.node?_put_self (List.concat_ne_nil name place)]
    rfl
  rw [recordsIn, FileTree.namesIn_put, recordsNamed_cons, if_pos hname, hnode,
    recordsNamed_eq node?_put_of_ne, otherRecords, recordsWhere]

/-! ## The steps of a save -/

/-- Whether a tree differs from another one in the draft of an id at most, which is then a file. -/
structure ChangesDraft (store : Store) (tree : FileTree) (place : List String) (uid : String)
    (after : FileTree) : Prop where
  directory : after.HoldsDirectory store.directory place
  node_eq : ∀ spot, spot ≠ draftPlace place uid → after.node? spot = tree.node? spot
  draft : after.node? (draftPlace place uid) = tree.node? (draftPlace place uid) ∨
    ∃ content mode, after.node? (draftPlace place uid) = some (.file content 0 mode)
  records_eq : ∀ pick, recordsWhere after place pick = recordsWhere tree place pick

/-- Whether a tree differs from another one in a record that is in place, and in its draft that is
gone. -/
structure PlacesRecord (store : Store) (tree : FileTree) (place : List String) (record : Record)
    (after : FileTree) : Prop where
  directory : after.HoldsDirectory store.directory place
  node_eq : ∀ spot, after.node? spot =
    if spot = recordPlace place record.uid then some (savedFile record)
    else if spot = draftPlace place record.uid then none
    else tree.node? spot
  records_eq : recordsIn after place =
    record :: otherRecords tree place (recordName record.uid)

theorem ChangesDraft.refl (h : tree.HoldsDirectory store.directory place) :
    store.ChangesDraft tree place uid tree :=
  ⟨h, fun _ _ ↦ rfl, .inl rfl, fun _ ↦ rfl⟩

/-- Writing the draft once more changes no other file either. -/
theorem ChangesDraft.put {content : List UInt8} {mode : Nat}
    (h : store.ChangesDraft tree place uid middle) (huid : IsUid uid)
    (hdraft : middle.node? (draftPlace place uid) ≠ some .directory) :
    store.ChangesDraft tree place uid
      (middle.put (draftPlace place uid) (.file content 0 mode)) where
  directory := h.directory.put (isFileName_draftName huid) hdraft
  node_eq spot hspot := by
    rw [FileTree.node?_put (draftPlace_ne_nil place uid), if_neg hspot, h.node_eq spot hspot]
  draft := .inr ⟨content, mode, FileTree.node?_put_self (draftPlace_ne_nil place uid)⟩
  records_eq pick := by
    rw [draftPlace, recordsWhere_put_of_not_record (isRecordName_draftName uid), h.records_eq]

/-- The record of a draft that is complete is in place after the draft was moved there. -/
theorem ChangesDraft.placesRecord (h : store.ChangesDraft tree place record.uid middle)
    (huid : IsUid record.uid)
    (hdraft : middle.node? (draftPlace place record.uid) ≠ some .directory)
    (hrecord : middle.node? (recordPlace place record.uid) ≠ some .directory) :
    store.PlacesRecord tree place record
      ((middle.drop (draftPlace place record.uid)).put (recordPlace place record.uid)
        (savedFile record)) where
  directory := by
    refine (h.directory.drop hdraft).put (isFileName_recordName huid) ?_
    exact (node?_drop_of_ne _ (draftName_ne_recordName record.uid record.uid).symm).trans_ne hrecord
  node_eq spot := by
    rw [FileTree.node?_put (recordPlace_ne_nil place record.uid),
      FileTree.node?_drop (draftPlace_ne_nil place record.uid)]
    split
    · rfl
    split
    · rfl
    next hspot => exact h.node_eq spot hspot
  records_eq := by
    rw [recordPlace, recordsIn_put_record (isRecordName_recordName huid), recordOf?_savedFile,
      otherRecords, draftPlace,
      recordsWhere_drop_of_not_record (isRecordName_draftName record.uid), h.records_eq]
    rfl

/-- Whether a node is no device of communication, which a write would leave as it is. -/
def IsPlain (node : Option FileNode) : Prop := node ≠ some .pipe ∧ node ≠ some .socket

/-- A draft that could be written is a file with what was written. -/
theorem write_draft_eq_ok {content : List UInt8} (h : tree.HoldsDirectory store.directory place)
    (huid : IsUid uid) (hdraft : IsPlain (tree.node? (draftPlace place uid)))
    (hwrite : tree.write (store.draftPath uid) content = .ok after) :
    tree.node? (draftPlace place uid) ≠ some .directory ∧
      ∃ mode, after = tree.put (draftPlace place uid) (.file content 0 mode) := by
  rw [FileTree.write, draftPath, h.update_joinPath (isFileName_draftName huid)] at hwrite
  unfold draftPlace at hdraft ⊢
  cases hnode : tree.node? (place ++ [draftName uid]) with
  | none =>
    rw [hnode] at hwrite
    exact ⟨nofun, _, (Except.ok.inj hwrite).symm⟩
  | some node =>
    rw [hnode] at hwrite hdraft
    cases node with
    | directory => cases hwrite
    | file content zeros mode => exact ⟨nofun, mode, (Except.ok.inj hwrite).symm⟩
    | pipe => exact absurd rfl hdraft.1
    | socket => exact absurd rfl hdraft.2

/-- What a write of a draft leaves behind, whether it succeeds or not. -/
theorem changesDraft_of_write {content : List UInt8} {answer : Except SystemError Unit}
    (h : tree.HoldsDirectory store.directory place) (huid : IsUid uid)
    (hdraft : IsPlain (tree.node? (draftPlace place uid)))
    (hstep : FileTree.faultyConduct past tree (.writeFile (store.draftPath uid) content) answer
      after) :
    store.ChangesDraft tree place uid after ∧
      (answer = .ok () →
        ∃ mode, after.node? (draftPlace place uid) = some (.file content 0 mode)) := by
  have hwritten {part : List UInt8}
      (hwrite : tree.write (store.draftPath uid) part = .ok after) :
      store.ChangesDraft tree place uid after ∧
        ∃ mode, after.node? (draftPlace place uid) = some (.file part 0 mode) := by
    obtain ⟨hnode, mode, rfl⟩ := write_draft_eq_ok h huid hdraft hwrite
    exact ⟨(ChangesDraft.refl h).put huid hnode, mode,
      FileTree.node?_put_self (draftPlace_ne_nil place uid)⟩
  obtain ⟨-, hwrite⟩ | ⟨⟨error, hfailed⟩, rfl | ⟨part, -, hwrite⟩⟩ :=
    FileTree.faultyConduct_writeFile hstep
  · obtain ⟨hchanges, hnode⟩ := hwritten hwrite
    exact ⟨hchanges, fun _ ↦ hnode⟩
  · exact ⟨.refl h, fun hanswer ↦ absurd (hanswer.symm.trans hfailed) nofun⟩
  · exact ⟨(hwritten hwrite).1, fun hanswer ↦ absurd (hanswer.symm.trans hfailed) nofun⟩

/-- What the mode of a draft is set to when it was written. -/
theorem changesDraft_of_setMode {content : List UInt8} {mode bits : Nat}
    {answer : Except SystemError Unit} (h : store.ChangesDraft tree place uid middle)
    (huid : IsUid uid)
    (hdraft : middle.node? (draftPlace place uid) = some (.file content 0 mode))
    (hstep : FileTree.faultyConduct past middle (.setMode (store.draftPath uid) bits) answer
      after) :
    store.ChangesDraft tree place uid after ∧
      (answer = .ok () →
        after.node? (draftPlace place uid) = some (.file content 0 bits)) := by
  obtain ⟨-, hset⟩ | ⟨error, hfailed, rfl⟩ := FileTree.faultyConduct_setMode hstep
  · rw [draftPath, h.directory.setMode_joinPath (isFileName_draftName huid) hdraft] at hset
    obtain rfl := Except.ok.inj hset
    exact ⟨h.put huid (by rw [hdraft]; exact nofun),
      fun _ ↦ FileTree.node?_put_self (draftPlace_ne_nil place uid)⟩
  · exact ⟨h, fun hanswer ↦ absurd (hanswer.symm.trans hfailed) nofun⟩

/-- A draft that is complete is moved to the place of its record or stays. -/
theorem placesRecord_of_rename {answer : Except SystemError Unit}
    (h : store.ChangesDraft tree place record.uid middle) (huid : IsUid record.uid)
    (hdraft : middle.node? (draftPlace place record.uid) = some (savedFile record))
    (hstep : FileTree.faultyConduct past middle
      (.rename (store.draftPath record.uid) (store.recordPath record.uid)) answer after) :
    (answer = .ok () ∧ store.PlacesRecord tree place record after) ∨
      ∃ error, answer = .error error ∧ store.ChangesDraft tree place record.uid after := by
  obtain ⟨hanswer, hrename⟩ | ⟨error, hfailed, rfl⟩ := FileTree.faultyConduct_rename hstep
  · rw [draftPath, recordPath, h.directory.rename_joinPath (isFileName_draftName huid)
      (isFileName_recordName huid) hdraft] at hrename
    have hfile : middle.node? (draftPlace place record.uid) ≠ some .directory := by
      rw [hdraft]
      intro heq
      cases heq
    split at hrename
    next => cases hrename
    next hrecord =>
      obtain rfl := Except.ok.inj hrename
      exact .inl ⟨hanswer, h.placesRecord huid hfile hrecord⟩
  · exact .inr ⟨error, hfailed, h⟩

/-! ## A save without failures -/

/-- Whether nothing stands in the way of a save: the places of its draft and of its record hold
files at most. -/
structure HasRoom (tree : FileTree) (place : List String) (uid : String) : Prop where
  draft_isPlain : IsPlain (tree.node? (draftPlace place uid))
  draft_ne_directory : tree.node? (draftPlace place uid) ≠ some .directory
  record_ne_directory : tree.node? (recordPlace place uid) ≠ some .directory

theorem PlacesRecord.node_recordPlace (h : store.PlacesRecord tree place record after) :
    after.node? (recordPlace place record.uid) = some (savedFile record) :=
  (h.node_eq _).trans (if_pos rfl)

theorem PlacesRecord.node_draftPlace (h : store.PlacesRecord tree place record after) :
    after.node? (draftPlace place record.uid) = none := by
  rw [h.node_eq, if_neg (recordPlace_ne_draftPlace place record.uid record.uid).symm, if_pos rfl]

theorem PlacesRecord.node_eq_of_ne (h : store.PlacesRecord tree place record after)
    {spot : List String} (hrecord : spot ≠ recordPlace place record.uid)
    (hdraft : spot ≠ draftPlace place record.uid) : after.node? spot = tree.node? spot := by
  rw [h.node_eq, if_neg hrecord, if_neg hdraft]

theorem HasRoom.congr (hroom : HasRoom tree place uid)
    (hdraft : after.node? (draftPlace place uid) = tree.node? (draftPlace place uid))
    (hrecord : after.node? (recordPlace place uid) = tree.node? (recordPlace place uid)) :
    HasRoom after place uid where
  draft_isPlain := hdraft ▸ hroom.draft_isPlain
  draft_ne_directory := hdraft ▸ hroom.draft_ne_directory
  record_ne_directory := hrecord ▸ hroom.record_ne_directory

/-- There is still room for a record after changes to its draft. -/
theorem ChangesDraft.hasRoom (h : store.ChangesDraft tree place uid after)
    (hroom : HasRoom tree place uid) : HasRoom after place uid := by
  have hrecord := h.node_eq _ (recordPlace_ne_draftPlace place uid uid)
  obtain hdraft | ⟨content, mode, hdraft⟩ := h.draft
  · exact hroom.congr hdraft hrecord
  · constructor
    · rw [hdraft]
      exact ⟨nofun, nofun⟩
    · rw [hdraft]
      exact nofun
    · rw [hrecord]
      exact hroom.record_ne_directory

/-- There is room for a record that has been saved, so that it can be saved again. -/
theorem PlacesRecord.hasRoom (h : store.PlacesRecord tree place record after) :
    HasRoom after place record.uid where
  draft_isPlain := by rw [h.node_draftPlace]; exact ⟨nofun, nofun⟩
  draft_ne_directory := by rw [h.node_draftPlace]; exact nofun
  record_ne_directory := by rw [h.node_recordPlace]; exact nofun

/-- A draft can be written where there is room for one. -/
theorem exists_write_draft_eq_ok (h : tree.HoldsDirectory store.directory place)
    (huid : IsUid uid) (hroom : HasRoom tree place uid) (content : List UInt8) :
    ∃ written, tree.write (store.draftPath uid) content = .ok written := by
  rw [FileTree.write, draftPath, h.update_joinPath (isFileName_draftName huid)]
  cases hnode : tree.node? (place ++ [draftName uid]) with
  | none => exact ⟨_, rfl⟩
  | some node =>
    cases node with
    | directory => exact absurd hnode hroom.draft_ne_directory
    | file content zeros mode => exact ⟨_, rfl⟩
    | pipe => exact absurd hnode hroom.draft_isPlain.1
    | socket => exact absurd hnode hroom.draft_isPlain.2

/-- A draft that was written can be moved to the place of its record. -/
theorem exists_rename_draft_eq_ok (h : store.ChangesDraft tree place uid middle)
    (huid : IsUid uid) (hroom : HasRoom tree place uid)
    (hdraft : middle.node? (draftPlace place uid) = some node) :
    ∃ final, middle.rename (store.draftPath uid) (store.recordPath uid) = .ok final := by
  have hrecord : middle.node? (recordPlace place uid) ≠ some .directory := by
    rw [h.node_eq _ (recordPlace_ne_draftPlace place uid uid)]
    exact hroom.record_ne_directory
  rw [draftPath, recordPath, h.directory.rename_joinPath (isFileName_draftName huid)
    (isFileName_recordName huid) hdraft]
  split
  next hdirectory => exact absurd hdirectory hrecord
  next => exact ⟨_, rfl⟩

/-- A save of which each request succeeds. -/
theorem run_save_eq (huid : IsUid record.uid) {final : FileTree}
    (hwrote : FileTree.answer
      (.writeFile (store.draftPath record.uid) (Text.bytesOfText record.text)) tree =
        (.ok (), middle))
    (hset : FileTree.answer (.setMode (store.draftPath record.uid) recordMode) middle =
      (.ok (), after))
    (hmoved : FileTree.answer
      (.rename (store.draftPath record.uid) (store.recordPath record.uid)) after =
        (.ok (), final)) :
    (store.save record).attempt.run FileTree.answer tree = (some (.ok ()), final) := by
  rw [attempt_save huid]
  refine (Program.run_ask_of_eq FileTree.answer hwrote).trans ?_
  dsimp only
  refine (Program.run_ask_of_eq FileTree.answer hset).trans ?_
  dsimp only
  exact Program.run_ask_of_eq FileTree.answer hmoved

/-- A save succeeds where nothing stands in its way. -/
theorem run_save (h : tree.HoldsDirectory store.directory place) (huid : IsUid record.uid)
    (hroom : HasRoom tree place record.uid) :
    ∃ final, (store.save record).attempt.run FileTree.answer tree = (some (.ok ()), final) ∧
      store.PlacesRecord tree place record final := by
  obtain ⟨written, hwrite⟩ :=
    exists_write_draft_eq_ok h huid hroom (Text.bytesOfText record.text)
  have hwrote : FileTree.answer
      (.writeFile (store.draftPath record.uid) (Text.bytesOfText record.text)) tree =
        (.ok (), written) := congrArg tree.changed hwrite
  have hstep := FileTree.faultyConduct_of_answer [] hwrote
  obtain ⟨hchanges, hnode⟩ := changesDraft_of_write h huid hroom.draft_isPlain hstep
  obtain ⟨mode, hnode⟩ := hnode rfl
  have hset : FileTree.answer (.setMode (store.draftPath record.uid) recordMode) written =
      (.ok (), written.put (draftPlace place record.uid) (savedFile record)) :=
    congrArg written.changed
      (hchanges.directory.setMode_joinPath (isFileName_draftName huid) hnode recordMode)
  have hstep := FileTree.faultyConduct_of_answer [] hset
  obtain ⟨hchanges, hnode⟩ := changesDraft_of_setMode hchanges huid hnode hstep
  have hcomplete := hnode rfl
  obtain ⟨final, hrename⟩ := exists_rename_draft_eq_ok hchanges huid hroom hcomplete
  have hmoved : FileTree.answer
      (.rename (store.draftPath record.uid) (store.recordPath record.uid))
      (written.put (draftPlace place record.uid) (savedFile record)) = (.ok (), final) :=
    congrArg (FileTree.changed _) hrename
  have hstep := FileTree.faultyConduct_of_answer [] hmoved
  obtain ⟨-, hplaced⟩ | ⟨error, hfailed, -⟩ :=
    placesRecord_of_rename hchanges huid hcomplete hstep
  · exact ⟨final, run_save_eq huid hwrote hset hmoved, hplaced⟩
  · cases hfailed

end MicroVm.Machine.Store

import MicroVm.Proofs.Machine.SaveSteps

/-!
# A save is atomic

Wherever a save is cut off, and whatever fails in it, readers find the store as it was before or
with the whole new record. What it leaves behind keeps no later save from succeeding.
-/

namespace MicroVm.Machine.Store

open MicroVm.Host MicroVm.Rehearsal

variable {store : Store} {tree after : FileTree} {place : List String} {record : Record}
  {uid : String} {past : History Files}

/-! ## A save that is cut off or fails -/

/-- After each part of a save, the draft at most has changed, or the save is over and its record in
place. -/
theorem throughout_save (h : tree.HoldsDirectory store.directory place) (huid : IsUid record.uid)
    (hdraft : IsPlain (tree.node? (draftPlace place record.uid))) :
    (store.save record).attempt.Throughout FileTree.faultyConduct past tree fun rest after ↦
      (store.ChangesDraft tree place record.uid after ∧ rest ≠ .done (.ok ())) ∨
        store.PlacesRecord tree place record after := by
  rw [attempt_save huid]
  refine Program.throughout_ask (.inl ⟨.refl h, nofun⟩) fun written wrote hwrite ↦ ?_
  obtain ⟨hchanges, hnode⟩ := changesDraft_of_write h huid hdraft hwrite
  cases written with
  | error error => exact Program.throughout_done (.inl ⟨hchanges, nofun⟩)
  | ok value =>
    obtain ⟨mode, hnode⟩ := hnode rfl
    refine Program.throughout_ask (.inl ⟨hchanges, nofun⟩) fun restricted set hset ↦ ?_
    obtain ⟨hchanges, hnode⟩ := changesDraft_of_setMode hchanges huid hnode hset
    cases restricted with
    | error error => exact Program.throughout_done (.inl ⟨hchanges, nofun⟩)
    | ok value =>
      refine Program.throughout_ask (.inl ⟨hchanges, nofun⟩) fun placed final hrename ↦ ?_
      obtain ⟨rfl, hplaced⟩ | ⟨error, rfl, hchanges⟩ :=
        placesRecord_of_rename hchanges huid (hnode rfl) hrename
      · exact Program.throughout_done (.inr hplaced)
      · exact Program.throughout_done (.inl ⟨hchanges, nofun⟩)

/-! ## What readers find -/

/-- What readers find in a store: what a load of one id gives, and which records are listed and
found by their names. -/
structure Shows (store : Store) (tree : FileTree) (uid : String) (found : Except Failure Record)
    (records : List Record) : Prop where
  by_uid : (store.loadByUid uid).attempt.Ensures FileTree.conduct [] tree fun result _ _ ↦
    result = found
  listed : store.list.attempt.Ensures FileTree.conduct [] tree fun result _ _ ↦
    ∃ listed, result = .ok listed ∧ listed.Perm records
  by_name : ∀ name, (store.loadByName name).attempt.Ensures FileTree.conduct [] tree
    fun result _ _ ↦ IsResultByName records name result

theorem shows_of_holdsDirectory (h : tree.HoldsDirectory store.directory place)
    (huid : IsUid uid) :
    store.Shows tree uid (readResult uid (tree.read (store.recordPath uid)))
      (recordsIn tree place) where
  by_uid := (ensures_loadByUid huid).mono fun _ _ _ hresult ↦ hresult.2
  listed := (ensures_list h).mono fun _ _ _ hresult ↦ hresult.2
  by_name name := (ensures_loadByName h name).mono fun _ _ _ hresult ↦ hresult.2

/-- A file that has not changed is read as before. -/
theorem read_recordPath_congr (h : tree.HoldsDirectory store.directory place)
    (hafter : after.HoldsDirectory store.directory place) (huid : IsUid uid)
    (hnode : after.node? (recordPlace place uid) = tree.node? (recordPlace place uid)) :
    after.read (store.recordPath uid) = tree.read (store.recordPath uid) := by
  rw [recordPath, h.read_joinPath (isFileName_recordName huid),
    hafter.read_joinPath (isFileName_recordName huid)]
  unfold recordPlace at hnode
  rw [hnode]

section Shown

variable (h : tree.HoldsDirectory store.directory place) (huid : IsUid record.uid)

include h huid

/-- A change to the draft of a record is seen by no reader. -/
theorem ChangesDraft.shows (hchanges : store.ChangesDraft tree place record.uid after) :
    store.Shows after record.uid
      (readResult record.uid (tree.read (store.recordPath record.uid)))
      (recordsIn tree place) := by
  have hnode := hchanges.node_eq _ (recordPlace_ne_draftPlace place record.uid record.uid)
  have hshows := shows_of_holdsDirectory hchanges.directory huid
  rwa [read_recordPath_congr h hchanges.directory huid hnode, recordsIn_eq, hchanges.records_eq,
    ← recordsIn_eq] at hshows

omit h in
theorem PlacesRecord.shows (hplaces : store.PlacesRecord tree place record after) :
    store.Shows after record.uid (.ok record)
      (record :: otherRecords tree place (recordName record.uid)) := by
  have hshows := shows_of_holdsDirectory hplaces.directory huid
  rwa [readResult_savedFile hplaces.directory huid hplaces.node_recordPlace,
    hplaces.records_eq] at hshows

end Shown

/-! ## The theorem -/

/-- What holds after a part of a save, of which a rest is left. -/
structure IsAtomic (store : Store) (tree : FileTree) (place : List String) (record : Record)
    (rest : Program Files (Except Failure Unit)) (after : FileTree) : Prop where
  /-- Readers find the store as it was, or with the new record and without a former one. -/
  shows :
    store.Shows after record.uid
        (readResult record.uid (tree.read (store.recordPath record.uid)))
        (recordsIn tree place) ∨
      store.Shows after record.uid (.ok record)
        (record :: otherRecords tree place (recordName record.uid))
  /-- The new record lies in its place as a whole, and then its owner alone may read it. -/
  owner_only :
    after.node? (recordPlace place record.uid) = tree.node? (recordPlace place record.uid) ∨
      after.node? (recordPlace place record.uid) =
        some (.file (Text.bytesOfText record.text) 0 0o600)
  untouched : ∀ spot, spot ≠ recordPlace place record.uid → spot ≠ draftPlace place record.uid →
    after.node? spot = tree.node? spot
  others_by_uid : ∀ uid, IsUid uid → uid ≠ record.uid →
    (store.loadByUid uid).attempt.Ensures FileTree.conduct [] after fun result _ _ ↦
      result = readResult uid (tree.read (store.recordPath uid))
  complete : rest = .done (.ok ()) →
    after.node? (recordPlace place record.uid) =
        some (.file (Text.bytesOfText record.text) 0 0o600) ∧
      after.node? (draftPlace place record.uid) = none
  /-- A later save of the same id succeeds unless something else than files was in its way. -/
  later : HasRoom tree place record.uid → ∀ other : Record, other.uid = record.uid →
    ∃ final, (store.save other).attempt.run FileTree.answer after = (some (.ok ()), final) ∧
      final.node? (recordPlace place record.uid) = some (savedFile other) ∧
      final.node? (draftPlace place record.uid) = none

/-- A store in which the draft and the record of an id at most have changed. -/
theorem ensures_loadByUid_other (h : tree.HoldsDirectory store.directory place)
    (hafter : after.HoldsDirectory store.directory place)
    (huntouched : ∀ spot, spot ≠ recordPlace place record.uid →
      spot ≠ draftPlace place record.uid → after.node? spot = tree.node? spot)
    (huid : IsUid uid) (hne : uid ≠ record.uid) :
    (store.loadByUid uid).attempt.Ensures FileTree.conduct [] after fun result _ _ ↦
      result = readResult uid (tree.read (store.recordPath uid)) := by
  have hnode := huntouched _ (recordPlace_ne hne) (recordPlace_ne_draftPlace place uid record.uid)
  have hread := (shows_of_holdsDirectory hafter huid).by_uid
  rwa [read_recordPath_congr h hafter huid hnode] at hread

theorem exists_run_later (hafter : after.HoldsDirectory store.directory place)
    (huid : IsUid record.uid) (hroom : HasRoom after place record.uid) {other : Record}
    (hother : other.uid = record.uid) :
    ∃ final, (store.save other).attempt.run FileTree.answer after = (some (.ok ()), final) ∧
      final.node? (recordPlace place record.uid) = some (savedFile other) ∧
      final.node? (draftPlace place record.uid) = none := by
  rw [← hother] at huid hroom ⊢
  obtain ⟨final, hrun, hplaces⟩ := run_save hafter huid hroom
  exact ⟨final, hrun, hplaces.node_recordPlace, hplaces.node_draftPlace⟩

/-- Wherever a save is cut off, and whatever fails in it, it is atomic. -/
theorem isAtomic_of_leaves {history : History Files} {rest : Program Files (Except Failure Unit)}
    (h : tree.HoldsDirectory store.directory place) (huid : IsUid record.uid)
    (hdraft : IsPlain (tree.node? (draftPlace place record.uid)))
    (hleaves : (store.save record).attempt.Leaves history rest)
    (hallows : FileTree.faultyConduct.Allows [] tree history after) :
    store.IsAtomic tree place record rest after := by
  obtain ⟨hchanges, hrest⟩ | hplaces := throughout_save h huid hdraft hleaves hallows
  · have huntouched : ∀ spot, spot ≠ recordPlace place record.uid →
        spot ≠ draftPlace place record.uid → after.node? spot = tree.node? spot :=
      fun spot _ hspot ↦ hchanges.node_eq spot hspot
    exact
      { shows := .inl (hchanges.shows h huid)
        owner_only :=
          .inl (hchanges.node_eq _ (recordPlace_ne_draftPlace place record.uid record.uid))
        untouched := huntouched
        others_by_uid := fun uid ↦ ensures_loadByUid_other h hchanges.directory huntouched
        complete := fun hdone ↦ absurd hdone hrest
        later := fun hroom other ↦
          exists_run_later hchanges.directory huid (hchanges.hasRoom hroom) }
  · have huntouched : ∀ spot, spot ≠ recordPlace place record.uid →
        spot ≠ draftPlace place record.uid → after.node? spot = tree.node? spot :=
      fun _ ↦ hplaces.node_eq_of_ne
    exact
      { shows := .inr (hplaces.shows huid)
        owner_only := .inr hplaces.node_recordPlace
        untouched := huntouched
        others_by_uid := fun uid ↦ ensures_loadByUid_other h hplaces.directory huntouched
        complete := fun _ ↦ ⟨hplaces.node_recordPlace, hplaces.node_draftPlace⟩
        later := fun _ other ↦ exists_run_later hplaces.directory huid hplaces.hasRoom }

/-- A tree with an empty directory. -/
def sampleTree : FileTree := { nodes := [(["state"], .directory)] }

theorem holdsDirectory_sampleTree :
    sampleTree.HoldsDirectory "/state" ["state"] where
  place_eq := by rfl
  node_eq := by rfl
  isFileName name hmem := by
    have hnames : sampleTree.namesIn ["state"] = [] := rfl
    rw [hnames] at hmem
    cases hmem

/-- A save into the empty directory that breaks off after five bytes. -/
theorem isAtomic_of_partial_write :
    ∃ history rest after,
      ((⟨"/state"⟩ : Store).save (Sample.record "abc" "web")).attempt.Leaves history rest ∧
      FileTree.faultyConduct.Allows [] sampleTree history after ∧
      after.node? (draftPlace ["state"] "abc") = some
        (.file ((Text.bytesOfText (Sample.record "abc" "web").text).take 5) 0 newFileMode) ∧
      (⟨"/state"⟩ : Store).IsAtomic sampleTree ["state"] (Sample.record "abc" "web") rest
        after := by
  have huid : IsUid (Sample.record "abc" "web").uid := by decide
  have hwrite : sampleTree.write ((⟨"/state"⟩ : Store).draftPath "abc")
      ((Text.bytesOfText (Sample.record "abc" "web").text).take 5) = .ok _ :=
    holdsDirectory_sampleTree.update_joinPath (isFileName_draftName huid) _
  obtain ⟨rest, hleaves⟩ : ∃ rest,
      ((⟨"/state"⟩ : Store).save (Sample.record "abc" "web")).attempt.Leaves
        [⟨.writeFile ((⟨"/state"⟩ : Store).draftPath "abc")
          (Text.bytesOfText (Sample.record "abc" "web").text),
          .error ⟨28, "No space left on device"⟩⟩] rest := by
    rw [attempt_save huid]
    exact ⟨_, .cons _ (.nil _)⟩
  have hstep := FileTree.faultyConduct_of_part [] ⟨28, "No space left on device"⟩
    (List.take_prefix 5 _) hwrite
  have hallows : FileTree.faultyConduct.Allows [] sampleTree [⟨_, _⟩] _ :=
    Conduct.allows_singleton hstep
  exact ⟨_, _, _, hleaves, hallows, FileTree.node?_put (draftPlace_ne_nil _ _) _,
    isAtomic_of_leaves holdsDirectory_sampleTree huid ⟨nofun, nofun⟩ hleaves hallows⟩

end MicroVm.Machine.Store

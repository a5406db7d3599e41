import MicroVm.Proofs.Machine.SaveSteps

/-!
# The store is a map

After any saves, the store holds for each id the record that was saved last under it and no other
record. A load finds it by its id, and a load of a text that is no such id finds by name among the
records that were saved last. Drafts that were left behind and files that hold no record do not
matter, and neither does the order in which the directory is listed.
-/

namespace MicroVm.Machine.Store

open MicroVm.Host MicroVm.Rehearsal

variable {store : Store} {tree initial : FileTree} {place : List String} {record : Record}
  {records : List Record} {uid name : String}

/-! ## The map -/

/-- The record that was saved last under an id, after saves of which those without an id were
refused. -/
def lastSaved (records : List Record) (uid : String) : Option Record :=
  if IsUid uid then (records.filter fun record ↦ record.uid = uid).getLast? else none

/-- The last save of an id wins, unless it is refused. -/
theorem lastSaved_concat (records : List Record) (record : Record) (uid : String) :
    lastSaved (records ++ [record]) uid =
      if IsUid uid ∧ record.uid = uid then some record else lastSaved records uid := by
  rw [lastSaved, lastSaved, List.filter_append]
  by_cases huid : IsUid uid
  · by_cases hrecord : record.uid = uid
    · simp [huid, hrecord]
    · simp [huid, hrecord]
  · simp [huid]

theorem lastSaved_concat_self (huid : IsUid record.uid) :
    lastSaved (records ++ [record]) record.uid = some record := by
  rw [lastSaved_concat, if_pos ⟨huid, rfl⟩]

theorem lastSaved_concat_of_ne (hne : record.uid ≠ uid) :
    lastSaved (records ++ [record]) uid = lastSaved records uid := by
  rw [lastSaved_concat, if_neg fun hboth ↦ hne hboth.2]

/-- What was saved last under an id has that id. -/
theorem uid_of_lastSaved (h : lastSaved records uid = some record) :
    IsUid uid ∧ record.uid = uid ∧ record ∈ records := by
  rw [lastSaved] at h
  split at h
  next huid =>
    obtain ⟨hmem, hrecord⟩ := List.mem_filter.1 (List.mem_of_getLast? h)
    exact ⟨huid, of_decide_eq_true hrecord, hmem⟩
  next => cases h

/-! ## The directory -/

/-- The tree after saves in a given order. -/
def saveAll (store : Store) (records : List Record) (tree : FileTree) : FileTree :=
  records.foldl (fun tree record ↦ ((store.save record).attempt.run FileTree.answer tree).2) tree

/-- Whether a store lies in a directory without records, in which other files may lie about. None
of them has the name of a record that will be saved, and nothing but a file that of its draft. -/
structure IsEmptyStore (store : Store) (tree : FileTree) (place : List String)
    (records : List Record) : Prop where
  directory : tree.HoldsDirectory store.directory place
  no_record : ∀ name, isRecordName name = true → recordAt tree place name = none
  no_file : ∀ record ∈ records, IsUid record.uid →
    tree.node? (recordPlace place record.uid) = none
  hasRoom : ∀ record ∈ records, IsUid record.uid → HasRoom tree place record.uid

theorem IsEmptyStore.of_subset {fewer : List Record} (h : store.IsEmptyStore tree place records)
    (hsubset : fewer ⊆ records) : store.IsEmptyStore tree place fewer where
  directory := h.directory
  no_record := h.no_record
  no_file record hmem := h.no_file record (hsubset hmem)
  hasRoom record hmem := h.hasRoom record (hsubset hmem)

/-- Whether a tree holds what saves have left of an initial one. -/
structure HoldsSaved (store : Store) (initial : FileTree) (place : List String)
    (records : List Record) (tree : FileTree) : Prop where
  directory : tree.HoldsDirectory store.directory place
  saved : ∀ uid record, lastSaved records uid = some record →
    tree.node? (recordPlace place uid) = some (savedFile record)
  others : ∀ name, isRecordName name = true →
    (∀ uid record, lastSaved records uid = some record → recordName uid ≠ name) →
      tree.node? (place ++ [name]) = initial.node? (place ++ [name])
  hasRoom : ∀ uid, HasRoom initial place uid → HasRoom tree place uid

theorem HoldsSaved.init (h : tree.HoldsDirectory store.directory place) :
    store.HoldsSaved tree place [] tree where
  directory := h
  saved _ _ hsaved := absurd (uid_of_lastSaved hsaved).2.2 List.not_mem_nil
  others _ _ _ := rfl
  hasRoom _ hroom := hroom

theorem HoldsSaved.save (h : store.HoldsSaved initial place records tree)
    (huid : IsUid record.uid) {final : FileTree}
    (hplaces : store.PlacesRecord tree place record final) :
    store.HoldsSaved initial place (records ++ [record]) final where
  directory := hplaces.directory
  saved uid other hsaved := by
    obtain rfl | hne := eq_or_ne record.uid uid
    · rw [lastSaved_concat_self huid] at hsaved
      obtain rfl := Option.some.inj hsaved
      exact hplaces.node_recordPlace
    · rw [lastSaved_concat_of_ne hne] at hsaved
      have hnode := hplaces.node_eq_of_ne (recordPlace_ne hne.symm)
        (recordPlace_ne_draftPlace place uid record.uid)
      rw [hnode, h.saved uid other hsaved]
  others name hname hother := by
    have hrecord : place ++ [name] ≠ recordPlace place record.uid :=
      append_singleton_ne (hother _ _ (lastSaved_concat_self huid)).symm
    have hdraft : place ++ [name] ≠ draftPlace place record.uid := by
      apply append_singleton_ne
      rintro rfl
      exact absurd hname (Bool.eq_false_iff.1 (isRecordName_draftName record.uid))
    rw [hplaces.node_eq_of_ne hrecord hdraft]
    refine h.others name hname fun uid other hsaved ↦ ?_
    obtain rfl | hne := eq_or_ne record.uid uid
    · exact hother _ _ (lastSaved_concat_self huid)
    · exact hother uid other ((lastSaved_concat_of_ne hne).trans hsaved)
  hasRoom uid hroom := by
    obtain rfl | hne := eq_or_ne uid record.uid
    · exact hplaces.hasRoom
    · refine (h.hasRoom uid hroom).congr ?_ ?_
      · exact hplaces.node_eq_of_ne (recordPlace_ne_draftPlace place record.uid uid).symm
          (draftPlace_ne hne)
      · exact hplaces.node_eq_of_ne (recordPlace_ne hne)
          (recordPlace_ne_draftPlace place uid record.uid)

theorem HoldsSaved.refused (h : store.HoldsSaved initial place records tree)
    (huid : ¬ IsUid record.uid) :
    store.HoldsSaved initial place (records ++ [record]) tree := by
  have hlast : lastSaved (records ++ [record]) = lastSaved records := by
    funext uid
    rw [lastSaved_concat, if_neg]
    rintro ⟨hother, rfl⟩
    exact huid hother
  constructor
  · exact h.directory
  · rw [hlast]
    exact h.saved
  · rw [hlast]
    exact h.others
  · exact h.hasRoom

/-- How a save ends where nothing is in its way: it is refused without an id and succeeds with
one. -/
def saveResult (record : Record) : Except Failure Unit :=
  (checkUid record.uid).mapError fun fault ↦ .cause (.badUid fault)

theorem HoldsSaved.run (h : store.HoldsSaved initial place records tree)
    (hroom : IsUid record.uid → HasRoom initial place record.uid) :
    ∃ final, (store.save record).attempt.run FileTree.answer tree =
        (some (saveResult record), final) ∧
      (¬ IsUid record.uid → final = tree) ∧
      store.HoldsSaved initial place (records ++ [record]) final := by
  by_cases huid : IsUid record.uid
  · obtain ⟨final, hrun, hplaces⟩ :=
      run_save h.directory huid (h.hasRoom record.uid (hroom huid))
    have hresult : saveResult record = .ok () := by
      rw [saveResult, show checkUid record.uid = .ok () from huid]
      rfl
    exact ⟨final, hresult ▸ hrun, fun hno ↦ absurd huid hno, h.save huid hplaces⟩
  · obtain ⟨fault, hfault, hrefused⟩ := attempt_save_of_not_isUid store huid
    refine ⟨tree, ?_, fun _ ↦ rfl, h.refused huid⟩
    rw [hrefused, saveResult, hfault]
    rfl

/-- The saves of some records leave a tree that holds them, one after the other. -/
theorem holdsSaved_saveAll (h : store.IsEmptyStore tree place records) :
    store.HoldsSaved tree place records (store.saveAll records tree) := by
  induction records using List.reverseRecOn with
  | nil => exact .init h.directory
  | append_singleton records record ih =>
    have hsaved := ih (h.of_subset (List.subset_append_left _ _))
    obtain ⟨final, hrun, -, hfinal⟩ :=
      hsaved.run (h.hasRoom record (List.mem_append_right _ List.mem_cons_self))
    rw [saveAll, List.foldl_append, List.foldl_cons, List.foldl_nil]
    change store.HoldsSaved tree place (records ++ [record])
      ((store.save record).attempt.run FileTree.answer (store.saveAll records tree)).2
    rw [hrun]
    exact hfinal

/-! ## Loads -/

section Loads

variable (h : store.IsEmptyStore initial place records)
  (hsaved : store.HoldsSaved initial place records tree)

include h hsaved

/-- The records in the directory are those that were saved last. -/
theorem recordAt_eq_some_iff :
    (∃ name, isRecordName name = true ∧ recordAt tree place name = some record) ↔
      lastSaved records record.uid = some record := by
  constructor
  · rintro ⟨name, hname, hat⟩
    by_cases hlast : ∃ uid other, lastSaved records uid = some other ∧ recordName uid = name
    · obtain ⟨uid, other, hother, rfl⟩ := hlast
      rw [recordAt_of_savedFile (hsaved.saved uid other hother)] at hat
      obtain rfl := Option.some.inj hat
      rwa [(uid_of_lastSaved hother).2.1]
    · have hnode := hsaved.others name hname fun uid other hother heq ↦
        hlast ⟨uid, other, hother, heq⟩
      have hnone := h.no_record name hname
      rw [recordAt, hnode] at hat
      cases hat.symm.trans hnone
  · intro hlast
    obtain ⟨huid, -, -⟩ := uid_of_lastSaved hlast
    exact ⟨recordName record.uid, isRecordName_recordName huid,
      recordAt_of_savedFile (hsaved.saved record.uid record hlast)⟩

theorem mem_recordsIn_iff_lastSaved :
    record ∈ recordsIn tree place ↔ lastSaved records record.uid = some record := by
  rw [mem_recordsIn_iff]
  exact recordAt_eq_some_iff h hsaved

/-- A load by id gives a record only if that was saved last. -/
theorem lastSaved_of_readResult (huid : IsUid uid)
    (hread : readResult uid (tree.read (store.recordPath uid)) = .ok record) :
    lastSaved records record.uid = some record := by
  apply (recordAt_eq_some_iff h hsaved).1
  refine ⟨recordName uid, isRecordName_recordName huid, ?_⟩
  rw [← foundRecord?_read hsaved.directory (isFileName_recordName huid)]
  exact readResult_eq_ok_iff.1 hread

/-- A load by name gives a record that was saved last. -/
theorem lastSaved_of_isResultByName
    (hresult : IsResultByName (recordsIn tree place) name (.ok record)) :
    lastSaved records record.uid = some record ∧ record.name = name := by
  obtain ⟨other, hmem, hname, hother⟩ | ⟨-, hother⟩ := hresult
  · obtain rfl := Except.ok.inj hother
    exact ⟨(mem_recordsIn_iff_lastSaved h hsaved).1 hmem, hname⟩
  · cases hother

omit h in
/-- A load goes by an id under which something was saved. -/
theorem ensures_load_of_lastSaved (hlast : lastSaved records uid = some record) :
    (store.load uid).attempt.Ensures FileTree.conduct [] tree fun result _ _ ↦
      result = .ok record := by
  obtain ⟨huid, rfl, -⟩ := uid_of_lastSaved hlast
  have hnode := hsaved.saved record.uid record hlast
  have hsome : (tree.node? (recordPlace place record.uid)).isSome = true := by
    rw [hnode]
    rfl
  refine (ensures_load_of_record hsaved.directory huid hsome).mono ?_
  rintro result past after ⟨-, rfl⟩
  exact readResult_savedFile hsaved.directory huid hnode

omit h in
/-- There is no file for an id under which nothing was saved, unless there was one before. -/
theorem not_isSome_node (hlast : lastSaved records name = none)
    (hnode : initial.node? (recordPlace place name) = none) :
    ¬ (IsUid name ∧ (tree.node? (place ++ [recordName name])).isSome = true) := by
  rintro ⟨huid, hsome⟩
  rw [hsaved.others _ (isRecordName_recordName huid)] at hsome
  · unfold recordPlace at hnode
    rw [hnode] at hsome
    cases hsome
  · intro uid other hother heq
    obtain rfl := recordName_inj.1 heq
    rw [hlast] at hother
    cases hother

/-- A load that does not go by an id gives a record of that name, or fails when there is none. -/
theorem ensures_load_of_name (hlast : lastSaved records name = none)
    (hnode : initial.node? (recordPlace place name) = none) :
    (store.load name).attempt.Ensures FileTree.conduct [] tree fun result _ _ ↦
      (∃ record, lastSaved records record.uid = some record ∧ record.name = name ∧
        result = .ok record) ∨
      (∀ record, lastSaved records record.uid = some record → record.name ≠ name) ∧
        ∃ failure, result = .error failure ∧ failure.root = .unknownMachine name ∧
          failure.root.message = s!"VM not found: {name}" := by
  have hfile := not_isSome_node hsaved hlast hnode
  refine (ensures_load_of_no_record hsaved.directory hfile).mono ?_
  rintro result past after ⟨-, inner, hinner, rfl⟩
  obtain ⟨record, hmem, hname, rfl⟩ | ⟨hnone, rfl⟩ := hinner
  · exact .inl ⟨record, (mem_recordsIn_iff_lastSaved h hsaved).1 hmem, hname, rfl⟩
  · refine .inr ⟨fun record hrecord ↦ ?_, _, rfl, rfl, rfl⟩
    exact hnone record ((mem_recordsIn_iff_lastSaved h hsaved).2 hrecord)

theorem ensures_load_last (id : String) :
    (store.load id).attempt.Ensures FileTree.conduct [] tree fun result _ _ ↦
      ∀ record, result = .ok record → lastSaved records record.uid = some record := by
  by_cases hfile : IsUid id ∧ (tree.node? (place ++ [recordName id])).isSome = true
  · refine (ensures_load_of_record hsaved.directory hfile.1 hfile.2).mono ?_
    rintro result past after ⟨-, rfl⟩ record hread
    exact lastSaved_of_readResult h hsaved hfile.1 hread
  · refine (ensures_load_of_no_record hsaved.directory hfile).mono ?_
    rintro result past after ⟨-, inner, hinner, rfl⟩ record hresult
    cases inner with
    | error failure => cases hresult
    | ok found =>
      obtain rfl := Except.ok.inj hresult
      exact (lastSaved_of_isResultByName h hsaved hinner).1

/-- What is loaded by an id was saved last under the id that it has. -/
theorem ensures_loadByUid_last (uid : String) :
    (store.loadByUid uid).attempt.Ensures FileTree.conduct [] tree fun result _ _ ↦
      ∀ record, result = .ok record → lastSaved records record.uid = some record := by
  by_cases huid : IsUid uid
  · refine (ensures_loadByUid huid).mono ?_
    rintro result past after ⟨-, rfl⟩ record hread
    exact lastSaved_of_readResult h hsaved huid hread
  · obtain ⟨fault, hrefused⟩ := attempt_loadByUid_of_not_isUid store huid
    rw [hrefused]
    exact Program.ensures_done fun record hresult ↦ nomatch hresult

end Loads

/-- What loads give after saves of some records into an initial tree. -/
structure RefinesMap (store : Store) (initial : FileTree) (place : List String)
    (records : List Record) (tree : FileTree) : Prop where
  /-- An id under which something was saved goes before any name. -/
  load_saved : ∀ uid record, lastSaved records uid = some record →
    (store.load uid).attempt.Ensures FileTree.conduct [] tree fun result _ _ ↦
      result = .ok record
  load_named : ∀ id, lastSaved records id = none → initial.node? (recordPlace place id) = none →
    (store.load id).attempt.Ensures FileTree.conduct [] tree fun result _ _ ↦
      (∃ record, lastSaved records record.uid = some record ∧ record.name = id ∧
        result = .ok record) ∨
      (∀ record, lastSaved records record.uid = some record → record.name ≠ id) ∧
        ∃ failure, result = .error failure ∧ failure.root = .unknownMachine id ∧
          failure.root.message = s!"VM not found: {id}"
  load_unique : ∀ id record, lastSaved records id = none →
    initial.node? (recordPlace place id) = none →
    (∀ other, lastSaved records other.uid = some other ∧ other.name = id ↔ other = record) →
    (store.load id).attempt.Ensures FileTree.conduct [] tree fun result _ _ ↦
      result = .ok record
  /-- Nothing that was overwritten is ever given. -/
  load_last : ∀ id, (store.load id).attempt.Ensures FileTree.conduct [] tree fun result _ _ ↦
    ∀ record, result = .ok record → lastSaved records record.uid = some record
  by_uid_last : ∀ uid,
    (store.loadByUid uid).attempt.Ensures FileTree.conduct [] tree fun result _ _ ↦
      ∀ record, result = .ok record → lastSaved records record.uid = some record
  by_name_last : ∀ name,
    (store.loadByName name).attempt.Ensures FileTree.conduct [] tree fun result _ _ ↦
      ∀ record, result = .ok record →
        lastSaved records record.uid = some record ∧ record.name = name

theorem HoldsSaved.refinesMap (hsaved : store.HoldsSaved initial place records tree)
    (h : store.IsEmptyStore initial place records) :
    store.RefinesMap initial place records tree where
  load_saved uid record := ensures_load_of_lastSaved hsaved
  load_named id := ensures_load_of_name h hsaved
  load_unique id record hlast hnode hunique := by
    refine (ensures_load_of_name h hsaved hlast hnode).mono ?_
    rintro result - - (⟨other, hother, hname, rfl⟩ | ⟨hnone, -⟩)
    · rw [(hunique other).1 ⟨hother, hname⟩]
    · obtain ⟨hrecord, hname⟩ := (hunique record).2 rfl
      exact absurd hname (hnone record hrecord)
  load_last := ensures_load_last h hsaved
  by_uid_last := ensures_loadByUid_last h hsaved
  by_name_last name := by
    refine (ensures_loadByName hsaved.directory name).mono ?_
    rintro result past after ⟨-, hresult⟩ record rfl
    exact lastSaved_of_isResultByName h hsaved hresult

/-- Saves of records with ids succeed, the others are refused and change nothing, and then the store
is a map from ids to the records that were saved last. -/
theorem refinesMap_saveAll (h : store.IsEmptyStore initial place records) :
    (∀ before record after, records = before ++ record :: after →
      ∃ final, (store.save record).attempt.run FileTree.answer (store.saveAll before initial) =
          (some (saveResult record), final) ∧
        (¬ IsUid record.uid → final = store.saveAll before initial)) ∧
    store.RefinesMap initial place records (store.saveAll records initial) := by
  refine ⟨?_, (holdsSaved_saveAll h).refinesMap h⟩
  rintro before record after rfl
  have hbefore := holdsSaved_saveAll (h.of_subset (List.subset_append_left before _))
  have hmem : record ∈ before ++ record :: after :=
    List.mem_append_right _ List.mem_cons_self
  obtain ⟨final, hrun, hrefused, -⟩ := hbefore.run (h.hasRoom record hmem)
  exact ⟨final, hrun, hrefused⟩

/-! ## Two machines that trade a name -/

/-- A directory with an empty file that has the name of a record, and with a draft. -/
def strayTree : FileTree where
  nodes := [(["state"], .directory), (["state", "bad.json"], .file [] 0 newFileMode),
    (["state", "abc.json.tmp"], .file [1] 0 newFileMode)]

/-- A machine whose first name is the id of another one, one without an id, and the first one under
another name. -/
def tradingRecords : List Record :=
  [Sample.record "abc" "web", Sample.record "web" "old", Sample.record "../abc" "web",
    Sample.record "abc" "new"]

theorem node?_strayTree (name : String) : strayTree.node? (["state"] ++ [name]) =
    if name = "bad.json" then some (.file [] 0 newFileMode)
    else if name = "abc.json.tmp" then some (.file [1] 0 newFileMode) else none := by
  rw [FileTree.node?, if_neg (List.append_ne_nil_of_right_ne_nil _ (List.cons_ne_nil _ _)),
    strayTree]
  split_ifs with hbad hdraft
  · rw [hbad]
    rfl
  · rw [hdraft]
    rfl
  · simp [List.lookup_cons, beq_false_of_ne hbad, beq_false_of_ne hdraft]

theorem node?_recordPlace_strayTree (huid : uid ≠ "bad") :
    strayTree.node? (recordPlace ["state"] uid) = none := by
  have hother : recordName uid ≠ recordName "bad" := fun heq ↦ huid (recordName_inj.1 heq)
  have hbad : recordName uid ≠ "bad.json" := hother
  have hdraft : recordName uid ≠ "abc.json.tmp" := (draftName_ne_recordName "abc" uid).symm
  rw [recordPlace, node?_strayTree, if_neg hbad, if_neg hdraft]

theorem hasRoom_strayTree (uid : String) : HasRoom strayTree ["state"] uid := by
  have hfiles : ∀ name, IsPlain (strayTree.node? (["state"] ++ [name])) ∧
      strayTree.node? (["state"] ++ [name]) ≠ some .directory := by
    intro name
    rw [node?_strayTree]
    split_ifs <;> exact ⟨⟨nofun, nofun⟩, nofun⟩
  exact ⟨(hfiles _).1, (hfiles _).2, (hfiles _).2⟩

theorem isEmptyStore_strayTree :
    (⟨"/state"⟩ : Store).IsEmptyStore strayTree ["state"] tradingRecords where
  directory :=
    { place_eq := by rfl
      node_eq := by rfl
      isFileName := by
        have hnames : strayTree.namesIn ["state"] = ["bad.json", "abc.json.tmp"] := rfl
        rw [hnames, List.forall_mem_cons, List.forall_mem_singleton]
        exact ⟨⟨by decide, by decide, by decide, by decide, by decide⟩,
          ⟨by decide, by decide, by decide, by decide, by decide⟩⟩ }
  no_record name hname := by
    rw [recordAt, node?_strayTree]
    split_ifs with hbad hdraft
    · exact Record.ofBytes?_nil
    · rw [hdraft] at hname
      exact absurd hname (by decide)
    · rfl
  no_file := by
    have hbad : ∀ record ∈ tradingRecords, record.uid ≠ "bad" := by decide
    exact fun record hmem _ ↦ node?_recordPlace_strayTree (hbad record hmem)
  hasRoom record _ _ := hasRoom_strayTree record.uid

/-- Only the id goes before a name, and only the last name of a machine counts. -/
theorem refinesMap_tradingRecords :
    (((⟨"/state"⟩ : Store).load "web").attempt.run FileTree.answer
      ((⟨"/state"⟩ : Store).saveAll tradingRecords strayTree)).1 =
        some (.ok (Sample.record "web" "old")) ∧
    (((⟨"/state"⟩ : Store).load "new").attempt.run FileTree.answer
      ((⟨"/state"⟩ : Store).saveAll tradingRecords strayTree)).1 =
        some (.ok (Sample.record "abc" "new")) := by
  obtain ⟨-, hmap⟩ := refinesMap_saveAll isEmptyStore_strayTree
  have hweb : lastSaved tradingRecords "web" = some (Sample.record "web" "old") := by rfl
  have hnew : lastSaved tradingRecords "new" = none := by rfl
  have hnames : ∀ record ∈ tradingRecords, record.name = "new" →
      record = Sample.record "abc" "new" := by
    intro record hmem hname
    simp only [tradingRecords, List.mem_cons, List.not_mem_nil, or_false] at hmem
    obtain rfl | rfl | rfl | rfl := hmem
    exacts [absurd hname (by decide), absurd hname (by decide), absurd hname (by decide), rfl]
  have hunique (other : Record) : lastSaved tradingRecords other.uid = some other ∧
      other.name = "new" ↔ other = Sample.record "abc" "new" := by
    constructor
    · rintro ⟨hlast, hname⟩
      exact hnames other (uid_of_lastSaved hlast).2.2 hname
    · rintro rfl
      exact ⟨rfl, rfl⟩
  constructor
  · obtain ⟨_, -, hrun, rfl⟩ :=
      (hmap.load_saved "web" _ hweb).exists_run FileTree.conduct_answer
    exact hrun
  · obtain ⟨_, -, hrun, rfl⟩ :=
      (hmap.load_unique "new" (Sample.record "abc" "new") hnew
        (node?_recordPlace_strayTree (by decide)) hunique).exists_run FileTree.conduct_answer
    exact hrun

end MicroVm.Machine.Store

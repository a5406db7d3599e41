import MicroVm.Proofs.Machine.StoreRequests
import MicroVm.Proofs.Rehearsal.Directory
import MicroVm.Proofs.Rehearsal.FileConduct

/-!
# What the readers of the store find

A store lies in a directory of a file tree. What its readers find there depends on the files with
the names of records only, and on the order of a listing as far as several records have one name.
-/

namespace MicroVm.Machine

open MicroVm.Host MicroVm.Rehearsal

/-! ## The names of records and drafts -/

section Names

variable {uid other : String}

theorem isUid_iff : IsUid uid ↔ uid ≠ "" ∧ uid.utf8ByteSize ≤ maxUidLength ∧
    uid.toList.head? ≠ some '-' ∧ ∀ c ∈ uid.toList, isUidChar c = true := by
  rw [IsUid, checkUid]
  split
  next hempty => simpa using fun hne ↦ absurd (String.isEmpty_iff.1 hempty) hne
  next hempty =>
    have hne : uid ≠ "" := fun heq ↦ hempty (String.isEmpty_iff.2 heq)
    split
    next hlong => simp [Nat.not_le.2 hlong]
    next hshort =>
      have hlength := Nat.not_lt.1 hshort
      split
      next hdash => simp [hdash]
      next hdash =>
        split
        next hall => simpa [hne, hlength, hdash] using hall
        next hall => simpa [hne, hlength, hdash] using hall

/-- An id with an ending that has a point is the name of a file. -/
theorem IsUid.isFileName_append (h : IsUid uid) {ending : String} (hslash : '/' ∉ ending.toList)
    (hending : 2 < ending.toList.length) (hlength : ending.utf8ByteSize ≤ 191) :
    IsFileName (uid ++ ending) := by
  obtain ⟨-, hsize, -, hchars⟩ := isUid_iff.1 h
  have hlong : 2 < (uid ++ ending).toList.length := by
    rw [String.toList_append, List.length_append]
    omega
  refine ⟨?_, ?_, ?_, ?_, ?_⟩
  · rw [String.toList_append, List.mem_append]
    rintro (hmem | hmem)
    · exact absurd (hchars '/' hmem) (by decide)
    · exact hslash hmem
  · intro heq
    rw [heq] at hlong
    exact absurd hlong (by decide)
  · intro heq
    rw [heq] at hlong
    exact absurd hlong (by decide)
  · intro heq
    rw [heq] at hlong
    exact absurd hlong (by decide)
  · rw [String.utf8ByteSize_append]
    change _ ≤ 255
    change _ ≤ 64 at hsize
    omega

theorem isFileName_recordName (h : IsUid uid) : IsFileName (Store.recordName uid) :=
  h.isFileName_append (by decide) (by decide) (by decide)

theorem isFileName_draftName (h : IsUid uid) : IsFileName (Store.draftName uid) :=
  h.isFileName_append (by decide) (by decide) (by decide)

/-- The file of a record is taken for one. -/
theorem isRecordName_recordName (h : IsUid uid) :
    Store.isRecordName (Store.recordName uid) = true := by
  obtain ⟨hne, -⟩ := isUid_iff.1 h
  have hlength : uid.toList ≠ [] := by simpa using hne
  have hsuffix : ".json".toList.isSuffixOf (uid.toList ++ ".json".toList) = true :=
    List.isSuffixOf_iff_suffix.2 (List.suffix_append _ _)
  rw [Store.isRecordName, Store.recordName, String.toList_append, hsuffix, Bool.true_and,
    decide_eq_true_eq, List.length_append]
  have hpos := List.length_pos_iff.2 hlength
  omega

/-- The name of a draft has another ending than those of records. -/
theorem draftName_ne_append (uid front : String) : Store.draftName uid ≠ front ++ ".json" := by
  intro heq
  have hlast := congrArg (fun name ↦ name.toList.getLast?) heq
  simp [Store.draftName, String.toList_append] at hlast

/-- A draft is never taken for a record. -/
theorem isRecordName_draftName (uid : String) :
    Store.isRecordName (Store.draftName uid) = false := by
  rw [Bool.eq_false_iff]
  intro hrecord
  rw [Store.isRecordName, Bool.and_eq_true] at hrecord
  obtain ⟨front, hfront⟩ := List.isSuffixOf_iff_suffix.1 hrecord.1
  refine draftName_ne_append uid (String.ofList front) ?_
  rw [← String.toList_inj, String.toList_append, String.toList_ofList, hfront]

/-- No draft is named like a record. -/
theorem draftName_ne_recordName (uid other : String) :
    Store.draftName uid ≠ Store.recordName other := draftName_ne_append uid other

theorem recordName_inj : Store.recordName uid = Store.recordName other ↔ uid = other := by
  simp [Store.recordName]

theorem draftName_inj : Store.draftName uid = Store.draftName other ↔ uid = other := by
  simp [Store.draftName]

end Names

namespace Store

variable {store : Store} {tree : FileTree} {place : List String} {past : History Files}
  {uid name : String}

/-! ## The records in a directory -/

/-- The record that a node holds. -/
def recordOf? : FileNode → Option Record
  | .file content zeros _ => Record.ofBytes? (content ++ List.replicate zeros 0)
  | _ => none

/-- The record in the file of a name below a place. -/
def recordAt (tree : FileTree) (place : List String) (name : String) : Option Record :=
  tree.node? (place ++ [name]) >>= recordOf?

/-- The records in the files of some names, without those that are not named like records. -/
def recordsNamed (tree : FileTree) (place names : List String) : List Record :=
  (names.filter isRecordName).filterMap (recordAt tree place)

/-- The records in the files below a place. -/
def recordsIn (tree : FileTree) (place : List String) : List Record :=
  recordsNamed tree place (tree.namesIn place)

theorem recordsNamed_cons (tree : FileTree) (place : List String) (name : String)
    (names : List String) :
    recordsNamed tree place (name :: names) =
      (if isRecordName name then (recordAt tree place name).toList else []) ++
        recordsNamed tree place names := by
  rw [recordsNamed, List.filter_cons]
  split
  next =>
    rw [List.filterMap_cons]
    cases recordAt tree place name <;> rfl
  next => rfl

/-- The records in a directory are those of its files with a record's name. -/
theorem mem_recordsIn_iff {record : Record} : record ∈ recordsIn tree place ↔
    ∃ name, isRecordName name = true ∧ recordAt tree place name = some record := by
  simp only [recordsIn, recordsNamed, List.mem_filterMap, List.mem_filter]
  constructor
  · rintro ⟨name, ⟨-, hrecord⟩, hat⟩
    exact ⟨name, hrecord, hat⟩
  · rintro ⟨name, hrecord, hat⟩
    obtain ⟨node, hnode, -⟩ := Option.bind_eq_some_iff.1 hat
    exact ⟨name, ⟨FileTree.mem_namesIn_iff.2 ⟨node, hnode⟩, hrecord⟩, hat⟩

theorem foundRecord?_read (h : tree.HoldsDirectory store.directory place)
    (hname : IsFileName name) :
    foundRecord? (tree.read (joinPath store.directory name)) = recordAt tree place name := by
  have hnothing : foundRecord? (.ok []) = none := Record.ofBytes?_nil
  rw [h.read_joinPath hname, recordAt]
  cases tree.node? (place ++ [name]) with
  | none => rfl
  | some node =>
    cases node with
    | directory => rfl
    | file content zeros mode => rfl
    | pipe => exact hnothing
    | socket => exact hnothing

/-! ## The readers -/

/-- Loading by an identifier gives what reading its file gives, and changes nothing. -/
theorem ensures_loadByUid (huid : IsUid uid) :
    (store.loadByUid uid).attempt.Ensures FileTree.conduct past tree fun result _ after ↦
      after = tree ∧ result = readResult uid (tree.read (store.recordPath uid)) := by
  rw [attempt_loadByUid huid]
  refine Program.ensures_ask fun answer middle hstep ↦ Program.ensures_done ?_
  obtain ⟨rfl, rfl⟩ := FileTree.conduct_readFile_iff.1 hstep
  exact ⟨rfl, rfl⟩

/-- Reading all files of a directory gives the records in them, and changes nothing. -/
theorem ensures_readAll (h : tree.HoldsDirectory store.directory place) {names : List String}
    (hnames : ∀ name ∈ names, IsFileName name) :
    (store.readAll names).Ensures FileTree.conduct past tree fun records _ after ↦
      after = tree ∧ records = recordsNamed tree place names := by
  induction names generalizing past with
  | nil => exact Program.ensures_done ⟨rfl, rfl⟩
  | cons name names ih =>
    obtain ⟨hname, hrest⟩ := List.forall_mem_cons.1 hnames
    rw [readAll_cons]
    split
    next hrecord =>
      refine Program.ensures_ask fun answer middle hstep ↦ ?_
      obtain ⟨rfl, rfl⟩ := FileTree.conduct_readFile_iff.1 hstep
      refine Program.ensures_bind ((ih hrest).mono ?_)
      rintro records past after ⟨rfl, rfl⟩
      refine Program.ensures_done ⟨rfl, ?_⟩
      rw [recordsNamed_cons, if_pos hrecord, foundRecord?_read h hname]
    next hother =>
      refine (ih hrest).mono ?_
      rintro records past after ⟨rfl, rfl⟩
      refine ⟨rfl, ?_⟩
      rw [recordsNamed_cons, if_neg hother, List.nil_append]

/-- A listing gives the records below its directory in some order. -/
theorem ensures_list (h : tree.HoldsDirectory store.directory place) :
    store.list.attempt.Ensures FileTree.conduct past tree fun result _ after ↦
      after = tree ∧ ∃ records, result = .ok records ∧ records.Perm (recordsIn tree place) := by
  rw [list]
  refine Task.ensures_liftM_bind (Program.ensures_perform fun answer middle hstep ↦ ?_)
  obtain ⟨rfl, rfl⟩ := FileTree.conduct_fileExists_iff.1 hstep
  rw [if_pos h.exists?_directory]
  refine Task.ensures_bind (Task.ensures_within (Program.ensures_ask fun answer after hstep ↦ ?_))
  obtain ⟨rfl, names, rfl, hperm⟩ := FileTree.conduct_listDirectory h.list_directory hstep
  refine Program.ensures_done ?_
  have hnames : ∀ name ∈ names, IsFileName name := fun name hmem ↦
    h.isFileName name (hperm.mem_iff.1 hmem)
  change (Task.attempt (liftM (store.readAll names))).Ensures _ _ _ _
  rw [Task.attempt_liftM]
  refine Program.ensures_bind ((ensures_readAll h hnames).mono ?_)
  rintro records past after ⟨rfl, rfl⟩
  exact Program.ensures_done ⟨rfl, _, rfl, (hperm.filter _).filterMap _⟩

/-- Whether a load by name may end like this when some records are listed in any order. -/
def IsResultByName (records : List Record) (name : String) (result : Except Failure Record) :
    Prop :=
  (∃ record ∈ records, record.name = name ∧ result = .ok record) ∨
    (∀ record ∈ records, record.name ≠ name) ∧
      result = .error (.cause (.unknownMachine name))

/-- Loading by a name gives what the records of the directory say, and changes nothing. -/
theorem ensures_loadByName (h : tree.HoldsDirectory store.directory place) (name : String) :
    (store.loadByName name).attempt.Ensures FileTree.conduct past tree fun result _ after ↦
      after = tree ∧ IsResultByName (recordsIn tree place) name result := by
  rw [loadByName]
  refine Task.ensures_bind ((ensures_list h).mono ?_)
  rintro result past after ⟨rfl, records, rfl, hperm⟩
  dsimp only
  cases hfind : records.find? fun record ↦ record.name == name with
  | some record =>
    have hmem := List.mem_of_find?_eq_some hfind
    have hname := List.find?_some hfind
    exact Program.ensures_done
      ⟨rfl, .inl ⟨record, hperm.mem_iff.1 hmem, beq_iff_eq.1 hname, rfl⟩⟩
  | none =>
    have hnone := List.find?_eq_none.1 hfind
    refine Program.ensures_done ⟨rfl, .inr ⟨fun record hmem hname ↦ ?_, rfl⟩⟩
    exact hnone record (hperm.mem_iff.2 hmem) (beq_iff_eq.2 hname)

/-- There is a record for an identifier if it is valid and has a file. -/
theorem ensures_hasRecord (h : tree.HoldsDirectory store.directory place) (id : String) :
    (store.hasRecord id).Ensures FileTree.conduct past tree fun found _ after ↦
      after = tree ∧
        (found = true ↔ IsUid id ∧ (tree.node? (place ++ [recordName id])).isSome = true) := by
  rw [hasRecord]
  split
  next hcheck =>
    have huid : IsUid id := hcheck
    refine Program.ensures_perform fun answer middle hstep ↦ ?_
    obtain ⟨rfl, rfl⟩ := FileTree.conduct_fileExists_iff.1 hstep
    rw [recordPath, h.exists?_joinPath (isFileName_recordName huid)]
    exact ⟨rfl, (and_iff_right huid).symm⟩
  next hcheck =>
    have huid : ¬ IsUid id := fun huid ↦ absurd (huid.symm.trans hcheck) nofun
    exact Program.ensures_done ⟨rfl, by simp [huid]⟩

/-- A load goes by the id when there is a file for it. -/
theorem ensures_load_of_record (h : tree.HoldsDirectory store.directory place) (huid : IsUid uid)
    (hnode : (tree.node? (place ++ [recordName uid])).isSome = true) :
    (store.load uid).attempt.Ensures FileTree.conduct past tree fun result _ after ↦
      after = tree ∧ result = readResult uid (tree.read (store.recordPath uid)) := by
  rw [load]
  refine Task.ensures_liftM_bind ((ensures_hasRecord h uid).mono ?_)
  rintro found past after ⟨rfl, hfound⟩
  rw [if_pos (hfound.2 ⟨huid, hnode⟩)]
  exact ensures_loadByUid huid

/-- A load goes by the name when there is no file for the id. -/
theorem ensures_load_of_no_record (h : tree.HoldsDirectory store.directory place) {id : String}
    (hnode : ¬ (IsUid id ∧ (tree.node? (place ++ [recordName id])).isSome = true)) :
    (store.load id).attempt.Ensures FileTree.conduct past tree fun result _ after ↦
      after = tree ∧ ∃ inner, IsResultByName (recordsIn tree place) id inner ∧
        result = inner.mapError (.within (.lookingUp id)) := by
  rw [load]
  refine Task.ensures_liftM_bind ((ensures_hasRecord h id).mono ?_)
  rintro found past after ⟨rfl, hfound⟩
  rw [if_neg (mt hfound.1 hnode)]
  refine Task.ensures_within ((ensures_loadByName h id).mono ?_)
  rintro inner past after ⟨rfl, hinner⟩
  exact ⟨rfl, inner, hinner, rfl⟩

end Store

end MicroVm.Machine

import MicroVm.Proofs.Machine.StoreReaders

/-!
# Where the store reaches

Every text can be asked for as an id, and the id inside a record that is saved can be any text as
well. Whatever it is, the store touches nothing but entries of its own directory: the record and the
draft of an id that is a plain word, and the records that a listing has named. A text that is no id
never becomes part of a path; it can only be the name in a record.
-/

namespace MicroVm.Machine

open MicroVm.Host MicroVm.Rehearsal

/-! ## Paths -/

/-- The paths that a request is about. -/
def requestPaths : FileRequest → List String
  | .rename source target => [source, target]
  | .createDirectories path | .fileExists path | .isBlockDevice path | .readFile path
  | .writeFile path _ | .setMode path _ | .removeFile path | .listDirectory path | .openFile path
  | .fileLength path | .resizeFile path _ | .createPipe path | .lockFile path | .unlockFile path =>
    [path]

/-- Whether a path is that of a name in a directory. It leads right below the directory if a file
can have the name. -/
structure IsEntry (directory name path : String) : Prop where
  path_eq : path = joinPath directory name
  parts_eq : IsFileName name → pathParts path = pathParts directory ++ [name]

theorem isEntry_joinPath (directory name : String) :
    IsEntry directory name (joinPath directory name) :=
  ⟨rfl, pathParts_joinPath directory⟩

/-- The path with another ending in place of what follows the last point of its last part. A part
with nothing before its only point has no ending. -/
def withEnding (path ending : String) : String :=
  let back := path.toList.reverse
  let part := back.takeWhile (· ≠ '/')
  let stem := (part.dropWhile (· ≠ '.')).tail
  let kept := if stem = [] then part else stem
  String.ofList ((back.dropWhile (· ≠ '/')).reverse ++ kept.reverse) ++ "." ++ ending

section Endings

variable {front stem ending : List Char}

/-- The ending of a path whose last part has a point between a stem and an ending. -/
theorem withEnding_eq (hfront : ∀ d ∈ front.getLast?, d = '/') (hstem : '/' ∉ stem)
    (hne : stem ≠ []) (hslash : '/' ∉ ending) (hpoint : '.' ∉ ending) (other : String) :
    withEnding (String.ofList (front ++ stem ++ '.' :: ending)) other =
      String.ofList (front ++ stem) ++ "." ++ other := by
  have hback : (front ++ stem ++ '.' :: ending).reverse =
      (ending.reverse ++ '.' :: stem.reverse) ++ front.reverse := by
    simp
  have hpart : ∀ d ∈ ending.reverse ++ '.' :: stem.reverse, decide (d ≠ '/') = true := by
    simp only [List.mem_append, List.mem_cons, List.mem_reverse, decide_eq_true_eq]
    rintro d (hd | rfl | hd) heq
    · exact hslash (heq ▸ hd)
    · exact absurd heq (by decide)
    · exact hstem (heq ▸ hd)
  have hstop : ∀ d ∈ front.reverse.head?, decide (d ≠ '/') = false := by
    intro d hd
    rw [List.head?_reverse] at hd
    simp [hfront d hd]
  have hname : ∀ d ∈ ending.reverse, decide (d ≠ '.') = true := by
    simp only [List.mem_reverse, decide_eq_true_eq]
    exact fun d hd heq ↦ hpoint (heq ▸ hd)
  rw [withEnding, String.toList_ofList, hback]
  simp only [Text.takeWhile_append_of_stop hpart hstop, Text.dropWhile_append_of_stop hpart hstop]
  rw [Text.dropWhile_append_of_stop hname (by simp), List.tail_cons,
    if_neg (List.reverse_ne_nil_iff.2 hne), List.reverse_reverse, List.reverse_reverse]

end Endings

/-- A relative path is put behind what the path of its directory comes to. -/
theorem exists_joinPath_eq (directory : String) : ∃ front : List Char,
    (∀ d ∈ front.getLast?, d = '/') ∧ ∀ name : String, name.toList.head? ≠ some '/' →
      joinPath directory name = String.ofList (front ++ name.toList) := by
  by_cases hends : directory.toList.getLast? = some '/' ∨ directory = ""
  · refine ⟨directory.toList, ?_, fun name hname ↦ ?_⟩
    · obtain hslash | rfl := hends
      · simp [hslash]
      · exact nofun
    · rw [joinPath, if_neg hname, if_pos hends, ← String.toList_inj, String.toList_append,
        String.toList_ofList]
  · refine ⟨directory.toList ++ ['/'], by simp, fun name hname ↦ ?_⟩
    rw [joinPath, if_neg hname, if_neg hends, ← String.toList_inj]
    simp

/-- An id has no point and no slash. -/
theorem IsUid.notMem {uid : String} (h : IsUid uid) {c : Char} (hc : isUidChar c = false) :
    c ∉ uid.toList := by
  obtain ⟨-, -, -, hchars⟩ := isUid_iff.1 h
  intro hmem
  rw [hchars c hmem] at hc
  cases hc

/-- The draft of a record has another ending in place of that of the record. -/
theorem withEnding_recordPath (store : Store) {uid : String} (h : IsUid uid) :
    withEnding (store.recordPath uid) "json.tmp" = store.draftPath uid := by
  obtain ⟨front, hfront, hjoin⟩ := exists_joinPath_eq store.directory
  obtain ⟨hne, -⟩ := isUid_iff.1 h
  have hrelative {ending : String} : (uid ++ ending).toList.head? ≠ some '/' := by
    obtain ⟨c, rest, huid⟩ := List.exists_cons_of_ne_nil (mt String.toList_eq_nil_iff.1 hne)
    rw [String.toList_append, huid, List.cons_append, List.head?_cons]
    rintro ⟨⟩
    exact h.notMem (c := '/') rfl (huid ▸ List.mem_cons_self)
  calc withEnding (store.recordPath uid) "json.tmp"
      = withEnding (String.ofList (front ++ uid.toList ++ '.' :: "json".toList)) "json.tmp" := by
        rw [Store.recordPath, Store.recordName, hjoin _ hrelative, String.toList_append,
          ← List.append_assoc]
        rfl
    _ = String.ofList (front ++ uid.toList) ++ "." ++ "json.tmp" :=
        withEnding_eq hfront (h.notMem rfl) (mt String.toList_eq_nil_iff.1 hne) (by decide)
          (by decide) _
    _ = store.draftPath uid := by
        rw [Store.draftPath, Store.draftName, hjoin _ hrelative, ← String.toList_inj]
        simp only [String.toList_append, String.toList_ofList, List.append_assoc]
        rfl

/-! ## What the store may touch -/

namespace Store

variable {store : Store} {uid name : String} {record : Record} {past : History Files}
  {request : FileRequest}

/-- The names in the directory of a store that may be touched for the sake of a text: those of its
record and its draft if the text is an id, and those of records that have been listed. -/
inductive MayTouch (store : Store) (text : String) (past : History Files) : String → Prop
  | record (isUid : IsUid text) : MayTouch store text past (recordName text)
  | draft (isUid : IsUid text) : MayTouch store text past (draftName text)
  | listed {names : List String} {name : String}
      (listing : (⟨.listDirectory store.directory, .ok names⟩ : Event Files) ∈ past)
      (mem : name ∈ names) (isRecordName : isRecordName name = true) : MayTouch store text past name

/-- Whether a request stays within the directory of a store: it looks for the directory or lists it,
or it is about entries of the directory that may be touched for the sake of a text. -/
inductive Confined (store : Store) (text : String) : Program.RequestKind Files
  | looksForDirectory (past : History Files) :
      Confined store text past (.fileExists store.directory)
  | lists (past : History Files) : Confined store text past (.listDirectory store.directory)
  | entries {past : History Files} {request : FileRequest}
      (inside : ∀ path ∈ requestPaths request, ∃ name, MayTouch store text past name ∧
        IsEntry store.directory name path) : Confined store text past request

/-- A request about one entry that may be touched is confined. -/
theorem MayTouch.confined (htouch : store.MayTouch uid past name)
    (hpaths : requestPaths request = [joinPath store.directory name]) :
    store.Confined uid past request := by
  refine .entries fun path hpath ↦ ?_
  rw [hpaths] at hpath
  obtain rfl := List.mem_singleton.1 hpath
  exact ⟨name, htouch, isEntry_joinPath _ name⟩

/-! ## Programs of the store -/

/-- What a save asks for is confined. -/
theorem IsSaveRequest.confined (huid : IsUid record.uid)
    (hrequest : IsSaveRequest store record request) : store.Confined record.uid past request := by
  cases hrequest with
  | write => exact MayTouch.confined (.draft huid) rfl
  | restrict => exact MayTouch.confined (.draft huid) rfl
  | place =>
    refine .entries fun path hpath ↦ ?_
    obtain rfl | hpath := List.mem_cons.1 hpath
    · exact ⟨_, .draft huid, isEntry_joinPath _ _⟩
    · obtain rfl := List.mem_singleton.1 hpath
      exact ⟨_, .record huid, isEntry_joinPath _ _⟩

/-- A save asks only for what belongs to its record. -/
theorem save_asks_confined (store : Store) (record : Record) (past : History Files) :
    (store.save record).attempt.Asks (store.Confined record.uid) past fun _ _ ↦ True := by
  by_cases huid : IsUid record.uid
  · exact (asks_save store huid past).weaken fun _ _ hrequest ↦ IsSaveRequest.confined huid hrequest
  · obtain ⟨fault, -, hrefused⟩ := attempt_save_of_not_isUid store huid
    rw [hrefused]
    exact .done trivial

/-- A load by id asks only for what belongs to that id. -/
theorem loadByUid_asks_confined (store : Store) (uid : String) (past : History Files) :
    (store.loadByUid uid).attempt.Asks (store.Confined uid) past fun _ _ ↦ True := by
  by_cases huid : IsUid uid
  · rw [attempt_loadByUid huid]
    exact .ask (MayTouch.confined (.record huid) rfl) fun _ ↦ .done trivial
  · obtain ⟨fault, hrefused⟩ := attempt_loadByUid_of_not_isUid store huid
    rw [hrefused]
    exact .done trivial

/-- Reading goes through the names of a listing. -/
theorem readAll_asks_confined {names listed : List String} (hsub : names ⊆ listed)
    (hlisted : (⟨.listDirectory store.directory, .ok listed⟩ : Event Files) ∈ past) :
    (store.readAll names).Asks (store.Confined uid) past fun _ _ ↦ True := by
  induction names generalizing past with
  | nil => exact .done trivial
  | cons name names ih =>
    obtain ⟨hname, hrest⟩ := List.cons_subset.1 hsub
    rw [readAll_cons]
    split
    next hrecord =>
      refine .ask (MayTouch.confined (.listed hlisted hname hrecord) rfl) fun found ↦ ?_
      refine Program.asks_bind ((ih hrest (List.mem_append_left _ hlisted)).mono ?_)
      exact fun _ _ _ ↦ .done trivial
    next => exact ih hrest hlisted

theorem list_asks_confined (store : Store) (text : String) (past : History Files) :
    store.list.attempt.Asks (store.Confined text) past fun _ _ ↦ True := by
  rw [list]
  refine Task.asks_liftM_bind (Program.asks_perform (.looksForDirectory past) fun found ↦ ?_)
  split
  · refine Task.asks_bind (Task.asks_within (.ask (.lists _) fun answer ↦ ?_))
    cases answer with
    | error error => exact .done trivial
    | ok names =>
      refine .done ?_
      change (Task.attempt (liftM (store.readAll names))).Asks _ _ _
      rw [Task.attempt_liftM]
      refine Program.asks_bind ((readAll_asks_confined (List.Subset.refl names) ?_).mono ?_)
      · exact List.mem_append_right _ (List.mem_singleton_self _)
      · exact fun _ _ _ ↦ .done trivial
  · exact .done trivial

/-- The record of a name among those that were listed. -/
def pick (name : String) (records : List Record) : Except Failure Record :=
  match records.find? fun record ↦ record.name == name with
  | some record => .ok record
  | none => .error (.cause (.unknownMachine name))

/-- A load by name asks for a listing, whatever the name is, and looks at the names in it. -/
theorem attempt_loadByName (store : Store) (name : String) :
    (store.loadByName name).attempt =
      store.list.attempt.bind fun listed ↦ .done (listed.bind (pick name)) := by
  rw [loadByName, Task.attempt_bind]
  congr 1
  funext listed
  cases listed with
  | error failure => rfl
  | ok records =>
    change _ = Program.done (pick name records)
    rw [pick]
    dsimp only
    cases records.find? fun record ↦ record.name == name <;> rfl

theorem loadByName_asks_confined (store : Store) (name text : String) (past : History Files) :
    (store.loadByName name).attempt.Asks (store.Confined text) past fun _ _ ↦ True := by
  rw [attempt_loadByName]
  exact Program.asks_bind ((list_asks_confined store text past).mono fun _ _ _ ↦ .done trivial)

/-- A text that is no id is only looked up as a name. -/
theorem load_of_not_isUid (store : Store) {id : String} (h : ¬ IsUid id) :
    (store.load id).attempt = (Task.within (.lookingUp id) (store.loadByName id)).attempt := by
  cases hcheck : checkUid id with
  | ok value => exact absurd hcheck h
  | error fault =>
    have hnone : store.hasRecord id = .done false := by
      rw [hasRecord, hcheck]
      rfl
    rw [load, hnone]
    rfl

theorem load_asks_confined (store : Store) (id : String) (past : History Files) :
    (store.load id).attempt.Asks (store.Confined id) past fun _ _ ↦ True := by
  have hbyName (past : History Files) :
      (Task.within (.lookingUp id) (store.loadByName id)).attempt.Asks (store.Confined id) past
        fun _ _ ↦ True :=
    Task.asks_within (loadByName_asks_confined store id id past)
  by_cases huid : IsUid id
  · have hlook : store.hasRecord id = Files.exists? (store.recordPath id) := by
      rw [hasRecord, show checkUid id = .ok () from huid]
    rw [load, hlook]
    refine Task.asks_liftM_bind
      (Program.asks_perform (MayTouch.confined (.record huid) rfl) fun found ↦ ?_)
    split
    · exact loadByUid_asks_confined store id _
    · exact hbyName _
  · rw [load_of_not_isUid store huid]
    exact hbyName past

/-! ## Confinement -/

/-- Whether a store keeps to its directory. -/
structure KeepsToDirectory (store : Store) : Prop where
  load : ∀ id past, (store.load id).attempt.Asks (store.Confined id) past fun _ _ ↦ True
  loadByUid : ∀ uid past, (store.loadByUid uid).attempt.Asks (store.Confined uid) past
    fun _ _ ↦ True
  /-- The name plays no part in what is touched, nor does any other text. -/
  loadByName : ∀ name text past, (store.loadByName name).attempt.Asks (store.Confined text) past
    fun _ _ ↦ True
  save : ∀ record past, (store.save record).attempt.Asks (store.Confined record.uid) past
    fun _ _ ↦ True
  /-- Nothing is asked for what is no id. -/
  loadByUid_refused : ∀ uid, ¬ IsUid uid → ∃ fault,
    (store.loadByUid uid).attempt = .done (.error (.cause (.badUid fault)))
  save_refused : ∀ record : Record, ¬ IsUid record.uid → ∃ fault,
    (store.save record).attempt = .done (.error (.cause (.badUid fault)))
  load_refused : ∀ id, ¬ IsUid id →
    (store.load id).attempt = (Task.within (.lookingUp id) (store.loadByName id)).attempt
  names_compared : ∀ name, (store.loadByName name).attempt =
    store.list.attempt.bind fun listed ↦ .done (listed.bind (pick name))
  /-- The files of an id lie right in the directory. -/
  isFileName : ∀ uid, IsUid uid → IsFileName (recordName uid) ∧ IsFileName (draftName uid)
  draftPath_eq : ∀ uid, IsUid uid →
    withEnding (store.recordPath uid) "json.tmp" = store.draftPath uid
  recordName_injective : ∀ uid other, recordName uid = recordName other → uid = other
  draftName_injective : ∀ uid other, draftName uid = draftName other → uid = other
  draftName_ne : ∀ uid other, draftName uid ≠ recordName other

/-- Whatever text is taken for an id, the store keeps to its directory. -/
theorem keepsToDirectory (store : Store) : store.KeepsToDirectory where
  load := load_asks_confined store
  loadByUid := loadByUid_asks_confined store
  loadByName := loadByName_asks_confined store
  save := save_asks_confined store
  loadByUid_refused := fun _ h ↦ attempt_loadByUid_of_not_isUid store h
  save_refused := fun _ h ↦
    (attempt_save_of_not_isUid store h).imp fun _ hrefused ↦ hrefused.2
  load_refused := fun _ h ↦ load_of_not_isUid store h
  names_compared := attempt_loadByName store
  isFileName := fun _ h ↦ ⟨isFileName_recordName h, isFileName_draftName h⟩
  draftPath_eq := fun _ h ↦ withEnding_recordPath store h
  recordName_injective := fun _ _ ↦ recordName_inj.1
  draftName_injective := fun _ _ ↦ draftName_inj.1
  draftName_ne := draftName_ne_recordName

end Store

end MicroVm.Machine

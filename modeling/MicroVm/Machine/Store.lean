import MicroVm.Host.Files
import MicroVm.Layout
import MicroVm.Machine.Record

/-!
# The record store

Records lie in one directory, each in a file named after the id of its machine. A record is saved
by writing it beside its place, restricting it to its owner and moving it there, so that a reader
sees the former record or the new one and nothing between. Only an id that is a plain word becomes
part of a path.
-/

namespace MicroVm.Machine

open MicroVm.Host

structure Store where
  directory : String
  deriving DecidableEq, Repr

namespace Store

/-- The permission bits of a record: its owner may read and write it. -/
def recordMode : Nat := 0o600

def recordName (uid : String) : String := uid ++ ".json"

/-- The name of the file that a record is written to before it is moved to its place. -/
def draftName (uid : String) : String := uid ++ ".json.tmp"

def recordPath (store : Store) (uid : String) : String :=
  joinPath store.directory (recordName uid)

def draftPath (store : Store) (uid : String) : String := joinPath store.directory (draftName uid)

def requireUid (uid : String) : Task Files Unit :=
  match checkUid uid with
  | .ok () => pure ()
  | .error fault => Task.fail (.badUid fault)

def create (store : Store) : Task Files Unit :=
  Task.within .creatingStateDirectory (Files.createDirectories store.directory)

/-- Saves a record in the place of the former one. -/
def save (store : Store) (record : Record) : Task Files Unit := do
  requireUid record.uid
  let draft := store.draftPath record.uid
  Task.within .writingRecord (Files.write draft (Text.bytesOfText record.text))
  Task.within .restrictingRecord (Files.setMode draft recordMode)
  Task.within .placingRecord (Files.rename draft (store.recordPath record.uid))

def loadByUid (store : Store) (uid : String) : Task Files Record := do
  requireUid uid
  let text ← Task.within (.readingRecord uid) (Files.readText (store.recordPath uid))
  match Record.parse? text with
  | some record => return record
  | none => Task.within .parsingRecord (Task.fail .malformedJson)

/-- Whether a file name is that of a record: it ends in `.json` and has something before that. -/
def isRecordName (name : String) : Bool :=
  ".json".toList.isSuffixOf name.toList && ".json".toList.length < name.toList.length

/-- The records among the named files. A file that cannot be read is passed over. -/
def readAll (store : Store) : List String → Program Files (List Record)
  | [] => return []
  | name :: names => do
    if isRecordName name then
      match ← (Files.readText (joinPath store.directory name)).attempt with
      | .ok text =>
        match Record.parse? text with
        | some record => return record :: (← readAll store names)
        | none => readAll store names
      | .error _ => readAll store names
    else readAll store names

/-- All records, none when there is no directory. -/
def list (store : Store) : Task Files (List Record) := do
  if ← Files.exists? store.directory then
    let names ← Task.within .readingStateDirectory (Files.list store.directory)
    store.readAll names
  else return []

def loadByName (store : Store) (name : String) : Task Files Record := do
  match (← store.list).find? fun record ↦ record.name == name with
  | some record => return record
  | none => Task.fail (.unknownMachine name)

/-- Whether there is a file for the record of an id. A text that is no id has none. -/
def hasRecord (store : Store) (id : String) : Program Files Bool :=
  match checkUid id with
  | .ok () => Files.exists? (store.recordPath id)
  | .error _ => return false

/-- The record of an id or, when there is none, of a name. -/
def load (store : Store) (id : String) : Task Files Record := do
  if ← store.hasRecord id then store.loadByUid id
  else Task.within (.lookingUp id) (store.loadByName id)

end Store

end MicroVm.Machine

import MicroVm.Host.Files
import MicroVm.Text.Split

/-!
# A file tree in memory

A tree holds directories, files, pipes and sockets at the paths they have. A path is walked part by
part, and each part but the last has to be a directory. The zeros at the end of a file are only
counted, so a file may be long.
-/

namespace MicroVm.Rehearsal

open MicroVm.Host

inductive FileNode
  | directory
  | file (content : List UInt8) (zeros : Nat) (mode : Nat)
  | pipe
  | socket
  deriving DecidableEq, Repr

structure FileTree where
  nodes : List (List String × FileNode) := []
  locks : List String := []

def newFileMode : Nat := 0o644

def newDirectoryMode : Nat := 0o755

def FileNode.empty : FileNode := .file [] 0 newFileMode

def FileNode.length? : FileNode → Option Nat
  | .file content zeros _ => some (content.length + zeros)
  | _ => none

/-- The permission bits of a node, none when it is neither a file nor a directory. -/
def FileNode.mode? : FileNode → Option Nat
  | .file _ _ mode => some mode
  | .directory => some newDirectoryMode
  | _ => none

/-- A file of a given length that begins with a content as far as that fits, and goes on with
zeros. -/
def FileNode.resized (content : List UInt8) (mode length : Nat) : FileNode :=
  .file (content.take length) (length - content.length) mode

def longestName : Nat := 255

def pathParts (path : String) : List String :=
  ((Text.splitOn '/' path.toList).map String.ofList).filter fun part ↦ part ≠ "" ∧ part ≠ "."

namespace FileTree

/-- What lies at a place. The root is always there. -/
def node? (tree : FileTree) (place : List String) : Option FileNode :=
  if place = [] then some .directory else tree.nodes.lookup place

def put (tree : FileTree) (place : List String) (node : FileNode) : FileTree :=
  { tree with nodes := (place, node) :: tree.nodes.filter fun entry ↦ entry.1 ≠ place }

def drop (tree : FileTree) (place : List String) : FileTree :=
  { tree with nodes := tree.nodes.filter fun entry ↦ entry.1 ≠ place }

def step (place : List String) (part : String) : List String :=
  if part = ".." then place.dropLast else place ++ [part]

/-- Walks from a place along parts. There need not be anything where the walk ends. -/
def walk (tree : FileTree) (place : List String) : List String → Except SystemError (List String)
  | [] => .ok place
  | part :: parts =>
    match tree.node? place with
    | none => .error .notFound
    | some .directory =>
      if longestName < part.utf8ByteSize then .error .nameTooLong
      else tree.walk (step place part) parts
    | some _ => .error .notDirectory

def place (tree : FileTree) (path : String) : Except SystemError (List String) :=
  tree.walk [] (pathParts path)

def find (tree : FileTree) (path : String) : Except SystemError FileNode := do
  match tree.node? (← tree.place path) with
  | some node => return node
  | none => .error .notFound

def isDirectory (tree : FileTree) (path : String) : Bool :=
  match tree.find path with
  | .ok .directory => true
  | _ => false

/-- Makes something at a path where there is nothing. -/
def create (tree : FileTree) (path : String) (node : FileNode) : Except SystemError FileTree := do
  let place ← tree.place path
  match tree.node? place with
  | none => return tree.put place node
  | some _ => .error .alreadyExists

/-- The path with all that are above it, the longest first. -/
def ancestry (path : String) : List String :=
  let parts := pathParts path
  (List.range parts.length).reverse.map fun n ↦ "/" ++ "/".intercalate (parts.take (n + 1))

/-- Makes a directory. One that is there will do. -/
def createDirectory (tree : FileTree) (path : String) : Except SystemError FileTree :=
  match tree.create path .directory with
  | .ok tree => .ok tree
  | .error error => if tree.isDirectory path then .ok tree else .error error

/-- Makes the first of some paths, each of which lies right below the next, and as many of the
others as that takes. -/
def createDirectoriesOf (tree : FileTree) : List String → Except SystemError FileTree
  | [] => .error .notFound
  | path :: above =>
    match tree.createDirectory path with
    | .ok tree => .ok tree
    | .error error =>
      if error = .notFound then do
        let tree ← tree.createDirectoriesOf above
        tree.createDirectory path
      else .error error

def createDirectories (tree : FileTree) (path : String) : Except SystemError FileTree :=
  if pathParts path = [] then .ok tree else tree.createDirectoriesOf (ancestry path)

def read (tree : FileTree) (path : String) : Except SystemError (List UInt8) := do
  match ← tree.find path with
  | .file content zeros _ => return content ++ List.replicate zeros 0
  | .directory => .error .isDirectory
  | _ => return []

/-- Gives the file at a path another form. A missing file counts as an empty new one. -/
def update (tree : FileTree) (path : String) (form : List UInt8 → Nat → Nat → FileNode) :
    Except SystemError FileTree := do
  let place ← tree.place path
  match tree.node? place with
  | none => return tree.put place (form [] 0 newFileMode)
  | some (.file content zeros mode) => return tree.put place (form content zeros mode)
  | some .directory => .error .isDirectory
  | some _ => return tree

def write (tree : FileTree) (path : String) (content : List UInt8) : Except SystemError FileTree :=
  tree.update path fun _ _ mode ↦ .file content 0 mode

def openFile (tree : FileTree) (path : String) : Except SystemError FileTree :=
  tree.update path .file

def resize (tree : FileTree) (path : String) (length : Nat) : Except SystemError FileTree :=
  tree.update path fun content _ mode ↦ .resized content mode length

def setMode (tree : FileTree) (path : String) (mode : Nat) : Except SystemError FileTree := do
  let _ ← tree.find path
  tree.update path fun content zeros _ ↦ .file content zeros mode

def remove (tree : FileTree) (path : String) : Except SystemError FileTree := do
  match ← tree.find path with
  | .directory => .error .isDirectory
  | _ => return tree.drop (← tree.place path)

def rename (tree : FileTree) (source target : String) : Except SystemError FileTree := do
  let node ← tree.find source
  let place ← tree.place target
  match tree.node? place with
  | some .directory => .error .isDirectory
  | _ => return (tree.drop (← tree.place source)).put place node

def nameBelow? (directory place : List String) : Option String :=
  match place.getLast? with
  | some name => if place.dropLast = directory then some name else none
  | none => none

def list (tree : FileTree) (path : String) : Except SystemError (List String) := do
  match ← tree.find path with
  | .directory =>
    let place ← tree.place path
    return tree.nodes.filterMap fun entry ↦ nameBelow? place entry.1
  | _ => .error .notDirectory

def length (tree : FileTree) (path : String) : Except SystemError Nat := do
  return (← tree.find path).length?.getD 0

def length? (tree : FileTree) (path : String) : Option Nat :=
  match tree.find path with
  | .ok node => node.length?
  | .error _ => none

def mode? (tree : FileTree) (path : String) : Option Nat :=
  match tree.find path with
  | .ok node => node.mode?
  | .error _ => none

def exists? (tree : FileTree) (path : String) : Bool := (tree.find path).toBool

/-- Puts something at a path, with the directories above it, as far as that can be done. -/
def plant (tree : FileTree) (path : String) (node : FileNode) : FileTree :=
  let above := (parentPath? path).getD "/"
  match tree.createDirectories above with
  | .ok tree =>
    match tree.place path with
    | .ok place => tree.put place node
    | .error _ => tree
  | .error _ => tree

/-- The result of a change: the tree stays as it is when the change fails. -/
def changed (tree : FileTree) : Except SystemError FileTree → Except SystemError Unit × FileTree
  | .ok tree => (.ok (), tree)
  | .error error => (.error error, tree)

def answer : Handler Files FileTree
  | .createDirectories path, tree => tree.changed (tree.createDirectories path)
  | .fileExists path, tree => (tree.exists? path, tree)
  | .isBlockDevice _, tree => (false, tree)
  | .readFile path, tree => (tree.read path, tree)
  | .writeFile path content, tree => tree.changed (tree.write path content)
  | .setMode path mode, tree => tree.changed (tree.setMode path mode)
  | .rename source target, tree => tree.changed (tree.rename source target)
  | .removeFile path, tree => tree.changed (tree.remove path)
  | .listDirectory path, tree => (tree.list path, tree)
  | .openFile path, tree => tree.changed (tree.openFile path)
  | .fileLength path, tree => (tree.length path, tree)
  | .resizeFile path length, tree => tree.changed (tree.resize path length)
  | .createPipe path, tree => tree.changed (tree.create path .pipe)
  | .lockFile path, tree => (.ok (), { tree with locks := path :: tree.locks })
  | .unlockFile path, tree => ((), { tree with locks := tree.locks.erase path })

end FileTree

end MicroVm.Rehearsal

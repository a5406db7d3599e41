import Mathlib.Logic.Basic
import MicroVm.Layout
import MicroVm.Proofs.Text.Splitting
import MicroVm.Rehearsal.FileTree

/-!
# A directory in a file tree

A file in a directory is found by the path of the directory and its own name, as long as there is a
directory at that path. What happens to files there does not move the directory.
-/

namespace MicroVm.Rehearsal

open MicroVm.Host

/-! ## Paths and names -/

/-- Whether a text can be the name of a file in a directory. -/
structure IsFileName (name : String) : Prop where
  no_slash : '/' ∉ name.toList
  ne_empty : name ≠ ""
  ne_dot : name ≠ "."
  ne_dots : name ≠ ".."
  length_le : name.utf8ByteSize ≤ longestName

section Paths

variable {name : String}

/-- The parts of the characters of a path. -/
def partsOf (path : List Char) : List String :=
  ((Text.splitOn '/' path).map String.ofList).filter fun part ↦ part ≠ "" ∧ part ≠ "."

theorem pathParts_eq (path : String) : pathParts path = partsOf path.toList := rfl

/-- A slash ends a part of a path. -/
theorem partsOf_append_cons (before after : List Char) :
    partsOf (before ++ '/' :: after) = partsOf before ++ partsOf after := by
  rw [partsOf, Text.splitOn_append_cons, List.map_append, List.filter_append]
  rfl

theorem partsOf_name (h : IsFileName name) : partsOf name.toList = [name] := by
  rw [partsOf, Text.splitOn_of_not_mem h.no_slash]
  simp [h.ne_empty, h.ne_dot]

/-- The last part of the path of a file in a directory is the name of the file. -/
theorem pathParts_joinPath (directory : String) (h : IsFileName name) :
    pathParts (joinPath directory name) = pathParts directory ++ [name] := by
  have hrelative : name.toList.head? ≠ some '/' := fun hhead ↦
    h.no_slash (List.mem_of_mem_head? hhead)
  rw [joinPath, if_neg hrelative]
  split
  next hends =>
    obtain hslash | rfl := hends
    · -- the slash at the end of the directory is the one in front of the name
      obtain ⟨front, hfront⟩ := List.getLast?_eq_some_iff.1 hslash
      have hempty : partsOf [] = [] := rfl
      rw [pathParts_eq, pathParts_eq, String.toList_append, hfront, List.append_assoc,
        List.singleton_append, partsOf_append_cons, partsOf_append_cons, hempty, List.append_nil,
        partsOf_name h]
    · rw [pathParts_eq, String.empty_append, partsOf_name h]
      rfl
  next =>
    have hslash : "/".toList = ['/'] := rfl
    rw [pathParts_eq, String.toList_append, String.toList_append, hslash, List.append_assoc,
      List.singleton_append, partsOf_append_cons, partsOf_name h]
    rfl

end Paths

namespace FileTree

variable {tree other : FileTree} {place reached : List String} {name directory path part : String}
  {parts : List String} {node : FileNode}

/-! ## What lies where -/

/-- What is dropped is not found any more, and all else is found as before. -/
theorem lookup_filter_ne (nodes : List (List String × FileNode)) (place spot : List String) :
    (nodes.filter fun entry ↦ entry.1 ≠ place).lookup spot =
      if spot = place then none else nodes.lookup spot := by
  induction nodes with
  | nil => simp
  | cons entry nodes ih =>
    obtain ⟨key, node⟩ := entry
    obtain rfl | hne := eq_or_ne key place
    · rw [List.filter_cons_of_neg (by simp), ih]
      split
      next => rfl
      next hspot => rw [List.lookup_cons, beq_false_of_ne hspot]
    · rw [List.filter_cons_of_pos (by simpa using hne), List.lookup_cons, List.lookup_cons, ih]
      obtain rfl | hspot := eq_or_ne spot key
      · simp [hne]
      · rw [beq_false_of_ne hspot]

/-- Putting something at a place changes that place only. -/
theorem node?_put (h : place ≠ []) (spot : List String) :
    (tree.put place node).node? spot = if spot = place then some node else tree.node? spot := by
  obtain rfl | hroot := eq_or_ne spot []
  · rw [if_neg h.symm]
    rfl
  · rw [node?, node?, if_neg hroot, if_neg hroot, put, List.lookup_cons, lookup_filter_ne]
    obtain rfl | hspot := eq_or_ne spot place
    · simp
    · rw [beq_false_of_ne hspot, if_neg hspot, if_neg hspot]

theorem node?_put_self (h : place ≠ []) : (tree.put place node).node? place = some node := by
  rw [node?_put h, if_pos rfl]

theorem node?_drop (h : place ≠ []) (spot : List String) :
    (tree.drop place).node? spot = if spot = place then none else tree.node? spot := by
  obtain rfl | hroot := eq_or_ne spot []
  · rw [if_neg h.symm]
    rfl
  · rw [node?, node?, if_neg hroot, if_neg hroot, drop, lookup_filter_ne]

/-! ## Walks -/

/-- A path leads on from directories only, by names that are not too long. -/
theorem walk_cons_eq_ok_iff : tree.walk place (part :: parts) = .ok reached ↔
    tree.node? place = some .directory ∧ part.utf8ByteSize ≤ longestName ∧
      tree.walk (step place part) parts = .ok reached := by
  rw [walk]
  split
  next hnode => simp [hnode]
  next hnode =>
    split
    next hlong => simp [Nat.not_le.2 hlong]
    next hshort => simp [hnode, Nat.not_lt.1 hshort]
  next hother hnode =>
    simp only [hnode, Option.some.injEq, reduceCtorEq, false_iff, not_and]
    exact fun hdirectory ↦ absurd hdirectory hother

/-- A walk goes through directories only, so it is the same where they all are. -/
theorem walk_of_directories (h : tree.walk place parts = .ok reached)
    (hkept : ∀ spot, tree.node? spot = some .directory → other.node? spot = some .directory) :
    other.walk place parts = .ok reached := by
  induction parts generalizing place with
  | nil => exact h
  | cons part parts ih =>
    obtain ⟨hnode, hshort, hrest⟩ := walk_cons_eq_ok_iff.1 h
    exact walk_cons_eq_ok_iff.2 ⟨hkept place hnode, hshort, ih hrest⟩

/-- A walk to a directory goes on to the files in it. -/
theorem walk_concat (h : tree.walk place parts = .ok reached)
    (hnode : tree.node? reached = some .directory) (hname : IsFileName name) :
    tree.walk place (parts ++ [name]) = .ok (reached ++ [name]) := by
  induction parts generalizing place with
  | nil =>
    obtain rfl := Except.ok.inj h
    refine walk_cons_eq_ok_iff.2 ⟨hnode, hname.length_le, ?_⟩
    rw [walk, step, if_neg hname.ne_dots]
  | cons part parts ih =>
    obtain ⟨hfirst, hshort, hrest⟩ := walk_cons_eq_ok_iff.1 h
    exact walk_cons_eq_ok_iff.2 ⟨hfirst, hshort, ih hrest⟩

/-! ## Directories -/

/-- The names right below a place. -/
def namesIn (tree : FileTree) (place : List String) : List String :=
  tree.nodes.filterMap fun entry ↦ nameBelow? place entry.1

/-- The name of a place below a directory is its last part. -/
theorem nameBelow?_eq_some_iff {spot : List String} :
    nameBelow? place spot = some name ↔ spot = place ++ [name] := by
  rw [nameBelow?]
  cases hlast : spot.getLast? with
  | none =>
    obtain rfl := List.getLast?_eq_none_iff.1 hlast
    simp
  | some last =>
    obtain ⟨front, rfl⟩ := List.getLast?_eq_some_iff.1 hlast
    simp

/-- The names in a directory are those that lead to a node. -/
theorem mem_namesIn_iff :
    name ∈ tree.namesIn place ↔ ∃ node, tree.node? (place ++ [name]) = some node := by
  have hroot : place ++ [name] ≠ [] := List.concat_ne_nil name place
  simp only [namesIn, List.mem_filterMap, nameBelow?_eq_some_iff, node?, if_neg hroot,
    ← Option.isSome_iff_exists, List.lookup_isSome_iff, beq_iff_eq]
  exact exists_congr fun entry ↦ and_congr_right fun _ ↦ eq_comm

theorem filterMap_nameBelow?_filter_ne (nodes : List (List String × FileNode))
    (place : List String) (name : String) :
    ((nodes.filter fun entry ↦ entry.1 ≠ place ++ [name]).filterMap
      fun entry ↦ nameBelow? place entry.1) =
      (nodes.filterMap fun entry ↦ nameBelow? place entry.1).filter (· ≠ name) := by
  rw [List.filterMap_filter, List.filter_filterMap]
  congr 1
  funext entry
  cases hname : nameBelow? place entry.1 with
  | none => simp
  | some other =>
    rw [nameBelow?_eq_some_iff.1 hname]
    obtain rfl | hne := eq_or_ne other name
    · simp [Option.filter]
    · simp [Option.filter, hne]

/-- A name that is put into a directory comes first, and once. -/
theorem namesIn_put (tree : FileTree) (place : List String) (name : String) (node : FileNode) :
    (tree.put (place ++ [name]) node).namesIn place =
      name :: (tree.namesIn place).filter (· ≠ name) := by
  have hbelow : nameBelow? place (place ++ [name]) = some name := nameBelow?_eq_some_iff.2 rfl
  rw [namesIn, put, List.filterMap_cons, hbelow]
  exact congrArg (name :: ·) (filterMap_nameBelow?_filter_ne tree.nodes place name)

theorem namesIn_drop (tree : FileTree) (place : List String) (name : String) :
    (tree.drop (place ++ [name])).namesIn place = (tree.namesIn place).filter (· ≠ name) :=
  filterMap_nameBelow?_filter_ne tree.nodes place name

/-- Whether a path leads to a directory at a place, with files that can be found by their names. -/
structure HoldsDirectory (tree : FileTree) (directory : String) (place : List String) : Prop where
  place_eq : tree.place directory = .ok place
  node_eq : tree.node? place = some .directory
  isFileName : ∀ name ∈ tree.namesIn place, IsFileName name

namespace HoldsDirectory

/-- The path of a name in a directory leads to the place of that name there. -/
theorem place_joinPath (h : tree.HoldsDirectory directory place) (hname : IsFileName name) :
    tree.place (joinPath directory name) = .ok (place ++ [name]) := by
  rw [FileTree.place, pathParts_joinPath directory hname]
  exact walk_concat h.place_eq h.node_eq hname

/-- Changes to a file leave its directory where it is. -/
theorem put (h : tree.HoldsDirectory directory place) (hname : IsFileName name)
    (hfile : tree.node? (place ++ [name]) ≠ some .directory) :
    (tree.put (place ++ [name]) node).HoldsDirectory directory place := by
  have hkept : ∀ spot, tree.node? spot = some .directory →
      (tree.put (place ++ [name]) node).node? spot = some .directory := by
    intro spot hspot
    rw [node?_put (List.concat_ne_nil name place), if_neg, hspot]
    rintro rfl
    exact hfile hspot
  refine ⟨walk_of_directories h.place_eq hkept, hkept place h.node_eq, fun other hother ↦ ?_⟩
  rw [namesIn_put] at hother
  obtain rfl | hother := List.mem_cons.1 hother
  · exact hname
  · exact h.isFileName other (List.mem_filter.1 hother).1

/-- A directory stays when something in it goes that is no directory. -/
theorem drop (h : tree.HoldsDirectory directory place)
    (hfile : tree.node? (place ++ [name]) ≠ some .directory) :
    (tree.drop (place ++ [name])).HoldsDirectory directory place := by
  have hkept : ∀ spot, tree.node? spot = some .directory →
      (tree.drop (place ++ [name])).node? spot = some .directory := by
    intro spot hspot
    rw [node?_drop (List.concat_ne_nil name place), if_neg, hspot]
    rintro rfl
    exact hfile hspot
  refine ⟨walk_of_directories h.place_eq hkept, hkept place h.node_eq, fun other hother ↦ ?_⟩
  rw [namesIn_drop] at hother
  exact h.isFileName other (List.mem_filter.1 hother).1

/-! ## Files in a directory -/

section Files

variable {source target : String} {content : List UInt8} {zeros mode : Nat}

theorem find_of_place_eq {spot : List String} (h : tree.place path = .ok spot) :
    tree.find path =
      match tree.node? spot with
      | some node => .ok node
      | none => .error .notFound := by
  rw [find, h]
  rfl

theorem find_directory (h : tree.HoldsDirectory directory place) :
    tree.find directory = .ok .directory := by
  rw [find_of_place_eq h.place_eq, h.node_eq]

theorem exists?_directory (h : tree.HoldsDirectory directory place) :
    tree.exists? directory = true := by
  rw [exists?, h.find_directory]
  rfl

theorem list_directory (h : tree.HoldsDirectory directory place) :
    tree.list directory = .ok (tree.namesIn place) := by
  rw [list, h.find_directory, h.place_eq]
  rfl

theorem find_joinPath (h : tree.HoldsDirectory directory place) (hname : IsFileName name) :
    tree.find (joinPath directory name) =
      match tree.node? (place ++ [name]) with
      | some node => .ok node
      | none => .error .notFound :=
  find_of_place_eq (h.place_joinPath hname)

theorem exists?_joinPath (h : tree.HoldsDirectory directory place) (hname : IsFileName name) :
    tree.exists? (joinPath directory name) = (tree.node? (place ++ [name])).isSome := by
  rw [exists?, h.find_joinPath hname]
  cases tree.node? (place ++ [name]) <;> rfl

/-- A file of a directory is read at its place. -/
theorem read_joinPath (h : tree.HoldsDirectory directory place) (hname : IsFileName name) :
    tree.read (joinPath directory name) =
      match tree.node? (place ++ [name]) with
      | none => .error .notFound
      | some (.file content zeros _) => .ok (content ++ List.replicate zeros 0)
      | some .directory => .error .isDirectory
      | some _ => .ok [] := by
  rw [read, h.find_joinPath hname]
  cases tree.node? (place ++ [name]) with
  | none => rfl
  | some node => cases node <;> rfl

/-- A file of a directory gets its other form at its place. -/
theorem update_joinPath (h : tree.HoldsDirectory directory place) (hname : IsFileName name)
    (form : List UInt8 → Nat → Nat → FileNode) :
    tree.update (joinPath directory name) form =
      match tree.node? (place ++ [name]) with
      | none => .ok (tree.put (place ++ [name]) (form [] 0 newFileMode))
      | some (.file content zeros mode) =>
        .ok (tree.put (place ++ [name]) (form content zeros mode))
      | some .directory => .error .isDirectory
      | some _ => .ok tree := by
  rw [update, h.place_joinPath hname]
  rfl

theorem setMode_joinPath (h : tree.HoldsDirectory directory place) (hname : IsFileName name)
    (hfile : tree.node? (place ++ [name]) = some (.file content zeros mode)) (bits : Nat) :
    tree.setMode (joinPath directory name) bits =
      .ok (tree.put (place ++ [name]) (.file content zeros bits)) := by
  rw [setMode, h.find_joinPath hname, h.update_joinPath hname, hfile]
  rfl

/-- A rename replaces what is at the new name, unless that is a directory. -/
theorem rename_joinPath (h : tree.HoldsDirectory directory place) (hsource : IsFileName source)
    (htarget : IsFileName target) (hnode : tree.node? (place ++ [source]) = some node) :
    tree.rename (joinPath directory source) (joinPath directory target) =
      match tree.node? (place ++ [target]) with
      | some .directory => .error .isDirectory
      | _ => .ok ((tree.drop (place ++ [source])).put (place ++ [target]) node) := by
  rw [rename, h.find_joinPath hsource, h.place_joinPath hsource, h.place_joinPath htarget, hnode]
  rfl

end Files

end HoldsDirectory

end FileTree

end MicroVm.Rehearsal

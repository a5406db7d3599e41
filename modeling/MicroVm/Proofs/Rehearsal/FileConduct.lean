import Mathlib.Data.List.Infix
import MicroVm.Proofs.Program.Conduct
import MicroVm.Rehearsal.FileTree

/-!
# How a file tree behaves

A tree answers each request in one way, but it may list a directory in any order. When changes may
fail, a write that fails can leave any beginning of its content behind. A change that is cut off
leaves what one that fails can leave, so a cut is no case of its own.
-/

namespace MicroVm.Rehearsal.FileTree

open MicroVm.Host

/-- How a tree behaves: it answers in its one way, but lists the names in a directory in any
order. -/
def conduct : Conduct Files FileTree := fun _ tree request answer after ↦
  match request, answer with
  | .listDirectory path, .ok names =>
    after = tree ∧ ∃ listed, tree.list path = .ok listed ∧ names.Perm listed
  | request, answer => (answer, after) = FileTree.answer request tree

/-- How a tree behaves when its changes may fail. A write that fails may have written the beginning
of its content. -/
def faultyConduct : Conduct Files FileTree := fun past tree request answer after ↦
  conduct past tree request answer after ∨
    match request, answer with
    | .writeFile path content, .error _ =>
      after = tree ∨ ∃ part, part <+: content ∧ tree.write path part = .ok after
    | .setMode _ _, .error _ => after = tree
    | .rename _ _, .error _ => after = tree
    | _, _ => False

variable {past : History Files} {tree after : FileTree} {path : String}

/-- What the file tree answers is what a file system may do. -/
theorem conduct_answer (past : History Files) (tree : FileTree) (request : FileRequest) :
    conduct past tree request (FileTree.answer request tree).1
      (FileTree.answer request tree).2 := by
  cases request with
  | listDirectory path =>
    change conduct past tree (.listDirectory path) (tree.list path) tree
    cases hlist : tree.list path with
    | error error => exact congrArg (·, tree) hlist.symm
    | ok names => exact ⟨rfl, names, hlist, .refl names⟩
  | _ => rfl

theorem conduct_readFile_iff {answer : Except SystemError (List UInt8)} :
    conduct past tree (.readFile path) answer after ↔ answer = tree.read path ∧ after = tree :=
  Prod.mk.injEq .. ▸ Iff.rfl

theorem conduct_fileExists_iff {answer : Bool} :
    conduct past tree (.fileExists path) answer after ↔
      answer = tree.exists? path ∧ after = tree :=
  Prod.mk.injEq .. ▸ Iff.rfl

theorem conduct_listDirectory {answer : Except SystemError (List String)}
    {listed : List String} (hlisted : tree.list path = .ok listed)
    (h : conduct past tree (.listDirectory path) answer after) :
    after = tree ∧ ∃ names, answer = .ok names ∧ names.Perm listed := by
  cases answer with
  | error error =>
    obtain ⟨hanswer, -⟩ := Prod.mk.inj h
    exact absurd (hanswer.trans hlisted) nofun
  | ok names =>
    obtain ⟨rfl, other, hother, hperm⟩ := h
    obtain rfl := Except.ok.inj (hother.symm.trans hlisted)
    exact ⟨rfl, names, rfl, hperm⟩

theorem faultyConduct_of_answer {request : FileRequest} {answer : request.Answer}
    (past : History Files) (h : FileTree.answer request tree = (answer, after)) :
    faultyConduct past tree request answer after := by
  have hanswered := conduct_answer past tree request
  rw [h] at hanswered
  exact .inl hanswered

/-! ## Changes -/

section Changes

variable {answer : Except SystemError Unit}

/-- A change either takes place or leaves the tree as it is. -/
theorem eq_changed {change : Except SystemError FileTree}
    (h : (answer, after) = tree.changed change) :
    (answer = .ok () ∧ change = .ok after) ∨ ∃ error, answer = .error error ∧ after = tree := by
  cases change with
  | error error => exact .inr ⟨error, Prod.mk.inj h⟩
  | ok changed =>
    obtain ⟨rfl, rfl⟩ := Prod.mk.inj h
    exact .inl ⟨rfl, rfl⟩

/-- A write that may fail has been done, has been done in part, or has changed nothing. -/
theorem faultyConduct_writeFile {content : List UInt8}
    (h : faultyConduct past tree (.writeFile path content) answer after) :
    (answer = .ok () ∧ tree.write path content = .ok after) ∨
      (∃ error, answer = .error error) ∧
        (after = tree ∨ ∃ part, part <+: content ∧ tree.write path part = .ok after) := by
  obtain hanswered | hfailed := h
  · obtain hwritten | ⟨error, hanswer, hafter⟩ := eq_changed hanswered
    · exact .inl hwritten
    · exact .inr ⟨⟨error, hanswer⟩, .inl hafter⟩
  · cases answer with
    | ok value => exact hfailed.elim
    | error error => exact .inr ⟨⟨error, rfl⟩, hfailed⟩

/-- A write may break off after any part of its content. -/
theorem faultyConduct_of_part {content part : List UInt8} (past : History Files)
    (error : SystemError) (hpart : part <+: content) (hwrite : tree.write path part = .ok after) :
    faultyConduct past tree (.writeFile path content) (.error error) after :=
  .inr (.inr ⟨part, hpart, hwrite⟩)

theorem faultyConduct_setMode {mode : Nat}
    (h : faultyConduct past tree (.setMode path mode) answer after) :
    (answer = .ok () ∧ tree.setMode path mode = .ok after) ∨
      ∃ error, answer = .error error ∧ after = tree := by
  obtain hanswered | hfailed := h
  · exact eq_changed hanswered
  · cases answer with
    | ok value => exact hfailed.elim
    | error error => exact .inr ⟨error, rfl, hfailed⟩

theorem faultyConduct_rename {target : String}
    (h : faultyConduct past tree (.rename path target) answer after) :
    (answer = .ok () ∧ tree.rename path target = .ok after) ∨
      ∃ error, answer = .error error ∧ after = tree := by
  obtain hanswered | hfailed := h
  · exact eq_changed hanswered
  · cases answer with
    | ok value => exact hfailed.elim
    | error error => exact .inr ⟨error, rfl, hfailed⟩

end Changes

end MicroVm.Rehearsal.FileTree

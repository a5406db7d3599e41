import MicroVm.Storage.Chain

/-!
# Nodes of mappings and loops

The nodes of a machine's two mappings are told apart by how they end, and both from every loop by
how they begin. No condition on the machine id is needed for that.
-/

namespace MicroVm

theorem snapshotName_eq (uid : String) : snapshotName uid = "fcspawn-" ++ uid := rfl

theorem paddedBaseName_eq (uid : String) : paddedBaseName uid = "fcspawn-" ++ uid ++ "-base" := rfl

/-- The node of a name that is no absolute path lies in the directory of the device mapper. -/
theorem mapperPath_eq {name : String} (hname : name.toList.head? ≠ some '/') :
    mapperPath name = "/dev/mapper/" ++ name := by
  unfold mapperPath joinPath
  rw [if_neg hname, if_neg (by decide)]
  rfl

theorem mapperPath_snapshotName (uid : String) :
    mapperPath (snapshotName uid) = "/dev/mapper/fcspawn-" ++ uid := by
  rw [mapperPath_eq (by simp [snapshotName_eq]), snapshotName_eq, ← String.append_assoc]
  rfl

theorem mapperPath_paddedBaseName (uid : String) :
    mapperPath (paddedBaseName uid) = "/dev/mapper/fcspawn-" ++ uid ++ "-base" := by
  rw [mapperPath_eq (by simp [paddedBaseName_eq]), paddedBaseName_eq, ← String.append_assoc,
    ← String.append_assoc]
  rfl

/-! ## Names of two machines -/

section Names

variable {uid other : String}

theorem snapshotName_inj : snapshotName uid = snapshotName other ↔ uid = other := by
  rw [snapshotName_eq, snapshotName_eq, String.append_right_inj]

theorem paddedBaseName_inj : paddedBaseName uid = paddedBaseName other ↔ uid = other := by
  rw [paddedBaseName_eq, paddedBaseName_eq, String.append_left_inj, String.append_right_inj]

/-- The name of a root device is that of a padded base when the ids differ by the ending. -/
theorem snapshotName_eq_paddedBaseName_iff :
    snapshotName uid = paddedBaseName other ↔ uid = other ++ "-base" := by
  rw [snapshotName_eq, paddedBaseName_eq, String.append_assoc, String.append_right_inj]

end Names

namespace Storage

/-- The node of a loop device. -/
def loopNode (number : Nat) : String := "/dev/loop" ++ toString number

namespace Chain

/-- The node of the padded base. -/
def paddedBasePath (chain : Chain) : String := mapperPath (paddedBaseName chain.uid)

variable (chain : Chain)

/-- The root device of a machine is not its own padded base. -/
theorem devicePath_ne_paddedBasePath : chain.devicePath ≠ chain.paddedBasePath := by
  unfold devicePath paddedBasePath
  rw [mapperPath_snapshotName, mapperPath_paddedBaseName]
  intro hequal
  have hlength := congrArg String.length hequal
  simp at hlength

theorem loopNode_ne_devicePath (number : Nat) : loopNode number ≠ chain.devicePath := by
  unfold loopNode devicePath
  rw [mapperPath_snapshotName]
  intro hequal
  have htext := congrArg String.toList hequal
  simp at htext

theorem loopNode_ne_paddedBasePath (number : Nat) : loopNode number ≠ chain.paddedBasePath := by
  unfold loopNode paddedBasePath
  rw [mapperPath_paddedBaseName]
  intro hequal
  have htext := congrArg String.toList hequal
  simp at htext

end Chain

end Storage

end MicroVm

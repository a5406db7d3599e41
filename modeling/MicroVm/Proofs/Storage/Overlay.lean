import MicroVm.Proofs.Program.Requests
import MicroVm.Storage.Overlay

/-!
# Runs that size the overlay

The size of an image is read with two requests, which tell its kind and its length. That crashes
only when the image is a block device of 2^64 bytes or more. Sizing the overlay does not crash.
-/

namespace MicroVm.Storage

open MicroVm.Host

variable {base path : String} {diskSize baseSize : Nat}

/-- The runs that read the size of an image. -/
inductive SizeRun (base : String) :
    History (Devices.both Files) → Option (Except Failure Nat) → Prop
  | device {size : Except Failure Nat} {result : Except Failure Nat} :
      SizeRun base [⟨.inl (.isBlockDevice base), true⟩, ⟨.inl (.sizeSectors base), size⟩]
        (some result)
  | overflow {sectors : Nat} (overflows : UInt64.size ≤ sectors * 512) :
      SizeRun base [⟨.inl (.isBlockDevice base), true⟩, ⟨.inl (.sizeSectors base), .ok sectors⟩]
        none
  | file {length : Except SystemError Nat} {result : Except Failure Nat} :
      SizeRun base [⟨.inl (.isBlockDevice base), false⟩, ⟨.inr (.fileLength base), length⟩]
        (some result)

theorem sizeRun_of_isRun {history : History (Devices.both Files)}
    {result : Option (Except Failure Nat)}
    (hrun : (baseImageSize base).attempt.IsRun history result) : SizeRun base history result := by
  obtain ⟨found, rest, rfl, hrest⟩ := Program.isRun_ask_iff.1 hrun
  cases found with
  | true =>
    obtain ⟨size, last, rfl, hlast⟩ := Program.isRun_ask_iff.1 hrest
    cases size with
    | error failure =>
      obtain ⟨rfl, rfl⟩ := Program.isRun_done_iff.1 hlast
      exact .device
    | ok sectors =>
      change (Task.attempt (if sectors * 512 < UInt64.size then pure (sectors * 512)
        else Task.crash)).IsRun last result at hlast
      split at hlast
      · obtain ⟨rfl, rfl⟩ := Program.isRun_done_iff.1 hlast
        exact .device
      · obtain ⟨rfl, rfl⟩ := Program.isRun_halt_iff.1 hlast
        exact .overflow (not_lt.1 ‹_›)
  | false =>
    obtain ⟨length, last, rfl, hlast⟩ := Program.isRun_ask_iff.1 hrest
    cases length with
    | error failure =>
      obtain ⟨rfl, rfl⟩ := Program.isRun_done_iff.1 hlast
      exact .file
    | ok length =>
      obtain ⟨rfl, rfl⟩ := Program.isRun_done_iff.1 hlast
      exact .file

/-- What sizing the overlay does in its directory. -/
def growOverlay (path : String) (wanted : Nat) : Task Files Nat := do
  Task.within (.openingOverlay path) (Files.openFile path)
  let current ← Task.within .readingOverlaySize (Files.length path)
  if wanted ≤ current then return current
  else
    Task.within (.resizingOverlay path) (Files.resize path wanted)
    return wanted

/-- The directory of an overlay is made before the overlay grows to the larger of the two sizes. -/
theorem ensureOverlay_eq (path : String) (diskSize baseSize : Nat) :
    ensureOverlay path diskSize baseSize =
      match parentPath? path with
      | some parent => do
        Task.within (.creating parent) (Files.createDirectories parent)
        growOverlay path (max diskSize baseSize)
      | none => growOverlay path (max diskSize baseSize) := by
  unfold ensureOverlay
  cases parentPath? path with
  | none => rfl
  | some parent => rfl

section Asks

variable {past : History Files}

theorem fileRequest_asks (request : FileRequest) :
    (Program.perform (I := Files) request).Asks (fun _ _ ↦ True) past fun _ _ ↦ True :=
  Program.asks_perform trivial fun _ ↦ trivial

theorem growOverlay_asks {wanted : Nat} :
    (growOverlay path wanted).attempt.Asks (fun _ _ ↦ True) past fun _ _ ↦ True := by
  unfold growOverlay
  refine Task.asks_seq (Task.asks_within (Task.asks_ofSystem (fileRequest_asks _))) fun _ _ ↦ ?_
  refine Task.asks_seq (Task.asks_within (Task.asks_ofSystem (fileRequest_asks _))) fun _ _ ↦ ?_
  split
  · exact .done trivial
  · refine Task.asks_seq (Task.asks_within ?_) fun _ _ ↦ .done trivial
    unfold Files.resize
    split
    · exact Task.asks_ofSystem (fileRequest_asks _)
    · exact .done trivial

theorem ensureOverlay_asks :
    (ensureOverlay path diskSize baseSize).attempt.Asks (fun _ _ ↦ True) past fun _ _ ↦ True := by
  rw [ensureOverlay_eq]
  cases parentPath? path with
  | none => exact growOverlay_asks
  | some parent =>
    apply Task.asks_seq
    · exact Task.asks_within (Task.asks_ofSystem (fileRequest_asks _))
    · exact fun _ _ ↦ growOverlay_asks

end Asks

/-- Sizing the overlay may fail but it does not crash. -/
theorem ensureOverlay_not_halts {history : History Files} :
    ¬ (ensureOverlay path diskSize baseSize).attempt.IsRun history none := by
  intro hcrash
  have hasks : (ensureOverlay path diskSize baseSize).attempt.Asks (fun _ _ ↦ True) []
      fun _ _ ↦ True := ensureOverlay_asks
  obtain ⟨_, hnone, -⟩ := hasks.exists_value hcrash
  cases hnone

end MicroVm.Storage

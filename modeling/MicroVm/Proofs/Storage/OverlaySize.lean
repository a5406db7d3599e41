import Mathlib.Logic.Function.Basic
import MicroVm.Proofs.Storage.Overlay
import MicroVm.Proofs.Storage.OverlayRoom

/-!
# The length of the overlay

An overlay is sized in bytes, and activations compare sectors. The sectors of a loop are those that
fit into its file, so an overlay of at least as many bytes as the image has at least as many
sectors, also when neither of the two lengths is a number of sectors. The overlay is as long as it
was before, as the requested disk and as the image, whichever is most, so it is never cut, sizing it
again does nothing, and no activation finds it too small.
-/

namespace MicroVm.Storage

open MicroVm.Host

/-! ## Files and their lengths -/

/-- The files of a host. Several paths may lead to one file. -/
structure HostFiles where
  /-- The number of the file that a path leads to. -/
  file : String → Nat
  /-- The lengths of the files in bytes, none for a file that is not there. -/
  lengths : Nat → Option Nat

namespace HostFiles

/-- The length of the file at a path. -/
def length? (files : HostFiles) (path : String) : Option Nat := files.lengths (files.file path)

/-- The length of the file at a path, zero when there is none. -/
def lengthOf (files : HostFiles) (path : String) : Nat := (files.length? path).getD 0

/-- The host with another length of the file at a path. -/
def setLength (files : HostFiles) (path : String) (length : Nat) : HostFiles :=
  { files with lengths := Function.update files.lengths (files.file path) (some length) }

/-- Which answers the files may give to a request, and how they may be afterwards. A call that fails
has no effect. Only the requests that size an overlay are told apart. -/
def Serves (mayFail : Prop) (files : HostFiles) :
    (request : FileRequest) → request.Answer → HostFiles → Prop
  | .createDirectories _, .ok _, after => after = files
  | .createDirectories _, .error _, after => mayFail ∧ after = files
  | .openFile path, .ok _, after => after = files.setLength path (files.lengthOf path)
  | .openFile _, .error _, after => mayFail ∧ after = files
  | .fileLength path, .ok length, after => files.length? path = some length ∧ after = files
  | .fileLength path, .error _, after => (mayFail ∨ files.length? path = none) ∧ after = files
  | .resizeFile path length, .ok _, after => after = files.setLength path length
  | .resizeFile _ _, .error _, after => mayFail ∧ after = files
  | _, _, _ => True

/-- The conduct of files on which all calls may fail or none. -/
def conduct (mayFail : Prop) : Conduct Files HostFiles :=
  fun _ files request answer after ↦ files.Serves mayFail request answer after

variable {files : HostFiles} {path other : String} {length : Nat}

theorem length?_setLength : (files.setLength path length).length? other =
    if files.file other = files.file path then some length else files.length? other :=
  Function.update_apply files.lengths _ _ _

@[simp]
theorem length?_setLength_self : (files.setLength path length).length? path = some length := by
  rw [length?_setLength, if_pos rfl]

@[simp]
theorem setLength_setLength (first : Nat) :
    (files.setLength path first).setLength path length = files.setLength path length := by
  simp [setLength]

theorem setLength_eq_self (h : files.length? path = some length) :
    files.setLength path length = files := by
  unfold setLength
  rw [Function.update_eq_self_iff.2 h.symm]

end HostFiles

/-! ## Sizing the overlay -/

variable {files looked grown : HostFiles} {path base overlay : String}
  {diskSize baseSize size wanted : Nat} {mayFail : Prop} {past : History Files}

/-- What comes of growing a file. A failure may leave an empty file where there was none. -/
def GrowsOrFails (mayFail : Prop) (files : HostFiles) (path : String) (wanted : Nat)
    (result : Except Failure Nat) (after : HostFiles) : Prop :=
  match result with
  | .ok size => size = max (files.lengthOf path) wanted ∧ after = files.setLength path size
  | .error _ => (mayFail ∨ files.lengthOf path < wanted) ∧
      (after = files ∨ after = files.setLength path (files.lengthOf path))

theorem growOverlay_ensures :
    (growOverlay path wanted).attempt.Ensures (HostFiles.conduct mayFail) past files
      fun result _ after ↦ GrowsOrFails mayFail files path wanted result after := by
  unfold growOverlay
  apply Task.ensures_bind
  apply Task.ensures_within
  apply Task.ensures_ofSystem
  apply Program.ensures_perform
  intro opened after hstep
  cases opened with
  | error error => exact ⟨.inl hstep.1, .inl hstep.2⟩
  | ok value =>
    obtain rfl := hstep
    apply Task.ensures_bind
    apply Task.ensures_within
    apply Task.ensures_ofSystem
    apply Program.ensures_perform
    intro length after hstep
    cases length with
    | error error =>
      obtain ⟨hfault | hmissing, rfl⟩ := hstep
      · exact ⟨.inl hfault, .inr rfl⟩
      · rw [HostFiles.length?_setLength_self] at hmissing
        cases hmissing
    | ok current =>
      obtain ⟨hcurrent, rfl⟩ := hstep
      rw [HostFiles.length?_setLength_self] at hcurrent
      obtain rfl := Option.some.inj hcurrent
      dsimp only [Except.mapError]
      split
      next hfits => exact Program.ensures_done ⟨(max_eq_left hfits).symm, rfl⟩
      next hsmall =>
        rw [not_le] at hsmall
        apply Task.ensures_bind
        apply Task.ensures_within
        unfold Files.resize
        split
        next =>
          apply Task.ensures_ofSystem
          apply Program.ensures_perform
          intro resized after hstep
          cases resized with
          | error error => exact ⟨.inl hstep.1, .inr hstep.2⟩
          | ok value =>
            refine Program.ensures_done ⟨(max_eq_right hsmall.le).symm, ?_⟩
            exact hstep.trans (HostFiles.setLength_setLength _)
        next => exact Program.ensures_done ⟨.inr hsmall, .inr rfl⟩

theorem ensureOverlay_ensures :
    (ensureOverlay path diskSize baseSize).attempt.Ensures (HostFiles.conduct mayFail) past files
      fun result _ after ↦
        GrowsOrFails mayFail files path (max diskSize baseSize) result after := by
  rw [ensureOverlay_eq]
  cases parentPath? path with
  | none => exact growOverlay_ensures
  | some parent =>
    apply Task.ensures_bind
    apply Task.ensures_within
    apply Task.ensures_ofSystem
    apply Program.ensures_perform
    intro created after hstep
    cases created with
    | error error => exact ⟨.inl hstep.1, .inl hstep.2⟩
    | ok value =>
      obtain rfl := hstep
      exact growOverlay_ensures

/-- Growing a file that is long enough changes nothing. -/
theorem GrowsOrFails.eq_self {result : Except Failure Nat} {after : HostFiles}
    (hgrows : GrowsOrFails mayFail files path wanted result after)
    (hlength : files.length? path = some size) (hfits : wanted ≤ size) :
    after = files ∧ (result = .ok size ∨ mayFail ∧ ∃ failure, result = .error failure) := by
  have hsize : files.lengthOf path = size := by rw [HostFiles.lengthOf, hlength, Option.getD_some]
  have hsame : files.setLength path size = files := HostFiles.setLength_eq_self hlength
  cases result with
  | ok found =>
    obtain ⟨rfl, rfl⟩ := hgrows
    rw [hsize, max_eq_left hfits]
    exact ⟨hsame, .inl rfl⟩
  | error failure =>
    obtain ⟨hwhy, hafter⟩ := hgrows
    rw [hsize] at hwhy hafter
    rw [hsame, or_self] at hafter
    have hfault : mayFail := hwhy.resolve_right hfits.not_gt
    exact ⟨hafter, .inr ⟨hfault, failure, rfl⟩⟩

/-! ## Sizes in sectors -/

namespace HostDevices

/-- The devices of a host on which a file has as many sectors as fit into it. -/
def withFiles (devices : HostDevices) (files : HostFiles) : HostDevices :=
  { devices with sizes := fun path ↦
      if devices.isBlock path then devices.sizes path else files.lengthOf path / 512 }

/-- The size of an image in bytes. -/
def imageBytes (devices : HostDevices) (files : HostFiles) (base : String) : Nat :=
  if devices.isBlock base then (devices.withFiles files).sectors base * 512 else files.lengthOf base

/-- The conduct of a host with files that are looked at, while no devices come or go. -/
def lookConduct (devices : HostDevices) : Conduct (Devices.both Files) HostFiles :=
  fun _ files request answer after ↦
    match request, answer with
    | .inl request, answer =>
      (devices.withFiles files).Serves True request answer (devices.withFiles files) ∧ after = files
    | .inr request, answer => files.Serves True request answer after

variable {devices : HostDevices}

/-- Once the overlay has a length, no file has more sectors than before or than that length gives.
-/
theorem sizes_withFiles_setLength_le (path : String) :
    (devices.withFiles (files.setLength overlay size)).sizes path ≤
      max ((devices.withFiles files).sizes path) (size / 512) := by
  unfold withFiles
  dsimp only
  split
  · exact le_max_left _ _
  · rw [HostFiles.lengthOf, HostFiles.length?_setLength]
    split
    · exact le_max_right _ _
    · exact le_max_left _ _

theorem imageSectors_eq (host : HostDevices) (base : String) : host.imageSectors base =
    host.sizes (if host.isBlock base then (host.backing base).getD base else base) := by
  unfold imageSectors sectors
  split <;> rfl

/-- The sectors of an image are its bytes, rounded down. -/
theorem imageSectors_withFiles (devices : HostDevices) (files : HostFiles) (base : String) :
    (devices.withFiles files).imageSectors base = devices.imageBytes files base / 512 := by
  unfold imageBytes imageSectors
  have hkind : (devices.withFiles files).isBlock = devices.isBlock := rfl
  rw [hkind]
  by_cases hblock : devices.isBlock base = true
  · rw [if_pos hblock, if_pos hblock, Nat.mul_div_cancel _ (by decide)]
  · rw [if_neg hblock, if_neg hblock]
    exact if_neg hblock

/-- An overlay of at least as many bytes as the image has at least as many sectors. -/
theorem imageSectors_withFiles_setLength_le (hoverlay : devices.isBlock overlay = false)
    (hfits : devices.imageBytes files base ≤ size) :
    (devices.withFiles (files.setLength overlay size)).imageSectors base ≤
      (devices.withFiles (files.setLength overlay size)).sizes overlay := by
  have hsectors : (devices.withFiles files).imageSectors base ≤ size / 512 :=
    (imageSectors_withFiles devices files base).trans_le (Nat.div_le_div_right hfits)
  have hlength : (files.setLength overlay size).lengthOf overlay = size := by
    rw [HostFiles.lengthOf, HostFiles.length?_setLength_self, Option.getD_some]
  calc
    (devices.withFiles (files.setLength overlay size)).imageSectors base
      ≤ max ((devices.withFiles files).imageSectors base) (size / 512) := by
        rw [imageSectors_eq, imageSectors_eq]
        exact sizes_withFiles_setLength_le _
    _ = size / 512 := max_eq_right hsectors
    _ = (devices.withFiles (files.setLength overlay size)).sizes overlay := by
      change _ = if devices.isBlock overlay then _ else _
      rw [hoverlay, hlength]
      rfl

end HostDevices

/-- Reading the size of an image leaves the host as it is. It does not crash as long as the size of
a block device fits in 64 bits. -/
theorem baseImageSize_ensures {devices : HostDevices} {past : History (Devices.both Files)}
    (hrange : devices.isBlock base = true →
      (devices.withFiles files).sectors base * 512 < UInt64.size) :
    (baseImageSize base).attempt.Ensures devices.lookConduct past files fun result _ after ↦
      after = files ∧ ∀ size, result = .ok size → size = devices.imageBytes files base := by
  apply Program.ensures_ask
  rintro found after ⟨⟨hfound, -⟩, rfl⟩
  have hkind : devices.isBlock base = found := hfound.symm
  unfold HostDevices.imageBytes
  rw [hkind] at hrange ⊢
  cases found with
  | true =>
    apply Program.ensures_ask
    rintro (failure | sectors) middle ⟨hstep, rfl⟩
    · exact Program.ensures_done ⟨rfl, nofun⟩
    · have hsectors : sectors = (devices.withFiles middle).sectors base := hstep.1
      have hfits : sectors * 512 < UInt64.size := hsectors ▸ hrange rfl
      change Program.Ensures _ _ _ (Task.attempt (if sectors * 512 < UInt64.size
        then pure (sectors * 512) else Task.crash)) _
      rw [if_pos hfits]
      refine Program.ensures_done ⟨rfl, ?_⟩
      rintro _ ⟨⟩
      rw [if_pos rfl, hsectors]
  | false =>
    apply Program.ensures_ask
    rintro (error | length) middle hstep
    · exact Program.ensures_done ⟨hstep.2, nofun⟩
    · obtain ⟨hlength, rfl⟩ := hstep
      refine Program.ensures_done ⟨rfl, ?_⟩
      rintro _ ⟨⟩
      rw [if_neg Bool.false_ne_true, HostFiles.lengthOf, hlength, Option.getD_some]

/-! ## Room for the image -/

/-- What an overlay is like that was sized for an image. -/
structure IsSizedFor (devices : HostDevices) (files : HostFiles) (base overlay : String)
    (diskSize baseSize size : Nat) (grown : HostFiles) : Prop where
  image : baseSize = devices.imageBytes files base
  /-- The overlay is never cut, and it is as long as it has to be. -/
  size_eq : size = max (files.lengthOf overlay) (max diskSize baseSize)
  length_eq : grown.length? overlay = some size
  others : ∀ path, files.file path ≠ files.file overlay → grown.length? path = files.length? path
  /-- Sizing the overlay again changes nothing. It gives the same size unless a call fails. -/
  again : ∀ ⦃mayFail history result after⦄,
    (ensureOverlay overlay diskSize baseSize).attempt.IsRun history result →
      (HostFiles.conduct mayFail).Allows [] grown history after →
        after = grown ∧ (result = some (.ok size) ∨
          mayFail ∧ ∃ failure, result = some (.error failure))
  /-- Activations over the image and the overlay do not crash, whichever devices have come or gone,
  and they do not find the overlay too small. Only a call that fails could say so. -/
  activation : ∀ ⦃chain faults host history result after⦄,
    host.imageSectors base = (devices.withFiles grown).imageSectors base →
      host.sizes overlay = (devices.withFiles grown).sizes overlay →
        (Chain.activate chain base overlay).attempt.IsRun history result →
          (HostDevices.conduct faults).Allows [] host history after →
            ∃ outcome, result = some outcome ∧ ∀ failure overlaySectors baseSectors,
              outcome = .error failure →
                failure.root = .overlayTooSmall overlaySectors baseSectors →
                  IsReported history (.overlayTooSmall overlaySectors baseSectors)

/-- Once an overlay was sized for an image, it is long enough for good. -/
theorem ensureOverlay_makes_room {devices : HostDevices} {looking : History (Devices.both Files)}
    {growing : History Files} (hoverlay : devices.isBlock overlay = false)
    (hrange : devices.isBlock base = true →
      (devices.withFiles files).sectors base * 512 < UInt64.size)
    (hlook : (baseImageSize base).attempt.IsRun looking (some (.ok baseSize)))
    (hlooking : devices.lookConduct.Allows [] files looking looked)
    (hgrow : (ensureOverlay overlay diskSize baseSize).attempt.IsRun growing (some (.ok size)))
    (hgrowing : (HostFiles.conduct True).Allows [] looked growing grown) :
    IsSizedFor devices files base overlay diskSize baseSize size grown := by
  obtain ⟨_, hfound, rfl, hbase⟩ := baseImageSize_ensures hrange hlook hlooking
  obtain rfl := Option.some.inj hfound
  obtain rfl := hbase _ rfl
  obtain ⟨_, hfound, hsized⟩ := ensureOverlay_ensures hgrow hgrowing
  obtain rfl := Option.some.inj hfound
  obtain ⟨hsize, rfl⟩ := hsized
  have hwanted : max diskSize (devices.imageBytes looked base) ≤ size := by
    rw [hsize]
    exact le_max_right _ _
  refine ⟨rfl, hsize, HostFiles.length?_setLength_self, fun path hother ↦ ?_, ?_, ?_⟩
  · rw [HostFiles.length?_setLength, if_neg hother]
  · intro mayFail history result after hrun hallows
    obtain ⟨outcome, rfl, hagain⟩ := ensureOverlay_ensures hrun hallows
    obtain ⟨hafter, hsame | ⟨hfault, failure, hfailed⟩⟩ :=
      hagain.eq_self HostFiles.length?_setLength_self hwanted
    · exact ⟨hafter, .inl (congrArg some hsame)⟩
    · exact ⟨hafter, .inr ⟨hfault, failure, congrArg some hfailed⟩⟩
  · intro chain faults host history result after hbase hsizes hrun hallows
    have hroom : host.imageSectors base ≤ host.sizes overlay := by
      rw [hbase, hsizes]
      have hfits : devices.imageBytes looked base ≤ size := (le_max_right _ _).trans hwanted
      exact HostDevices.imageSectors_withFiles_setLength_le hoverlay hfits
    exact chain.activate_not_short hroom hrun hallows

/-! ## An image that is no number of sectors -/

/-- A host without devices. -/
def bareDevices : HostDevices where
  nodes := ∅
  backing _ := none
  sizes _ := 0
  isBlock _ := false

/-- An image of 1000 bytes, which are two sectors but for 24 bytes, and no overlay. -/
def oddImage : HostFiles where
  file path := if path = "/image" then 0 else 1
  lengths number := if number = 0 then some 1000 else none

theorem isRun_lookAtOddImage : (baseImageSize "/image").attempt.IsRun
    [⟨.inl (.isBlockDevice "/image"), false⟩, ⟨.inr (.fileLength "/image"), .ok 1000⟩]
    (some (.ok 1000)) := by
  iterate 2 refine .ask _ ?_
  exact .done _

theorem isRun_growForOddImage : (ensureOverlay "/vm/overlay" 700 1000).attempt.IsRun
    [⟨.createDirectories "/vm", .ok ()⟩, ⟨.openFile "/vm/overlay", .ok ()⟩,
      ⟨.fileLength "/vm/overlay", .ok 0⟩, ⟨.resizeFile "/vm/overlay" 1000, .ok ()⟩]
    (some (.ok 1000)) := by
  iterate 4 refine .ask _ ?_
  exact .done _

/-- An image that ends inside of a sector, and a disk that is to be smaller than the image. -/
theorem ensureOverlay_makes_room_odd_length :
    ∃ grown, grown.length? "/vm/overlay" = some 1000 ∧
      (bareDevices.withFiles grown).imageSectors "/image" = 1 ∧
      (bareDevices.withFiles grown).sizes "/vm/overlay" = 1 ∧
      IsSizedFor bareDevices oddImage "/image" "/vm/overlay" 700 1000 1000 grown := by
  have hlooking : bareDevices.lookConduct.Allows [] oddImage
      [⟨.inl (.isBlockDevice "/image"), false⟩, ⟨.inr (.fileLength "/image"), .ok 1000⟩]
      oddImage :=
    .cons ⟨⟨rfl, rfl⟩, rfl⟩ (Conduct.allows_singleton ⟨rfl, rfl⟩)
  let opened := oddImage.setLength "/vm/overlay" 0
  let grown := opened.setLength "/vm/overlay" 1000
  have hgrowing : (HostFiles.conduct True).Allows [] oddImage
      [⟨.createDirectories "/vm", .ok ()⟩, ⟨.openFile "/vm/overlay", .ok ()⟩,
        ⟨.fileLength "/vm/overlay", .ok 0⟩, ⟨.resizeFile "/vm/overlay" 1000, .ok ()⟩] grown :=
    .cons rfl (.cons rfl (.cons ⟨HostFiles.length?_setLength_self, rfl⟩
      (Conduct.allows_singleton rfl)))
  refine ⟨grown, HostFiles.length?_setLength_self, ?_, ?_, ?_⟩
  · decide
  · decide
  · exact ensureOverlay_makes_room rfl nofun isRun_lookAtOddImage hlooking isRun_growForOddImage
      hgrowing

end MicroVm.Storage

import MicroVm.Proofs.Storage.Stacking
import MicroVm.Proofs.Text.Occurrence

/-!
# Deactivation

The mappings of a machine are removed in one call that begins with the snapshot and stops at the
first mapping that is missing. So a padded base without a snapshot on it is not removed, although
the deactivation succeeds.
-/

namespace MicroVm.Storage

open HostDevices

/-- Faults of nothing but the lock. -/
def FaultPattern.OnlyOfLock (faults : FaultPattern) : Prop :=
  ∀ past request, faults past request → ∃ path, request = .acquireLock path

namespace Chain

/-- A failure in the words of the device mapper counts as a mapping that is gone. -/
theorem saysGone_of_reportsMissing {failure : Failure} (hmissing : ReportsMissing failure) :
    saysGone failure.message := by
  have hlowered := Text.lowered_infix hmissing
  have hneedle : Text.lowered "No such device or address".toList =
      "no such device or address".toList := by decide
  rw [hneedle, ← Text.occursIn_iff] at hlowered
  unfold saysGone
  dsimp only
  rw [hlowered, Bool.true_or]

variable (chain : Chain)

/-- What a removal of all mappings that are known leaves. -/
structure IsRemoved (host after : HostDevices) : Prop where
  whenThere : chain.devicePath ∈ host.nodes →
    after.nodes = host.nodes \ {chain.devicePath, chain.paddedBasePath}
  whenMissing : chain.devicePath ∉ host.nodes → after = host

variable {chain} {host after : HostDevices}

theorem isRemoved_of_removes {isPadded : Bool} {missing : Option String}
    (hpadded : isPadded = true ↔ chain.paddedBasePath ∈ host.nodes)
    (hremoves : host.Removes (chain.mappingNames isPadded) missing after) :
    chain.IsRemoved host after := by
  cases hremoves with
  | missing habsent => exact ⟨fun hthere ↦ absurd hthere habsent, fun _ ↦ rfl⟩
  | present hthere hrest =>
    refine ⟨fun _ ↦ ?_, fun habsent ↦ absurd hthere habsent⟩
    have hbelow : chain.paddedBasePath ∈ (host.remove chain.devicePath).nodes ↔
        chain.paddedBasePath ∈ host.nodes :=
      and_iff_left chain.devicePath_ne_paddedBasePath.symm
    have hboth : host.nodes \ {chain.devicePath, chain.paddedBasePath} =
        (host.nodes \ {chain.devicePath}) \ {chain.paddedBasePath} := by
      calc
        _ = host.nodes \ ({chain.devicePath} ∪ {chain.paddedBasePath}) := by
          rw [Set.singleton_union]
        _ = _ := Set.sdiff_sdiff.symm
    rw [hboth]
    cases isPadded with
    | false =>
      cases hrest
      rw [Set.sdiff_singleton_eq_self]
      · rfl
      · intro hmem
        exact Bool.noConfusion (hpadded.2 hmem.1)
    | true =>
      cases hrest with
      | missing habsent => exact absurd (hbelow.2 (hpadded.1 rfl)) habsent
      | present _ hend =>
        cases hend
        rfl

/-- The snapshot is gone after a removal. -/
theorem IsRemoved.devicePath_notMem (hremoved : chain.IsRemoved host after) :
    chain.devicePath ∉ after.nodes := by
  by_cases hthere : chain.devicePath ∈ host.nodes
  · rw [hremoved.whenThere hthere]
    exact fun hmem ↦ hmem.2 (.inl rfl)
  · rwa [hremoved.whenMissing hthere]

/-- The padded base stays exactly when there was no snapshot on it. -/
theorem IsRemoved.paddedBasePath_mem_iff (hremoved : chain.IsRemoved host after) :
    chain.paddedBasePath ∈ after.nodes ↔
      chain.paddedBasePath ∈ host.nodes ∧ chain.devicePath ∉ host.nodes := by
  by_cases hthere : chain.devicePath ∈ host.nodes
  · rw [hremoved.whenThere hthere]
    exact ⟨fun hmem ↦ absurd (.inr rfl) hmem.2, fun hmem ↦ absurd hthere hmem.2⟩
  · rw [hremoved.whenMissing hthere]
    exact (and_iff_left hthere).symm

/-- A removal leaves all nodes but the two of its machine. -/
theorem IsRemoved.mem_iff (hremoved : chain.IsRemoved host after) {path : String}
    (hdevice : path ≠ chain.devicePath) (hpadded : path ≠ chain.paddedBasePath) :
    path ∈ after.nodes ↔ path ∈ host.nodes := by
  by_cases hthere : chain.devicePath ∈ host.nodes
  · rw [hremoved.whenThere hthere]
    refine and_iff_left ?_
    rintro (hequal | hequal)
    · exact hdevice hequal
    · exact hpadded hequal
  · rw [hremoved.whenMissing hthere]

variable (chain) {faults : FaultPattern} {past : History Devices}

/-- The padded base is among the mappings to remove when it is there. -/
theorem mappings_ensures : (mappings chain).Ensures (conduct faults) past host
    fun names _ after ↦ after = host ∧ ∃ isPadded, names = chain.mappingNames isPadded ∧
      (isPadded = true ↔ chain.paddedBasePath ∈ host.nodes) := by
  refine Program.ensures_bind (Program.ensures_perform ?_)
  intro found after hstep
  obtain ⟨hfound, rfl⟩ := hstep
  cases found with
  | false => exact Program.ensures_done ⟨rfl, false, rfl, hfound⟩
  | true => exact Program.ensures_done ⟨rfl, true, rfl, hfound⟩

/-- Under the lock a deactivation succeeds, unless a removal fails by the pattern. -/
theorem deactivateLocked_ensures (hfaults : ∀ past names, ¬ faults past (.removeMappings names)) :
    (deactivateLocked chain).attempt.Ensures (conduct faults) past host
      fun result _ after ↦ result = .ok () ∧ chain.IsRemoved host after := by
  apply Task.ensures_liftM_bind
  refine chain.mappings_ensures.mono ?_
  rintro names past host ⟨rfl, isPadded, rfl, hpadded⟩
  apply Task.ensures_liftM_bind
  apply Program.ensures_perform
  intro result after hstep
  cases result with
  | error failure =>
    obtain ⟨hfault, -⟩ | ⟨hmissing, name, hremoves⟩ := hstep
    · exact absurd hfault (hfaults _ _)
    · dsimp only
      rw [if_pos (saysGone_of_reportsMissing hmissing)]
      exact Program.ensures_done ⟨rfl, isRemoved_of_removes hpadded hremoves⟩
  | ok value => exact Program.ensures_done ⟨rfl, isRemoved_of_removes hpadded hstep⟩

theorem deactivate_ensures (hfaults : faults.OnlyOfLock) :
    (deactivate chain).attempt.Ensures (conduct faults) [] host fun result _ after ↦
      (result = .ok () ∧ chain.IsRemoved host after) ∨
      (result ≠ .ok () ∧ after = host ∧ faults [] (.acquireLock chain.lockPath)) := by
  have hremoves (past : History Devices) (names : List String) :
      ¬ faults past (.removeMappings names) := by
    intro hfault
    obtain ⟨path, hequal⟩ := hfaults _ _ hfault
    cases hequal
  refine withLock_ensures (fun past ↦ ?_) ?_
  · apply (chain.deactivateLocked_ensures hremoves).mono
    intro result past after hremoved
    exact .inl hremoved
  · intro failure hfault
    exact .inr ⟨(fun hok ↦ nomatch hok), rfl, hfault⟩

/-- A deactivation that gets the lock succeeds, and removes the snapshot. The padded base goes with
it, but stays when there was no snapshot. Nothing else changes, and another deactivation that gets
the lock succeeds as well and changes nothing at all. -/
theorem deactivate_removes (hfaults : faults.OnlyOfLock) {history : History Devices}
    {result : Option (Except Failure Unit)}
    (hrun : chain.deactivate.attempt.IsRun history result)
    (hallows : (conduct faults).Allows [] host history after) :
    ∃ outcome, result = some outcome ∧
      (outcome ≠ .ok () → after = host ∧ faults [] (.acquireLock chain.lockPath)) ∧
      (outcome = .ok () →
        chain.devicePath ∉ after.nodes ∧
        (chain.paddedBasePath ∈ after.nodes ↔
          chain.paddedBasePath ∈ host.nodes ∧ chain.devicePath ∉ host.nodes) ∧
        (∀ path, path ≠ chain.devicePath → path ≠ chain.paddedBasePath →
          (path ∈ after.nodes ↔ path ∈ host.nodes)) ∧
        ∀ again later ended, chain.deactivate.attempt.IsRun again later →
          (conduct faults).Allows [] after again ended →
            ended = after ∧ (later = some (.ok ()) ∨ faults [] (.acquireLock chain.lockPath))) := by
  obtain ⟨outcome, rfl, ⟨rfl, hremoved⟩ | ⟨hfailed, hunchanged⟩⟩ :=
    chain.deactivate_ensures hfaults hrun hallows
  · refine ⟨_, rfl, fun hfailed ↦ absurd rfl hfailed, fun _ ↦ ?_⟩
    refine ⟨hremoved.devicePath_notMem, hremoved.paddedBasePath_mem_iff, ?_, ?_⟩
    · intro path hdevice hpadded
      exact hremoved.mem_iff hdevice hpadded
    · intro again later ended hagain hallowed
      obtain ⟨_, rfl, ⟨rfl, hnothing⟩ | ⟨-, hended, hfault⟩⟩ :=
        chain.deactivate_ensures hfaults hagain hallowed
      · exact ⟨hnothing.whenMissing hremoved.devicePath_notMem, .inl rfl⟩
      · exact ⟨hended, .inr hfault⟩
  · exact ⟨outcome, rfl, fun _ ↦ hunchanged, fun hok ↦ absurd hok hfailed⟩

/-- Both mappings are removed where both are there. -/
theorem deactivate_both_removes :
    let chain : Chain := ⟨"abc", "/run/lock", 8⟩
    ∃ host history after, host.nodes = {chain.devicePath, chain.paddedBasePath} ∧
      chain.deactivate.attempt.IsRun history (some (.ok ())) ∧
      (conduct fun _ _ ↦ False).Allows [] host history after ∧
      chain.devicePath ∉ after.nodes ∧ chain.paddedBasePath ∉ after.nodes := by
  intro chain
  let host : HostDevices :=
    ⟨{chain.devicePath, chain.paddedBasePath}, fun _ ↦ none, fun _ ↦ 0, fun _ ↦ false⟩
  have hpadded : chain.paddedBasePath ∈ host.nodes := .inr rfl
  have hbelow : chain.paddedBasePath ∈ (host.remove chain.devicePath).nodes :=
    ⟨hpadded, chain.devicePath_ne_paddedBasePath.symm⟩
  let history : History Devices :=
    [⟨.acquireLock chain.lockPath, .ok ()⟩,
      ⟨.mappingExists (paddedBaseName chain.uid), true⟩,
      ⟨.removeMappings (chain.mappingNames true), .ok ()⟩,
      ⟨.releaseLock chain.lockPath, ()⟩]
  have hrun : chain.deactivate.attempt.IsRun history (some (.ok ())) := by
    iterate 4 refine .ask _ ?_
    exact .done _
  have hallows : (conduct fun _ _ ↦ False).Allows [] host history
      ((host.remove chain.devicePath).remove chain.paddedBasePath) := by
    refine .cons rfl ?_
    refine .cons ⟨⟨fun _ ↦ hpadded, fun _ ↦ rfl⟩, rfl⟩ ?_
    refine .cons (Removes.present (.inl rfl) (Removes.present hbelow (.nil _))) ?_
    refine .cons rfl ?_
    exact .nil _ _
  obtain ⟨outcome, houtcome, -, hremoved⟩ :=
    chain.deactivate_removes (fun _ _ hfault ↦ hfault.elim) hrun hallows
  obtain ⟨hdevice, hiff, -⟩ := hremoved (Option.some.inj houtcome).symm
  refine ⟨host, history, _, rfl, hrun, hallows, hdevice, fun hmem ↦ ?_⟩
  exact (hiff.1 hmem).2 (.inl rfl)

/-- A removal that stops at a mapping that is missing counts as a success. -/
theorem isRun_deactivateLocked_missing (isPadded : Bool) {failure : Failure}
    (hmissing : ReportsMissing failure) :
    (deactivateLocked chain).attempt.IsRun
      [⟨.mappingExists (paddedBaseName chain.uid), isPadded⟩,
        ⟨.removeMappings (chain.mappingNames isPadded), .error failure⟩] (some (.ok ())) := by
  have habsorbed : (Task.attempt (if saysGone failure.message then pure () else
      Task.of (.done (.error (.within .removingSnapshot failure)))) : Program Devices _).IsRun []
        (some (.ok ())) := by
    rw [if_pos (saysGone_of_reportsMissing hmissing)]
    exact .done _
  cases isPadded with
  | false =>
    iterate 2 refine .ask _ ?_
    exact habsorbed
  | true =>
    iterate 2 refine .ask _ ?_
    exact habsorbed

/-- A padded base alone is still there after a deactivation that succeeded. -/
theorem deactivate_leaves_paddedBase :
    let chain : Chain := ⟨"abc", "/run/lock", 8⟩
    Machine.checkUid chain.uid = .ok () ∧
    ∃ host history after, host.nodes = {chain.paddedBasePath} ∧
      chain.deactivate.attempt.IsRun history (some (.ok ())) ∧
      (conduct fun _ _ ↦ False).Allows [] host history after ∧
      chain.paddedBasePath ∈ after.nodes := by
  intro chain
  let host : HostDevices := ⟨{chain.paddedBasePath}, fun _ ↦ none, fun _ ↦ 0, fun _ ↦ false⟩
  let failure : Failure := .cause (.commandFailed "dmsetup remove fcspawn-abc fcspawn-abc-base"
    "device-mapper: remove ioctl on fcspawn-abc failed: No such device or address")
  have hmissing : ReportsMissing failure := by
    decide +kernel
  refine ⟨by decide, host, [⟨.acquireLock chain.lockPath, .ok ()⟩,
      ⟨.mappingExists (paddedBaseName chain.uid), true⟩,
      ⟨.removeMappings (chain.mappingNames true), .error failure⟩,
      ⟨.releaseLock chain.lockPath, ()⟩], host, rfl, ?_, ?_, rfl⟩
  · exact isRun_withLock (chain.isRun_deactivateLocked_missing true hmissing)
  · refine .cons rfl ?_
    refine .cons ⟨⟨fun _ ↦ rfl, fun _ ↦ rfl⟩, rfl⟩ ?_
    refine .cons (.inr ⟨hmissing, snapshotName chain.uid, .missing ?_⟩) ?_
    · exact chain.devicePath_ne_paddedBasePath
    refine .cons rfl ?_
    exact .nil _ _

/-! ## No crash -/

theorem deactivateLocked_not_halts (chain : Chain) {history : History Devices} :
    ¬ chain.deactivateLocked.attempt.IsRun history none := by
  intro hrun
  obtain ⟨names, before, after, -, -, hrun⟩ | ⟨hcrash, -⟩ := Task.isRun_liftM_bind_iff.1 hrun
  · obtain ⟨result, before, after, -, -, hrun⟩ | ⟨hcrash, -⟩ := Task.isRun_liftM_bind_iff.1 hrun
    · cases result with
      | ok value => cases hrun
      | error failure =>
        dsimp only at hrun
        split at hrun
        · cases hrun
        · cases hrun
    · obtain ⟨_, -, hnone⟩ := Program.isRun_perform_iff.1 hcrash
      cases hnone
  · obtain ⟨found, rest, -, hrest⟩ := Program.isRun_ask_iff.1 hcrash
    cases found with
    | false => cases hrest
    | true => cases hrest

/-- A deactivation may fail but it does not crash. -/
theorem deactivate_not_halts (chain : Chain) {history : History Devices} :
    ¬ chain.deactivate.attempt.IsRun history none := by
  intro hrun
  obtain ⟨_, before, after, -, -, hrun⟩ | ⟨_, -, hnone⟩ | ⟨hcrash, -⟩ := Task.isRun_bind_iff.1 hrun
  · obtain ⟨result, before, after, -, -, hrun⟩ | ⟨hcrash, -⟩ := Task.isRun_liftM_bind_iff.1 hrun
    · obtain ⟨_, before, after, -, -, hend⟩ | ⟨hcrash, -⟩ := Task.isRun_liftM_bind_iff.1 hrun
      · cases hend
      · obtain ⟨_, -, hnone⟩ := Program.isRun_perform_iff.1 hcrash
        cases hnone
    · exact chain.deactivateLocked_not_halts hcrash
  · cases hnone
  · obtain ⟨_, -, hnone⟩ := Program.isRun_perform_iff.1 hcrash
    cases hnone

end Chain

end MicroVm.Storage

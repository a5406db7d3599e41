import MicroVm.Proofs.Run.Milestones
import MicroVm.Proofs.Storage.Overlay
import MicroVm.Proofs.Storage.Release

/-!
# What a run leaves behind

A run makes no calls on devices before it has its network. From then on it releases what it has,
whichever way it ends: the task of each responder that was started is aborted by its handle, and the
root device is deactivated once, after the supervisor if there was one. If locking, removing and
detaching do not fail, then nothing is left of a root device that was activated, whether the run has
built it or has found it.
-/

namespace MicroVm.Run

open MicroVm.Host MicroVm.Hypervisor MicroVm.Machine MicroVm.Network MicroVm.Storage

/-! ## Calls on devices -/

/-- The call on devices that an event is. -/
def deviceEvent? : Event Surroundings → Option (Event Devices)
  | ⟨.device request, answer⟩ => some ⟨request, answer⟩
  | _ => none

/-- The calls on devices, in order. -/
def deviceEvents (history : History Surroundings) : History Devices :=
  history.filterMap deviceEvent?

section DeviceEvents

variable {history rest : History Surroundings}

@[simp]
theorem deviceEvents_append :
    deviceEvents (history ++ rest) = deviceEvents history ++ deviceEvents rest :=
  List.filterMap_append

theorem deviceEvents_eq_nil_iff :
    deviceEvents history = [] ↔ ∀ event ∈ history, deviceEvent? event = none :=
  List.filterMap_eq_nil_iff

@[simp]
theorem deviceEvents_map_deviceEvent (asked : History Devices) :
    deviceEvents (asked.map Surroundings.deviceEvent) = asked := by
  unfold deviceEvents
  rw [List.filterMap_map]
  exact List.filterMap_some

@[simp]
theorem deviceEvents_map_fileEvent (asked : History Files) :
    deviceEvents (asked.map Surroundings.fileEvent) = [] :=
  deviceEvents_eq_nil_iff.2 (List.forall_mem_map.2 fun _ _ ↦ rfl)

@[simp]
theorem deviceEvents_map_linkEvent (asked : History Links) :
    deviceEvents (asked.map Surroundings.linkEvent) = [] :=
  deviceEvents_eq_nil_iff.2 (List.forall_mem_map.2 fun _ _ ↦ rfl)

theorem AreStarted.deviceEvents_eq_nil {responders : List Dhcp.AnyResponder}
    {handles : List TaskHandle} (hstarted : AreStarted responders handles history) :
    deviceEvents history = [] := by
  induction hstarted with
  | nil => rfl
  | cons _ _ ih => exact ih

@[simp]
theorem deviceEvents_abortEvents (handles : List TaskHandle) :
    deviceEvents (abortEvents handles) = [] :=
  deviceEvents_eq_nil_iff.2 (List.forall_mem_map.2 fun _ _ ↦ rfl)

end DeviceEvents

namespace Runner

variable {runner : Runner} {id device : String} {record : Record} {network : NetworkSetup}
  {handles : List TaskHandle} {failure : Failure} {history before events : History Surroundings}
  {result : Option (Except Failure Unit)}

/-! ## Providing network and storage -/

theorem deviceEvents_provideNetwork {result : Option (Except Failure NetworkSetup)}
    (hrun : (runner.provideNetwork record).attempt.IsRun history result) :
    deviceEvents history = [] := by
  have hlinks {α : Type} {task : Task Links α} (history : History Surroundings)
      (result : Option (Except Failure α))
      (hrun : (Surroundings.onLinks task).attempt.IsRun history result) :
      ∀ event ∈ history, deviceEvent? event = none := by
    obtain ⟨asked, rfl, -⟩ := Surroundings.isRun_onLinks_iff.1 hrun
    exact deviceEvents_eq_nil_iff.1 (deviceEvents_map_linkEvent asked)
  refine deviceEvents_eq_nil_iff.2 (forall_mem_of_isRun_bind hlinks ?_ hrun)
  intro candidates _ _ hrun
  refine forall_mem_of_isRun_bind ?_ (fun dns ↦ hlinks) hrun
  intro history result hrun
  obtain ⟨asked, rfl, -⟩ := Surroundings.isRun_onFiles_iff.1 hrun
  exact deviceEvents_eq_nil_iff.1 (deviceEvents_map_fileEvent asked)

theorem HasNetwork.deviceEvents_eq_nil
    (hbefore : runner.HasNetwork id record network handles before) : deviceEvents before = [] := by
  obtain ⟨-, hprovided, hstarted⟩ := hbefore
  rw [deviceEvents_append, deviceEvents_append, deviceEvents_provideNetwork hprovided,
    hstarted.deviceEvents_eq_nil]
  rfl

theorem HasNetwork.starts_eq (hbefore : runner.HasNetwork id record network handles before) :
    starts before = (responders network runner.settings.dhcpv6).zip handles := by
  obtain ⟨-, hprovided, hstarted⟩ := hbefore
  rw [starts_append, starts_append, (isHostHistory_provideNetwork hprovided).starts_eq_nil,
    hstarted.starts_eq]
  rfl

/-- The calls that provide storage are the activation, after a look at the image. -/
theorem exists_activation
    (hrun : (runner.provideStorage record).attempt.IsRun history (some (.ok device))) :
    ∃ looked activation, deviceEvents history = looked ++ activation ∧
      (∀ event ∈ looked, DeviceRequest.changesNodes event.request = false) ∧
      ((runner.chain record).activate (runner.layout.imageFile record.status.image.id)
        (runner.layout.overlayFile record.uid)).attempt.IsRun activation (some (.ok device)) := by
  unfold provideStorage at hrun
  obtain ⟨_, measured, _, rfl, hmeasured, hrest⟩ := Task.isRun_bind_ok_iff.1 hrun
  obtain ⟨_, ensured, activated, rfl, hensured, hactivated⟩ := Task.isRun_bind_ok_iff.1 hrest
  obtain ⟨looked, rfl, hlooked⟩ := Surroundings.isRun_onDisks_iff.1 hmeasured
  obtain ⟨sized, rfl, -⟩ := Surroundings.isRun_onFiles_iff.1 hensured
  obtain ⟨activation, rfl, hactivation⟩ := Surroundings.isRun_onDevices_iff.1 hactivated
  refine ⟨deviceEvents (looked.map Surroundings.diskEvent), activation, ?_, ?_, hactivation⟩
  · simp only [deviceEvents_append, deviceEvents_map_fileEvent, deviceEvents_map_deviceEvent,
      List.nil_append]
  · cases sizeRun_of_isRun hlooked with
    | device => exact List.forall_mem_cons.2 ⟨rfl, List.forall_mem_singleton.2 rfl⟩
    | file => exact List.forall_mem_singleton.2 rfl

/-- Whether an image was found to be a block device of 2^64 bytes or more. -/
def IsImageTooLarge (runner : Runner) (record : Record) (history : History Surroundings) : Prop :=
  ∃ sectors, (⟨.sizeSectors (runner.layout.imageFile record.status.image.id), .ok sectors⟩ :
    Event Devices) ∈ deviceEvents history ∧ UInt64.size ≤ sectors * 512

theorem isImageTooLarge_of_crash
    (hcrash : (runner.provideStorage record).attempt.IsRun history none) :
    runner.IsImageTooLarge record history := by
  unfold provideStorage at hcrash
  obtain ⟨_, measured, _, rfl, -, hrest⟩ | ⟨_, -, hnone⟩ | ⟨hmeasured, -⟩ :=
    Task.isRun_bind_iff.1 hcrash
  · obtain ⟨_, ensured, _, rfl, -, hactivated⟩ | ⟨_, -, hnone⟩ | ⟨hensured, -⟩ :=
      Task.isRun_bind_iff.1 hrest
    · obtain ⟨activation, -, hactivation⟩ := Surroundings.isRun_onDevices_iff.1 hactivated
      exact absurd hactivation (runner.chain record).activate_not_halts
    · cases hnone
    · obtain ⟨sized, -, hsized⟩ := Surroundings.isRun_onFiles_iff.1 hensured
      exact absurd hsized ensureOverlay_not_halts
  · cases hnone
  · obtain ⟨looked, rfl, hlooked⟩ := Surroundings.isRun_onDisks_iff.1 hmeasured
    cases sizeRun_of_isRun hlooked with
    | overflow overflows => exact ⟨_, List.mem_cons_of_mem _ List.mem_cons_self, overflows⟩

/-! ## Release -/

/-- Whether a run has got its network for the record that it has loaded. -/
def IsProvisioned (runner : Runner) (id : String) (record : Record)
    (history : History Surroundings) : Prop :=
  ∃ network handles before, runner.HasNetwork id record network handles before ∧
    before <+: history

/-- A run with a network that releases what it has. It calls devices to provide storage and once to
deactivate the root device, with the tasks of its responders aborted before. From the deactivation
on, no supervisor is started. -/
inductive ReleasesOnce (runner : Runner) (id : String) :
    Record → Except Failure String → History Surroundings → Prop
  | intro {record : Record} {network : NetworkSetup} {handles : List TaskHandle}
      {root : Except Failure String} {start storage between release last : History Surroundings}
      {released : Except Failure Unit} (before : runner.HasNetwork id record network handles start)
      (startQuiet : deviceEvents start = [])
      (provided : (runner.provideStorage record).attempt.IsRun storage (some root))
      (betweenQuiet : deviceEvents between = [])
      (deactivated : (Surroundings.onDevices (runner.chain record).deactivate).attempt.IsRun release
        (some released))
      (lastQuiet : deviceEvents last = []) (noSupervisor : supervisions (release ++ last) = [])
      (noResponders : starts (storage ++ (between ++ (release ++ last))) = []) :
      ReleasesOnce runner id record root
        (start ++ (storage ++ (between ++ (abortEvents handles ++ (release ++ last)))))

/-- A run has one record, one network and one handle for each responder. -/
theorem HasNetwork.eq_of_prefix {other : Record} {taken : NetworkSetup} {others : List TaskHandle}
    {start : History Surroundings} (hbefore : runner.HasNetwork id record network handles before)
    (hbegins : before <+: history) (hstart : runner.HasNetwork id other taken others start)
    (hother : start <+: history) : record = other ∧ network = taken ∧ handles = others := by
  obtain ⟨rest, rfl⟩ := hbegins
  obtain ⟨later, hsplit⟩ := hother
  exact hbefore.eq_of_append hstart hsplit.symm

theorem IsProvisioned.eq_record {other : Record}
    (hprovisioned : runner.IsProvisioned id record history)
    (hother : runner.IsProvisioned id other history) : other = record := by
  obtain ⟨_, _, _, hbefore, hbegins⟩ := hprovisioned
  obtain ⟨_, _, _, hstart, hothers⟩ := hother
  exact (hstart.eq_of_prefix hothers hbefore hbegins).1

/-- A run in which the network was not provided has none. -/
theorem not_isProvisioned_of_provideNetwork {other : Record}
    {outcome : Option (Except Failure NetworkSetup)}
    (hrun : (runner.provideNetwork record).attempt.IsRun events outcome)
    (hfails : ∀ network, outcome ≠ some (.ok network)) :
    ¬ runner.IsProvisioned id other ([⟨.load id, .ok record⟩] ++ events) := by
  rintro ⟨network, _, _, ⟨-, hprovided, -⟩, rest, hsplit⟩
  rw [List.append_assoc, List.append_assoc] at hsplit
  obtain ⟨hload, hevents⟩ := List.cons.inj hsplit
  cases hload
  obtain ⟨-, rfl⟩ := hprovided.eq_of_append hrun (hevents.trans (List.append_nil events).symm)
  exact hfails network rfl

theorem FailsEarly.not_isProvisioned (hfails : runner.FailsEarly id history failure) :
    ¬ runner.IsProvisioned id record history := by
  cases hfails with
  | load =>
    rintro ⟨_, _, _, ⟨-, -, -⟩, _, hsplit⟩
    cases hsplit
  | unfit hunfit =>
    rintro ⟨_, _, _, ⟨hfit, -, -⟩, _, hsplit⟩
    obtain ⟨hload, -⟩ := List.cons.inj hsplit
    cases hload
    rw [hfit] at hunfit
    cases hunfit
  | network _ hfailed =>
    exact not_isProvisioned_of_provideNetwork hfailed fun _ hsome ↦ nomatch hsome

theorem ReleasesOnce.isProvisioned {root : Except Failure String}
    (hreleases : runner.ReleasesOnce id record root history) :
    runner.IsProvisioned id record history := by
  obtain ⟨hbefore⟩ := hreleases
  exact ⟨_, _, _, hbefore, List.prefix_append _ _⟩

/-- The responders that a run starts are those of its leases. -/
theorem ReleasesOnce.starts_eq {root : Except Failure String}
    (hreleases : runner.ReleasesOnce id record root history) {other : Record}
    (hbefore : runner.HasNetwork id other network handles before) (hbegins : before <+: history) :
    starts history = (responders network runner.settings.dhcpv6).zip handles := by
  obtain ⟨hstart, -, -, -, -, -, -, hnone⟩ := hreleases
  obtain ⟨-, rfl, rfl⟩ := hstart.eq_of_prefix (List.prefix_append _ _) hbefore hbegins
  simp only [starts_append, starts_abortEvents, List.nil_append] at hnone ⊢
  rw [hnone, hstart.starts_eq, List.append_nil]

/-- The task of a responder that was started is aborted later. -/
theorem ReleasesOnce.mem_aborts {root : Except Failure String} {responder : Dhcp.AnyResponder}
    {handle : TaskHandle} {after : History Surroundings}
    (hreleases : runner.ReleasesOnce id record root history)
    (hsplit : history = before ++ ⟨.startResponder responder, handle⟩ :: after) :
    handle ∈ aborts after := by
  obtain ⟨hstart, -, -, -, -, -, -, hnone⟩ := hreleases
  simp only [starts_append] at hnone
  obtain ⟨middle, rfl, rfl⟩ := exists_append_of_notMem_right (startResponder_notMem
    (by simp only [starts_append, starts_abortEvents, List.nil_append, hnone])) hsplit
  have hmem : (responder, handle) ∈ starts (before ++ ⟨.startResponder responder, handle⟩ ::
      middle) := by
    rw [starts_append]
    exact List.mem_append_right _ List.mem_cons_self
  rw [hstart.starts_eq] at hmem
  simp only [aborts_append, aborts_abortEvents]
  refine List.mem_append_right _ (List.mem_append_right _ (List.mem_append_right _ ?_))
  exact List.mem_append_left _ (List.of_mem_zip hmem).2

/-- After a look at the image, the calls of a run with a root device are those of an activation and
a deactivation. -/
theorem ReleasesOnce.exists_deviceEvents_eq
    (hreleases : runner.ReleasesOnce id record (.ok device) history) :
    ∃ looked activation deactivation released,
      deviceEvents history = looked ++ (activation ++ deactivation) ∧
      (∀ event ∈ looked, DeviceRequest.changesNodes event.request = false) ∧
      ((runner.chain record).activate (runner.layout.imageFile record.status.image.id)
        (runner.layout.overlayFile record.uid)).attempt.IsRun activation (some (.ok device)) ∧
      (runner.chain record).deactivate.attempt.IsRun deactivation (some released) := by
  obtain ⟨-, hstart, hprovided, hbetween, hdeactivated, hlast, -, -⟩ := hreleases
  obtain ⟨looked, activation, hstorage, hlooked, hactivated⟩ := exists_activation hprovided
  obtain ⟨deactivation, rfl, hdeactivation⟩ := Surroundings.isRun_onDevices_iff.1 hdeactivated
  refine ⟨looked, activation, deactivation, _, ?_, hlooked, hactivated, hdeactivation⟩
  simp only [deviceEvents_append, deviceEvents_abortEvents, hstart, hstorage, hbetween, hlast,
    deviceEvents_map_deviceEvent, List.nil_append, List.append_nil, List.append_assoc]

/-- A run that releases an activated root device leaves nothing of it. -/
theorem ReleasesOnce.isCleared {faults : FaultPattern} {host after : HostDevices}
    (hreleases : runner.ReleasesOnce id record (.ok device) history)
    (hfaults : faults.SparesRelease)
    (hallows : (HostDevices.conduct faults).Allows [] host (deviceEvents history) after) :
    (runner.chain record).IsCleared host (deviceEvents history) after := by
  obtain ⟨looked, activation, deactivation, released, hevents, hlooked, hactivated, hdeactivated⟩ :=
    hreleases.exists_deviceEvents_eq
  rw [hevents] at hallows ⊢
  obtain ⟨middle, hlook, hrest⟩ := Conduct.allows_append_iff.1 hallows
  obtain rfl := eq_self_of_allows hlooked hlook
  exact ((runner.chain record).isCleared_of_isRun hfaults hactivated hdeactivated hrest).later
    hlooked

/-! ## Ways to end -/

theorem IsReleased.releasesOnce {root : Except Failure String}
    {storage between : History Surroundings}
    (hbefore : runner.HasNetwork id record network handles before)
    (hprovided : (runner.provideStorage record).attempt.IsRun storage (some root))
    (hbetween : deviceEvents between = []) (hnone : starts between = [])
    (hreleased : runner.IsReleased record handles events) :
    runner.ReleasesOnce id record root (before ++ (storage ++ (between ++ events))) := by
  obtain ⟨release, released, rfl, hdeactivated⟩ := hreleased
  have hhost := Surroundings.isHostHistory_onDevices hdeactivated
  have hstarts : starts (storage ++ (between ++ release)) = [] := by
    simp only [starts_append, (isHostHistory_provideStorage hprovided).starts_eq_nil, hnone,
      hhost.starts_eq_nil, List.nil_append]
  have hlast := List.append_nil release
  rw [← hlast] at hhost hstarts
  have hreleases := ReleasesOnce.intro hbefore hbefore.deviceEvents_eq_nil hprovided hbetween
    hdeactivated rfl hhost.isQuiet.supervisions_eq_nil hstarts
  rwa [hlast] at hreleases

theorem FailsLate.releasesOnce (hfails : runner.FailsLate id record handles history failure)
    (hreleased : runner.IsReleased record handles events) :
    ∃ root, runner.ReleasesOnce id record root (history ++ events) := by
  cases hfails with
  | storage hbefore hfailed =>
    rw [List.append_assoc]
    exact ⟨_, hreleased.releasesOnce hbefore hfailed (rfl : deviceEvents [] = []) rfl⟩
  | signals hroot =>
    obtain ⟨hbefore, hprovided⟩ := hroot
    rw [List.append_assoc, List.append_assoc]
    exact ⟨_, hreleased.releasesOnce hbefore hprovided rfl rfl⟩
  | save hroot =>
    obtain ⟨hbefore, hprovided⟩ := hroot
    rw [List.append_assoc, List.append_assoc]
    exact ⟨_, hreleased.releasesOnce hbefore hprovided rfl rfl⟩

/-- From the supervisor on, the only calls on devices are those of one deactivation. -/
theorem IsSupervised.releasesOnce {root : String} {now : Timestamp} {config : BootConfig}
    {ended : Supervised} {released saved : Except Failure Unit}
    (hsaved : runner.IsSaved id record network handles root now history)
    (hsupervised : runner.IsSupervised (runningRecord record network now) handles config events
      ended released saved) :
    runner.ReleasesOnce id record (.ok root) (history ++ events) := by
  obtain ⟨now, @⟨_, storage, hbefore, hprovided⟩⟩ := hsaved
  obtain ⟨ended, release, saved, hdeactivated⟩ := hsupervised
  have hhost := Surroundings.isHostHistory_onDevices hdeactivated
  let running := runningRecord record network now
  let between : History Surroundings := [⟨.captureSignals, .ok ()⟩, ⟨.today, now⟩,
    ⟨.save running, .ok ()⟩, ⟨.supervise running.uid config, ended⟩]
  have hbetween : deviceEvents between = [] := rfl
  have hlast : supervisions (release ++ [⟨.save (stoppedRecord running), saved⟩]) = [] := by
    rw [supervisions_append, hhost.isQuiet.supervisions_eq_nil]
    rfl
  have hstarts : starts (storage ++ (between ++ (release ++
      [⟨.save (stoppedRecord running), saved⟩]))) = [] := by
    simp only [starts_append, (isHostHistory_provideStorage hprovided).starts_eq_nil,
      hhost.starts_eq_nil, List.nil_append]
    rfl
  have hreleases := ReleasesOnce.intro hbefore hbefore.deviceEvents_eq_nil hprovided hbetween
    hdeactivated rfl hlast hstarts
  rw [List.append_assoc, List.append_assoc]
  exact hreleases

/-- A run that fails before its network is there has started no responder. -/
theorem FailsEarly.starts_eq_nil (hfails : runner.FailsEarly id history failure) :
    starts history = [] := by
  cases hfails with
  | load => rfl
  | unfit => rfl
  | network _ hfailed =>
    rw [starts_append, (isHostHistory_provideNetwork hfailed).starts_eq_nil]
    rfl

/-- A run that fails before its network is there has made no calls on devices. -/
theorem FailsEarly.deviceEvents_eq_nil (hfails : runner.FailsEarly id history failure) :
    deviceEvents history = [] := by
  cases hfails with
  | load => rfl
  | unfit => rfl
  | network _ hfailed =>
    rw [deviceEvents_append, deviceEvents_provideNetwork hfailed]
    rfl

/-- A run has no network and has touched no device, or it has crashed on the size of its image, or
it has released what it had. -/
theorem Course.ends (hcourse : runner.Course id history result) :
    ((∀ record, ¬ runner.IsProvisioned id record history) ∧ starts history = [] ∧
      deviceEvents history = []) ∨
    (∃ record, runner.IsProvisioned id record history ∧ runner.IsImageTooLarge record history ∧
      result = none) ∨
    (∃ record root, runner.ReleasesOnce id record root history ∧ result ≠ none) := by
  have hended {outcome : Except Failure Unit} : some outcome ≠ none := fun hnone ↦ nomatch hnone
  cases hcourse with
  | crashes hcrashes =>
    cases hcrashes with
    | network _ hcrashed =>
      refine .inl ⟨fun _ ↦ ?_, ?_, ?_⟩
      · exact not_isProvisioned_of_provideNetwork hcrashed fun _ hsome ↦ nomatch hsome
      · rw [starts_append, (isHostHistory_provideNetwork hcrashed).starts_eq_nil]
        rfl
      · rw [deviceEvents_append, deviceEvents_provideNetwork hcrashed]
        rfl
    | storage hbefore hcrashed =>
      obtain ⟨sectors, hmem, hlarge⟩ := isImageTooLarge_of_crash hcrashed
      refine .inr (.inl ⟨_, ⟨_, _, _, hbefore, List.prefix_append _ _⟩, ⟨sectors, ?_, hlarge⟩, rfl⟩)
      rw [deviceEvents_append]
      exact List.mem_append_right _ hmem
  | failsEarly hfails =>
    exact .inl ⟨fun _ ↦ hfails.not_isProvisioned, hfails.starts_eq_nil, hfails.deviceEvents_eq_nil⟩
  | failsLate hfails hreleased =>
    obtain ⟨root, hreleases⟩ := hfails.releasesOnce hreleased
    exact .inr (.inr ⟨_, root, hreleases, hended⟩)
  | tornDown hsaved hsupervised =>
    exact .inr (.inr ⟨_, _, hsupervised.releasesOnce hsaved, hended⟩)

/-- A run with a network starts a responder for each of its leases and protocols, in order, and no
others. -/
theorem Course.starts_eq (hcourse : runner.Course id history result)
    (hbefore : runner.HasNetwork id record network handles before) (hbegins : before <+: history) :
    starts history = (responders network runner.settings.dhcpv6).zip handles := by
  have hprovisioned : runner.IsProvisioned id record history := ⟨_, _, _, hbefore, hbegins⟩
  cases hcourse with
  | crashes hcrashes =>
    cases hcrashes with
    | network _ hcrashed =>
      exact absurd hprovisioned
        (not_isProvisioned_of_provideNetwork hcrashed fun _ hsome ↦ nomatch hsome)
    | storage hstart hcrashed =>
      obtain ⟨-, rfl, rfl⟩ := hstart.eq_of_prefix (List.prefix_append _ _) hbefore hbegins
      rw [starts_append, hstart.starts_eq, (isHostHistory_provideStorage hcrashed).starts_eq_nil,
        List.append_nil]
  | failsEarly hfails => exact absurd hprovisioned hfails.not_isProvisioned
  | failsLate hfails hreleased =>
    obtain ⟨_, hreleases⟩ := hfails.releasesOnce hreleased
    exact hreleases.starts_eq hbefore hbegins
  | tornDown hsaved hsupervised =>
    exact (hsupervised.releasesOnce hsaved).starts_eq hbefore hbegins

/-! ## The protocol -/

/-- How a run releases what it has, and that it returns. -/
structure ReleaseProtocol (runner : Runner) (id : String) (history : History Surroundings)
    (result : Option (Except Failure Unit)) : Prop where
  untouched : (∀ record, ¬ runner.IsProvisioned id record history) → deviceEvents history = []
  released : ∀ record, runner.IsProvisioned id record history → result ≠ none →
    ∃ root, runner.ReleasesOnce id record root history
  /-- A responder is started for each lease and protocol, and for nothing else. -/
  respondersStarted : ∀ record network handles before,
    runner.HasNetwork id record network handles before → before <+: history →
      starts history = (responders network runner.settings.dhcpv6).zip handles
  /-- By the return of the run, the task of each responder that was started has been aborted. -/
  respondersAborted : result ≠ none → ∀ before responder handle after,
    history = before ++ ⟨.startResponder responder, handle⟩ :: after → handle ∈ aborts after
  /-- If the activation succeeded, and if nothing hinders the release, nothing is left on the
  host. -/
  cleared : ∀ record device, runner.ReleasesOnce id record (.ok device) history →
    ∀ faults host after, FaultPattern.SparesRelease faults →
      (HostDevices.conduct faults).Allows [] host (deviceEvents history) after →
      (runner.chain record).IsCleared host (deviceEvents history) after
  returns : ∀ record, runner.IsProvisioned id record history →
    ¬ runner.IsImageTooLarge record history → result ≠ none

/-- Every run keeps to the protocol, whatever fails in it. -/
theorem releaseProtocol_of_isRun (hrun : (runner.run id).attempt.IsRun history result) :
    runner.ReleaseProtocol id history result := by
  have hcleared : ∀ record device, runner.ReleasesOnce id record (.ok device) history →
      ∀ faults host after, FaultPattern.SparesRelease faults →
        (HostDevices.conduct faults).Allows [] host (deviceEvents history) after →
        (runner.chain record).IsCleared host (deviceEvents history) after :=
    fun _ _ hreleases _ _ _ ↦ hreleases.isCleared
  have hstarted : ∀ record network handles before,
      runner.HasNetwork id record network handles before → before <+: history →
        starts history = (responders network runner.settings.dhcpv6).zip handles :=
    fun _ _ _ _ ↦ (course_of_isRun hrun).starts_eq
  obtain ⟨hnever, hnone, hquiet⟩ | ⟨record, hprovisioned, hlarge, rfl⟩ |
    ⟨record, root, hreleases, hreturns⟩ := (course_of_isRun hrun).ends
  · exact {
      untouched := fun _ ↦ hquiet
      released := fun record hprovisioned ↦ absurd hprovisioned (hnever record)
      respondersStarted := hstarted
      respondersAborted := by
        rintro - before responder handle after rfl
        exact absurd (List.mem_append_right _ List.mem_cons_self) (startResponder_notMem hnone)
      cleared := hcleared
      returns := fun record hprovisioned ↦ absurd hprovisioned (hnever record) }
  · exact {
      untouched := fun hnot ↦ absurd hprovisioned (hnot record)
      released := fun _ _ hreturns ↦ absurd rfl hreturns
      respondersStarted := hstarted
      respondersAborted := fun hreturns ↦ absurd rfl hreturns
      cleared := hcleared
      returns := fun other hother hfits ↦ by
        obtain rfl := hprovisioned.eq_record hother
        exact absurd hlarge hfits }
  · exact {
      untouched := fun hnot ↦ absurd hreleases.isProvisioned (hnot record)
      released := fun other hother _ ↦ by
        obtain rfl := hreleases.isProvisioned.eq_record hother
        exact ⟨root, hreleases⟩
      respondersStarted := hstarted
      respondersAborted := fun _ _ _ _ _ ↦ hreleases.mem_aborts
      cleared := hcleared
      returns := fun _ _ _ ↦ hreturns }

/-! ## A supervisor that crashes -/

theorem isRun_removal :
    (Surroundings.onDevices (Sample.runner.chain Sample.record).deactivate).attempt.IsRun
      ((Operation.removal (Sample.runner.chain Sample.record)).map Surroundings.deviceEvent)
      (some (.ok ())) := by
  refine Surroundings.isRun_onDevices_iff.2 ⟨_, rfl, ?_⟩
  iterate 4 refine .ask _ ?_
  exact .done _

/-- A run that finds its root device, and the supervisor of which crashes. -/
theorem exists_crashed_supervisor :
    let chain := Sample.runner.chain Sample.record
    ∃ history,
      deviceEvents history = ⟨.isBlockDevice "/srv/image/i1/image.ext4", false⟩ ::
        ⟨.deviceExists "/dev/mapper/fcspawn-abc", true⟩ :: Operation.removal chain ∧
      starts history = [(.v4 (Dhcp.V4.responder Sample.lease), ⟨0⟩),
        (.v6 (Dhcp.V6.responder Sample.lease), ⟨1⟩)] ∧
      (Sample.runner.run "abc").attempt.IsRun history
        (some (.error (.cause (.supervisorCrashed "supervisor" "stack overflow")))) ∧
      Sample.runner.ReleasesOnce "abc" Sample.record (.ok "/dev/mapper/fcspawn-abc") history := by
  intro chain
  obtain ⟨before, hnetwork⟩ := Sample.exists_hasNetwork
  have hsaved := IsSaved.intro Sample.day (.intro hnetwork Sample.isRun_provideStorage)
  have hsupervised : Sample.runner.IsSupervised
      (runningRecord Sample.record Sample.network Sample.day) Sample.handles
      (Sample.runner.bootConfig Sample.record Sample.network "/dev/mapper/fcspawn-abc") _
      (.crashed "supervisor" "stack overflow") (.ok ()) (.ok ()) :=
    .intro _ _ _ isRun_removal
  have hreleases := hsupervised.releasesOnce hsaved
  refine ⟨_, ?_, hreleases.starts_eq hnetwork ?_, hsaved.isRun_iff.2 ⟨_, _, _, hsupervised, rfl⟩,
    hreleases⟩
  · simp only [deviceEvents_append, hnetwork.deviceEvents_eq_nil, deviceEvents_map_deviceEvent,
      deviceEvents_abortEvents]
    rfl
  · rw [List.append_assoc, List.append_assoc]
    exact List.prefix_append _ _

/-- Both responders of the lease are aborted by their handles although the supervisor crashes, and
nothing is left of the root device. -/
theorem releaseProtocol_of_crashed_supervisor :
    let chain := Sample.runner.chain Sample.record
    ∃ history result host after,
      result = some (.error (.cause (.supervisorCrashed "supervisor" "stack overflow"))) ∧
      (Sample.runner.run "abc").attempt.IsRun history result ∧
      Sample.runner.ReleaseProtocol "abc" history result ∧
      host.nodes = {chain.devicePath, chain.paddedBasePath} ∧
      (HostDevices.conduct fun _ _ ↦ False).Allows [] host (deviceEvents history) after ∧
      starts history = [(.v4 (Dhcp.V4.responder Sample.lease), ⟨0⟩),
        (.v6 (Dhcp.V6.responder Sample.lease), ⟨1⟩)] ∧
      ⟨0⟩ ∈ aborts history ∧ ⟨1⟩ ∈ aborts history ∧
      chain.IsCleared host (deviceEvents history) after := by
  intro chain
  obtain ⟨history, hcalls, hstarts, hrun, hreleases⟩ := exists_crashed_supervisor
  have hpath : "/dev/mapper/fcspawn-abc" = chain.devicePath := by decide
  let host : HostDevices :=
    ⟨{chain.devicePath, chain.paddedBasePath}, fun _ ↦ none, fun _ ↦ 0, fun _ ↦ false⟩
  have hallows : (HostDevices.conduct fun _ _ ↦ False).Allows [] host (deviceEvents history)
      ((host.remove chain.devicePath).remove chain.paddedBasePath) := by
    rw [hcalls]
    refine .cons ⟨rfl, rfl⟩ ?_
    refine .cons ⟨iff_of_true rfl (.inl hpath), rfl⟩ ?_
    exact Operation.allows_removal (.inl rfl) (.inr rfl)
  have hspares : FaultPattern.SparesRelease fun _ _ ↦ False :=
    ⟨fun _ _ ↦ id, fun _ _ ↦ id, fun _ _ ↦ id⟩
  have hprotocol := releaseProtocol_of_isRun hrun
  have haborted : ∀ started ∈ starts history, started.2 ∈ aborts history := by
    intro started hmem
    obtain ⟨before, after, hsplit⟩ := exists_append_of_mem_starts hmem
    have hlater := hprotocol.respondersAborted (Option.some_ne_none _) _ _ _ _ hsplit
    rw [hsplit, aborts_append]
    exact List.mem_append_right _ hlater
  rw [hstarts] at haborted
  obtain ⟨hfirst, hothers⟩ := List.forall_mem_cons.1 haborted
  have hsecond := List.forall_mem_singleton.1 hothers
  have hcleared := hprotocol.cleared _ _ hreleases _ host _ hspares hallows
  exact ⟨history, _, host, _, rfl, hrun, hprotocol, rfl, hallows, hstarts, hfirst, hsecond,
    hcleared⟩

end Runner

end MicroVm.Run

import MicroVm.Proofs.Run.ResponderTasks
import MicroVm.Proofs.Run.TeardownRuns
import MicroVm.Run.Lifecycle

/-!
# The courses of a run

A run can end in a few ways only: it crashes while network or storage is provided, it fails before
the responders are started, it fails after that and releases the storage, or it comes to the
supervisor and from there to the end of the teardown. Each of these ways is described by what is
asked in it, in order, together with the result.
-/

namespace MicroVm.Run

open MicroVm.Host MicroVm.Hypervisor MicroVm.Machine MicroVm.Network MicroVm.Storage

/-- The result of a run that came to its teardown. -/
def endResult (ended : Supervised) (released saved : Except Failure Unit) : Except Failure Unit :=
  match ended.result with
  | .ok () => (TeardownReport.empty.addAll (teardownOutcomes released saved)).result
  | .error failure => .error failure

namespace Runner

/-- The record that is saved once everything is provided. -/
def runningRecord (record : Record) (network : NetworkSetup) (now : Timestamp) : Record :=
  record.markRunning network.addresses now

/-- The beginning of a run up to the start of the last responder. -/
inductive HasNetwork (runner : Runner) (id : String) :
    Record → NetworkSetup → List TaskHandle → History Surroundings → Prop
  | intro {record : Record} {network : NetworkSetup} {handles : List TaskHandle}
      {events started : History Surroundings} (fit : checkRecord record = .ok ())
      (provided : (runner.provideNetwork record).attempt.IsRun events (some (.ok network)))
      (served : AreStarted (responders network runner.settings.dhcpv6) handles started) :
      HasNetwork runner id record network handles
        ([⟨.load id, .ok record⟩] ++ (events ++ started))

/-- The beginning of a run up to the root device. -/
inductive HasRoot (runner : Runner) (id : String) :
    Record → NetworkSetup → List TaskHandle → String → History Surroundings → Prop
  | intro {record : Record} {network : NetworkSetup} {handles : List TaskHandle} {root : String}
      {history events : History Surroundings}
      (before : runner.HasNetwork id record network handles history)
      (provided : (runner.provideStorage record).attempt.IsRun events (some (.ok root))) :
      HasRoot runner id record network handles root (history ++ events)

/-- The beginning of a run up to the start of the supervisor. -/
inductive IsSaved (runner : Runner) (id : String) :
    Record → NetworkSetup → List TaskHandle → String → Timestamp → History Surroundings → Prop
  | intro {record : Record} {network : NetworkSetup} {handles : List TaskHandle} {root : String}
      {history : History Surroundings} (now : Timestamp)
      (before : runner.HasRoot id record network handles root history) :
      IsSaved runner id record network handles root now
        (history ++ [⟨.captureSignals, .ok ()⟩, ⟨.today, now⟩,
          ⟨.save (runningRecord record network now), .ok ()⟩])

/-- What comes after a failure with responders to abort. -/
def IsReleased (runner : Runner) (record : Record) (handles : List TaskHandle)
    (history : History Surroundings) : Prop :=
  ∃ events released, history = abortEvents handles ++ events ∧
    (Surroundings.onDevices (runner.chain record).deactivate).attempt.IsRun events (some released)

/-- The beginning of a run up to a crash. -/
inductive Crashes (runner : Runner) (id : String) : History Surroundings → Prop
  | network {record : Record} {events : History Surroundings} (fit : checkRecord record = .ok ())
      (crashed : (runner.provideNetwork record).attempt.IsRun events none) :
      Crashes runner id ([⟨.load id, .ok record⟩] ++ events)
  | storage {record : Record} {network : NetworkSetup} {handles : List TaskHandle}
      {history events : History Surroundings}
      (before : runner.HasNetwork id record network handles history)
      (crashed : (runner.provideStorage record).attempt.IsRun events none) :
      Crashes runner id (history ++ events)

/-- The beginning of a run up to a step that fails with nothing to release. -/
inductive FailsEarly (runner : Runner) (id : String) : History Surroundings → Failure → Prop
  | load (failure : Failure) :
      FailsEarly runner id [⟨.load id, .error failure⟩] (.within (.loading id) failure)
  | unfit {record : Record} {failure : Failure} (unfit : checkRecord record = .error failure) :
      FailsEarly runner id [⟨.load id, .ok record⟩] failure
  | network {record : Record} {failure : Failure} {events : History Surroundings}
      (fit : checkRecord record = .ok ())
      (failed : (runner.provideNetwork record).attempt.IsRun events (some (.error failure))) :
      FailsEarly runner id ([⟨.load id, .ok record⟩] ++ events)
        (.within .provisioningNetwork failure)

/-- The beginning of a run up to a step that fails with responders running. -/
inductive FailsLate (runner : Runner) (id : String) :
    Record → List TaskHandle → History Surroundings → Failure → Prop
  | storage {record : Record} {network : NetworkSetup} {handles : List TaskHandle}
      {failure : Failure} {history events : History Surroundings}
      (before : runner.HasNetwork id record network handles history)
      (failed : (runner.provideStorage record).attempt.IsRun events (some (.error failure))) :
      FailsLate runner id record handles (history ++ events) (.within .provisioningStorage failure)
  | signals {record : Record} {network : NetworkSetup} {handles : List TaskHandle} {root : String}
      {failure : Failure} {history : History Surroundings}
      (before : runner.HasRoot id record network handles root history) :
      FailsLate runner id record handles (history ++ [⟨.captureSignals, .error failure⟩]) failure
  | save {record : Record} {network : NetworkSetup} {handles : List TaskHandle} {root : String}
      {failure : Failure} {history : History Surroundings} {now : Timestamp}
      (before : runner.HasRoot id record network handles root history) :
      FailsLate runner id record handles
        (history ++ [⟨.captureSignals, .ok ()⟩, ⟨.today, now⟩,
          ⟨.save (runningRecord record network now), .error failure⟩])
        (.within .savingRunning failure)

/-- What a run does with the supervisor and after it. -/
inductive IsSupervised (runner : Runner) (record : Record) (handles : List TaskHandle)
    (config : BootConfig) : History Surroundings → Supervised → Except Failure Unit →
    Except Failure Unit → Prop
  | intro (ended : Supervised) (events : History Surroundings) {released : Except Failure Unit}
      (saved : Except Failure Unit)
      (deactivated : (Surroundings.onDevices (runner.chain record).deactivate).attempt.IsRun events
        (some released)) :
      IsSupervised runner record handles config
        ([⟨.supervise record.uid config, ended⟩] ++ (abortEvents handles ++
          (events ++ [⟨.save (stoppedRecord record), saved⟩])))
        ended released saved

/-- The ways in which a run can go. -/
inductive Course (runner : Runner) (id : String) :
    History Surroundings → Option (Except Failure Unit) → Prop
  | crashes {history : History Surroundings} (crashed : runner.Crashes id history) :
      Course runner id history none
  | failsEarly {history : History Surroundings} {failure : Failure}
      (failed : runner.FailsEarly id history failure) :
      Course runner id history (some (.error failure))
  | failsLate {record : Record} {handles : List TaskHandle} {history events : History Surroundings}
      {failure : Failure} (failed : runner.FailsLate id record handles history failure)
      (release : runner.IsReleased record handles events) :
      Course runner id (history ++ events) (some (.error failure))
  | tornDown {record : Record} {network : NetworkSetup} {handles : List TaskHandle} {root : String}
      {now : Timestamp} {history events : History Surroundings} {ended : Supervised}
      {released saved : Except Failure Unit}
      (before : runner.IsSaved id record network handles root now history)
      (supervised : runner.IsSupervised (runningRecord record network now) handles
        (runner.bootConfig record network root) events ended released saved) :
      Course runner id (history ++ events) (some (endResult ended released saved))

variable {runner : Runner} {id root : String} {record : Record} {network : NetworkSetup}
  {handles : List TaskHandle} {config : BootConfig} {failure : Failure}
  {history before rest : History Surroundings} {result : Option (Except Failure Unit)}

/-- A run gets its network at one place only. -/
theorem HasNetwork.eq_of_append {other : Record} {taken : NetworkSetup} {others : List TaskHandle}
    {start later : History Surroundings}
    (hbefore : runner.HasNetwork id record network handles before)
    (hstart : runner.HasNetwork id other taken others start)
    (hwhole : before ++ rest = start ++ later) :
    record = other ∧ network = taken ∧ handles = others := by
  obtain ⟨-, hprovided, hstarted⟩ := hbefore
  obtain ⟨-, htaken, hothers⟩ := hstart
  rw [List.append_assoc, List.append_assoc, List.append_assoc, List.append_assoc] at hwhole
  obtain ⟨hload, hevents⟩ := List.cons.inj hwhole
  cases hload
  obtain ⟨rfl, hequal⟩ := hprovided.eq_of_append htaken hevents
  obtain rfl := Except.ok.inj (Option.some.inj hequal)
  exact ⟨rfl, rfl, hstarted.eq_of_append hothers (List.append_cancel_left hevents)⟩

theorem isRun_giveUp_iff : (runner.giveUp record handles failure).attempt.IsRun history result ↔
    runner.IsReleased record handles history ∧ result = some (.error failure) := by
  unfold giveUp
  rw [Task.isRun_liftM_bind_iff_of_gives fun _ _ ↦ isRun_abortAll_iff]
  constructor
  · rintro ⟨_, _, events, rfl, rfl, hevents⟩
    rw [Task.lift_eq_liftM, Task.isRun_liftM_bind_iff] at hevents
    obtain ⟨released, deactivation, after, rfl, hreleased, hend⟩ | ⟨hcrash, -⟩ := hevents
    · obtain ⟨rfl, rfl⟩ := Program.isRun_done_iff.1 hend
      rw [List.append_nil]
      exact ⟨⟨deactivation, released, rfl, hreleased⟩, rfl⟩
    · obtain ⟨asked, -, hasked⟩ := Surroundings.isRun_onDevices_iff.1 hcrash
      exact absurd hasked (runner.chain record).deactivate_not_halts
  · rintro ⟨⟨events, released, rfl, hreleased⟩, rfl⟩
    refine ⟨(), _, events, rfl, rfl, Task.isRun_liftM_bind_iff.2 (.inl ?_)⟩
    exact ⟨released, events, [], (List.append_nil events).symm, hreleased, .done _⟩

/-- The supervisor's failure goes before the failures of the teardown. -/
theorem isRun_endResult_iff {ended : Supervised} {released saved : Except Failure Unit} :
    (Task.attempt (do
      Task.ofExcept ended.result
      Task.ofExcept (TeardownReport.empty.addAll (teardownOutcomes released saved)).result :
        Task Surroundings Unit)).IsRun history result ↔
      history = [] ∧ result = some (endResult ended released saved) := by
  unfold endResult
  cases ended.result with
  | error failure => exact Program.isRun_done_iff
  | ok value => exact Program.isRun_done_iff

theorem isRun_superviseAndTearDown_iff :
    (runner.superviseAndTearDown record handles config).attempt.IsRun history result ↔
      ∃ ended released saved,
        runner.IsSupervised record handles config history ended released saved ∧
        result = some (endResult ended released saved) := by
  unfold superviseAndTearDown
  rw [Task.isRun_request_bind_iff fun _ _ ↦ Surroundings.isRun_supervise_iff]
  constructor
  · rintro ⟨ended, events, rfl, hevents⟩
    rw [Task.isRun_liftM_bind_iff_of_gives fun _ _ ↦ isRun_abortAll_iff] at hevents
    obtain ⟨_, _, events, rfl, rfl, hevents⟩ := hevents
    rw [Task.lift_eq_liftM, Task.isRun_liftM_bind_iff] at hevents
    obtain ⟨⟨report, after⟩, tornDown, rest, rfl, htornDown, hend⟩ | ⟨hcrash, -⟩ := hevents
    · obtain ⟨events, released, saved, hreleased, rfl, hresult⟩ := isRun_tearDown_iff.1 htornDown
      obtain ⟨rfl, rfl⟩ := Prod.mk.inj (Option.some.inj hresult)
      obtain ⟨rfl, rfl⟩ := isRun_endResult_iff.1 hend
      rw [List.append_nil]
      exact ⟨ended, released, saved, .intro ended events saved hreleased, rfl⟩
    · obtain ⟨_, _, _, -, -, hnone⟩ := isRun_tearDown_iff.1 hcrash
      cases hnone
  · rintro ⟨ended, released, saved, hsupervised, rfl⟩
    obtain ⟨ended, events, saved, hreleased⟩ := hsupervised
    have htornDown : (tearDown (runner.chain record) record).IsRun
        (events ++ [⟨.save (stoppedRecord record), saved⟩])
        (some (TeardownReport.empty.addAll (teardownOutcomes released saved),
          stoppedRecord record)) :=
      isRun_tearDown_iff.2 ⟨events, released, saved, hreleased, rfl, rfl⟩
    refine ⟨ended, abortEvents handles ++ _, rfl, ?_⟩
    refine Task.isRun_liftM_bind (isRun_abortAll_iff.2 ⟨(), rfl, rfl⟩) ?_
    rw [Task.lift_eq_liftM, Task.isRun_liftM_bind_iff]
    exact .inl ⟨_, _, [], (List.append_nil _).symm, htornDown, isRun_endResult_iff.2 ⟨rfl, rfl⟩⟩

/-! ## From the root device on -/

theorem HasRoot.course (hbefore : runner.HasRoot id record network handles root before)
    (hrun : (runner.continueWith record network handles root).attempt.IsRun rest result) :
    runner.Course id (before ++ rest) result := by
  unfold continueWith at hrun
  rw [Task.lift_eq_liftM,
    Task.isRun_request_bind_iff fun _ _ ↦ Surroundings.isRun_captureSignals_iff] at hrun
  obtain ⟨failure | value, events, rfl, hrun⟩ := hrun
  · obtain ⟨hreleased, rfl⟩ := isRun_giveUp_iff.1 hrun
    rw [List.append_cons]
    exact .failsLate (.signals hbefore) hreleased
  dsimp only at hrun
  rw [Task.isRun_request_bind_iff fun _ _ ↦ Surroundings.isRun_today_iff] at hrun
  obtain ⟨now, events, rfl, hrun⟩ := hrun
  rw [Task.lift_eq_liftM,
    Task.isRun_request_bind_iff fun _ _ ↦ Surroundings.isRun_save_iff] at hrun
  obtain ⟨failure | value, events, rfl, hrun⟩ := hrun
  · obtain ⟨hreleased, rfl⟩ := isRun_giveUp_iff.1 hrun
    change runner.Course id (before ++ ([_, _, _] ++ events)) _
    rw [← List.append_assoc]
    exact .failsLate (.save hbefore) hreleased
  · obtain ⟨ended, released, saved, hsupervised, rfl⟩ := isRun_superviseAndTearDown_iff.1 hrun
    change runner.Course id (before ++ ([_, _, _] ++ events)) _
    rw [← List.append_assoc]
    exact .tornDown (.intro now hbefore) hsupervised

/-! ## From the beginning on -/

theorem HasNetwork.course (hbefore : runner.HasNetwork id record network handles before)
    (hrun : (do
      match ← ExceptT.lift (runner.provideStorage record).attempt with
      | .error failure => runner.giveUp record handles (.within .provisioningStorage failure)
      | .ok root => runner.continueWith record network handles root :
        Task Surroundings Unit).attempt.IsRun rest result) :
    runner.Course id (before ++ rest) result := by
  rw [Task.lift_eq_liftM, Task.isRun_liftM_bind_iff] at hrun
  obtain ⟨failure | root, provided, events, rfl, hprovided, hrun⟩ | ⟨hcrash, rfl⟩ := hrun
  · obtain ⟨hreleased, rfl⟩ := isRun_giveUp_iff.1 hrun
    rw [← List.append_assoc]
    exact .failsLate (.storage hbefore hprovided) hreleased
  · rw [← List.append_assoc]
    exact (HasRoot.intro hbefore hprovided).course hrun
  · exact .crashes (.storage hbefore hcrash)

/-- Every run goes one of the ways. -/
theorem course_of_isRun (hrun : (runner.run id).attempt.IsRun history result) :
    runner.Course id history result := by
  unfold run at hrun
  rw [Task.isRun_bind_iff] at hrun
  obtain ⟨record, before, events, rfl, hload, hrun⟩ | ⟨failure, hload, rfl⟩ | ⟨hcrash, -⟩ := hrun
  · obtain ⟨_, rfl, hanswer⟩ := Surroundings.isRun_load_iff.1 (Task.isRun_within_ok_iff.1 hload)
    obtain rfl := Option.some.inj hanswer
    cases hfit : checkRecord record with
    | error failure =>
      rw [hfit, Task.ofExcept_error_bind] at hrun
      obtain ⟨rfl, rfl⟩ := Program.isRun_done_iff.1 hrun
      exact .failsEarly (.unfit hfit)
    | ok value =>
      rw [hfit, Task.ofExcept_ok_bind, Task.isRun_bind_iff] at hrun
      obtain ⟨network, provided, events, rfl, hprovided, hrun⟩ | ⟨failure, hfailed, rfl⟩ |
        ⟨hcrash, rfl⟩ := hrun
      · rw [Task.isRun_liftM_bind_iff_of_gives fun _ _ ↦ isRun_startAll_iff] at hrun
        obtain ⟨handles, started, events, rfl, hstarted, hrun⟩ := hrun
        have hnetwork : runner.HasNetwork id record network handles _ :=
          .intro hfit (Task.isRun_within_ok_iff.1 hprovided) hstarted
        have hcourse := hnetwork.course hrun
        rw [List.append_assoc, List.append_assoc] at hcourse
        exact hcourse
      · obtain ⟨inner, rfl, hinner⟩ := Task.isRun_within_error_iff.1 hfailed
        exact .failsEarly (.network hfit hinner)
      · exact .crashes (.network hfit (Task.isRun_within_none_iff.1 hcrash))
  · obtain ⟨inner, rfl, hinner⟩ := Task.isRun_within_error_iff.1 hload
    obtain ⟨_, rfl, hanswer⟩ := Surroundings.isRun_load_iff.1 hinner
    obtain rfl := Option.some.inj hanswer
    exact .failsEarly (.load inner)
  · obtain ⟨_, -, hnone⟩ := Surroundings.isRun_load_iff.1 (Task.isRun_within_none_iff.1 hcrash)
    cases hnone

/-! ## Runs that come to their teardown -/

variable {events : History Surroundings} {now : Timestamp} {ended : Supervised}
  {released saved : Except Failure Unit}

theorem isRun_loading (answer : Except Failure Record) :
    (Task.within (.loading id) (Surroundings.load id)).attempt.IsRun [⟨.load id, answer⟩]
      (some (answer.mapError (.within (.loading id)))) :=
  Task.isRun_within_iff.2 ⟨some answer, Surroundings.isRun_load_iff.2 ⟨answer, rfl, rfl⟩, rfl⟩

/-- A run that has its network and its responders goes on with its root device. -/
theorem HasNetwork.isRun_iff (hbefore : runner.HasNetwork id record network handles before) :
    (runner.run id).attempt.IsRun (before ++ rest) result ↔
      (do
        match ← ExceptT.lift (runner.provideStorage record).attempt with
        | .error failure => runner.giveUp record handles (.within .provisioningStorage failure)
        | .ok root => runner.continueWith record network handles root :
          Task Surroundings Unit).attempt.IsRun rest result := by
  obtain ⟨hfit, hprovided, hstarted⟩ := hbefore
  unfold run
  rw [List.append_assoc, List.append_assoc, Task.isRun_append_iff (isRun_loading (.ok record)),
    hfit, Task.ofExcept_ok_bind, Task.isRun_append_iff (Task.isRun_within_ok_iff.2 hprovided)]
  exact Task.isRun_liftM_append_iff (isRun_startAll_iff.2 ⟨handles, hstarted, rfl⟩)

theorem HasRoot.isRun_iff (hbefore : runner.HasRoot id record network handles root before) :
    (runner.run id).attempt.IsRun (before ++ rest) result ↔
      (runner.continueWith record network handles root).attempt.IsRun rest result := by
  obtain ⟨hnetwork, hprovided⟩ := hbefore
  rw [List.append_assoc, hnetwork.isRun_iff, Task.lift_eq_liftM,
    Task.isRun_liftM_append_iff hprovided]

/-- After the first save it depends on its answer how a run goes on. -/
theorem HasRoot.isRun_save_iff (hbefore : runner.HasRoot id record network handles root before)
    (now : Timestamp) (answer : Except Failure Unit) :
    (runner.run id).attempt.IsRun (before ++ [⟨.captureSignals, .ok ()⟩, ⟨.today, now⟩,
      ⟨.save (runningRecord record network now), answer⟩] ++ rest) result ↔
      (match answer with
        | .error failure => runner.giveUp record handles (.within .savingRunning failure)
        | .ok () => runner.superviseAndTearDown (runningRecord record network now) handles
          (runner.bootConfig record network root)).attempt.IsRun rest result := by
  have hcapture := Surroundings.isRun_captureSignals_iff.2 ⟨.ok (), rfl, rfl⟩
  have htoday := Surroundings.isRun_today_iff.2 ⟨now, rfl, rfl⟩
  have hsave : (Surroundings.save (runningRecord record network now)).attempt.IsRun
      [⟨.save (runningRecord record network now), answer⟩] (some answer) :=
    Surroundings.isRun_save_iff.2 ⟨answer, rfl, rfl⟩
  rw [List.append_assoc, hbefore.isRun_iff]
  change (runner.continueWith record network handles root).attempt.IsRun
    ([⟨.captureSignals, .ok ()⟩] ++ ([⟨.today, now⟩] ++ ([⟨.save _, answer⟩] ++ rest))) result ↔ _
  unfold continueWith
  rw [Task.lift_eq_liftM, Task.isRun_liftM_append_iff hcapture]
  dsimp only
  rw [Task.isRun_liftM_append_iff htoday, Task.lift_eq_liftM]
  exact Task.isRun_liftM_append_iff hsave

/-- A step that fails early ends the run with its failure. -/
theorem FailsEarly.isRun (hfails : runner.FailsEarly id history failure) :
    (runner.run id).attempt.IsRun history (some (.error failure)) := by
  unfold run
  cases hfails with
  | load failure =>
    exact Task.isRun_bind_iff.2 (.inr (.inl ⟨_, isRun_loading (.error failure), rfl⟩))
  | @unfit record failure hunfit =>
    refine Task.isRun_bind_iff.2 (.inl ⟨record, _, [], (List.append_nil _).symm,
      isRun_loading (.ok record), ?_⟩)
    rw [hunfit, Task.ofExcept_error_bind]
    exact .done _
  | @network record failure events hfit hfailed =>
    rw [Task.isRun_append_iff (isRun_loading (.ok record)), hfit, Task.ofExcept_ok_bind,
      Task.isRun_bind_iff]
    exact .inr (.inl ⟨_, Task.isRun_within_error_iff.2 ⟨failure, rfl, hfailed⟩, rfl⟩)

/-- A step that fails late decides the failure of the run, whatever the release of the storage
comes to. -/
theorem FailsLate.isRun_iff (hfails : runner.FailsLate id record handles before failure) :
    (runner.run id).attempt.IsRun (before ++ rest) result ↔
      runner.IsReleased record handles rest ∧ result = some (.error failure) := by
  cases hfails with
  | storage hnetwork hfailed =>
    rw [List.append_assoc, hnetwork.isRun_iff, Task.lift_eq_liftM,
      Task.isRun_liftM_append_iff hfailed]
    exact isRun_giveUp_iff
  | signals hroot =>
    rw [List.append_assoc, hroot.isRun_iff]
    unfold continueWith
    rw [Task.lift_eq_liftM, Task.isRun_liftM_append_iff
      (Surroundings.isRun_captureSignals_iff.2 ⟨.error failure, rfl, rfl⟩)]
    exact isRun_giveUp_iff
  | save hroot =>
    rw [hroot.isRun_save_iff]
    exact isRun_giveUp_iff

/-- From the supervisor on, a run is one of the supervisor and the teardown. -/
theorem IsSaved.isRun_iff (hsaved : runner.IsSaved id record network handles root now before) :
    (runner.run id).attempt.IsRun (before ++ rest) result ↔
      ∃ ended released saved, runner.IsSupervised (runningRecord record network now) handles
        (runner.bootConfig record network root) rest ended released saved ∧
        result = some (endResult ended released saved) := by
  obtain ⟨now, hroot⟩ := hsaved
  rw [hroot.isRun_save_iff]
  exact isRun_superviseAndTearDown_iff

end Runner

/-! ## A machine with one lease -/

namespace Sample

/-- A time of day. -/
def day : Timestamp :=
  ⟨⟨2024, 5, 17, by decide, by decide⟩, 0, 0, 0, by decide, by decide, by decide, by decide⟩

/-- A record with an image, a kernel and a declared port. -/
def record : Record where
  metadata := ⟨"abc", "web", .empty, day⟩
  spec := ⟨"image", "kernel", "", 1, 128, 0, [⟨none, 8080, 80, .tcp⟩], false, by decide, by decide,
    Content.none.size_le⟩
  status := { Status.initial with
    image := { Content.none with id := "i1" }
    kernel := { Content.none with id := "k1" } }

/-- What the run is made with. -/
def runner : Runner := ⟨⟨"/srv"⟩, { dhcpv6 := true }⟩

/-- The hardware address of the interface. -/
def mac : Mac := ⟨⟨[2, 0, 0, 0, 0, 1], rfl⟩⟩

/-- The address of the interface. -/
def address : Cidr := ⟨⟨0x0a000002⟩, 24, by decide⟩

/-- The interface. -/
def link : Link := ⟨"eth0", some mac, false, [address]⟩

/-- The lease that taking the interface over gives. -/
def lease : Lease := ⟨"eth0", "br_eth0", "vm_eth0", address, none, mac, [], []⟩

def network : NetworkSetup := ⟨[lease], []⟩

/-- The handles of the two responders of the lease. -/
def handles : List TaskHandle := [⟨0⟩, ⟨1⟩]

theorem areStarted : AreStarted (responders network true) handles
    [⟨.startResponder (.v4 (Dhcp.V4.responder lease)), ⟨0⟩⟩,
      ⟨.startResponder (.v6 (Dhcp.V6.responder lease)), ⟨1⟩⟩] :=
  .cons ⟨0⟩ (.cons ⟨1⟩ .nil)

theorem isRun_discoverUntil (deadline : Duration) (attempts : Nat) :
    (discoverUntil (runner.discoveryOptions record) deadline (attempts + 1)).attempt.IsRun
      [⟨.list, .ok [link]⟩, ⟨.gateway "eth0", .ok none⟩]
      (some (.ok [.leased "eth0" mac address none])) := by
  rw [discoverUntil]
  iterate 2 refine .ask _ ?_
  exact .done _

theorem isRun_discover : (discover (runner.discoveryOptions record)).attempt.IsRun
    ([⟨.now, ⟨0⟩⟩] ++ [⟨.list, .ok [link]⟩, ⟨.gateway "eth0", .ok none⟩])
    (some (.ok [.leased "eth0" mac address none])) := by
  have hattempts : maxAttempts = 4294967294 + 1 := by decide
  have hnow : Links.now.IsRun [⟨.now, ⟨0⟩⟩] (some ⟨0⟩) := .ask _ (.done _)
  unfold discover
  refine Task.isRun_liftM_bind hnow ?_
  rw [if_pos (by decide), hattempts]
  exact isRun_discoverUntil _ 4294967294

theorem isRun_readDns : (Task.attempt (ExceptT.lift (readDns runner.settings.resolverPath))).IsRun
    [⟨.readFile "/etc/resolv.conf", .error .notFound⟩,
      ⟨.readFile fallbackResolverPath, .error .notFound⟩]
    (some (.ok ⟨[], []⟩)) := by
  iterate 2 refine .ask _ ?_
  exact .done _

theorem isRun_takeOver : (takeOver ⟨[], []⟩ [.leased "eth0" mac address none]).attempt.IsRun
    ([⟨.change (.removeAddress "eth0" address), .ok ()⟩,
      ⟨.randomBytes, ⟨[0, 0, 0, 0, 0, 2], rfl⟩⟩,
      ⟨.change (.setMac "eth0" ⟨⟨[2, 0, 0, 0, 0, 2], rfl⟩⟩), .ok ()⟩] ++
      (bridgeChanges "eth0" "br_eth0" "vm_eth0").map fun change ↦ ⟨.change change, .ok ()⟩)
    (some (.ok network)) := by
  iterate 10 refine .ask _ ?_
  exact .done _

theorem isRun_baseImageSize : (baseImageSize "/srv/image/i1/image.ext4").attempt.IsRun
    [⟨.inl (.isBlockDevice "/srv/image/i1/image.ext4"), false⟩,
      ⟨.inr (.fileLength "/srv/image/i1/image.ext4"), .ok 0⟩]
    (some (.ok 0)) := by
  iterate 2 refine .ask _ ?_
  exact .done _

theorem isRun_ensureOverlay : (ensureOverlay "/srv/vm/abc/overlay.dm" 0 0).attempt.IsRun
    [⟨.createDirectories "/srv/vm/abc", .ok ()⟩, ⟨.openFile "/srv/vm/abc/overlay.dm", .ok ()⟩,
      ⟨.fileLength "/srv/vm/abc/overlay.dm", .ok 0⟩]
    (some (.ok 0)) := by
  iterate 3 refine .ask _ ?_
  exact .done _

theorem isRun_activate : ((runner.chain record).activate "/srv/image/i1/image.ext4"
    "/srv/vm/abc/overlay.dm").attempt.IsRun
    [⟨.deviceExists "/dev/mapper/fcspawn-abc", true⟩]
    (some (.ok "/dev/mapper/fcspawn-abc")) := by
  refine .ask _ ?_
  exact .done _

theorem exists_hasNetwork : ∃ before, runner.HasNetwork "abc" record network handles before := by
  have hdiscover := Surroundings.isRun_onLinks_iff.2 ⟨_, rfl, isRun_discover⟩
  have hdns := Surroundings.isRun_onFiles_iff.2 ⟨_, rfl, isRun_readDns⟩
  have htakeOver := Surroundings.isRun_onLinks_iff.2 ⟨_, rfl, isRun_takeOver⟩
  have hnetwork : (runner.provideNetwork record).attempt.IsRun _ (some (.ok network)) :=
    Task.isRun_bind hdiscover (Task.isRun_bind hdns htakeOver)
  exact ⟨_, .intro rfl hnetwork areStarted⟩

/-- What is asked to provide storage when the root device is there. -/
def storage : History Surroundings :=
  [⟨.device (.isBlockDevice "/srv/image/i1/image.ext4"), false⟩,
    ⟨.file (.fileLength "/srv/image/i1/image.ext4"), .ok 0⟩,
    ⟨.file (.createDirectories "/srv/vm/abc"), .ok ()⟩,
    ⟨.file (.openFile "/srv/vm/abc/overlay.dm"), .ok ()⟩,
    ⟨.file (.fileLength "/srv/vm/abc/overlay.dm"), .ok 0⟩,
    ⟨.device (.deviceExists "/dev/mapper/fcspawn-abc"), true⟩]

theorem isRun_provideStorage : (runner.provideStorage record).attempt.IsRun storage
    (some (.ok "/dev/mapper/fcspawn-abc")) := by
  have hsize := Surroundings.isRun_onDisks_iff.2 ⟨_, rfl, isRun_baseImageSize⟩
  have hoverlay := Surroundings.isRun_onFiles_iff.2 ⟨_, rfl, isRun_ensureOverlay⟩
  have hactivate := Surroundings.isRun_onDevices_iff.2 ⟨_, rfl, isRun_activate⟩
  have hstorage : (runner.provideStorage record).attempt.IsRun _
      (some (.ok "/dev/mapper/fcspawn-abc")) :=
    Task.isRun_bind hsize (Task.isRun_bind hoverlay hactivate)
  exact hstorage

theorem exists_hasRoot :
    ∃ before, runner.HasRoot "abc" record network handles "/dev/mapper/fcspawn-abc" before := by
  obtain ⟨before, hnetwork⟩ := exists_hasNetwork
  exact ⟨_, .intro hnetwork isRun_provideStorage⟩

theorem isRun_deactivate : (runner.chain record).deactivate.attempt.IsRun
    [⟨.acquireLock runner.settings.lockPath, .error (.cause .noAddress)⟩]
    (some (.error (.cause .noAddress))) := by
  refine .ask _ ?_
  exact .done _

/-- A run with a failure of the deactivation only. -/
theorem exists_isSupervised : ∃ before events,
    runner.IsSaved "abc" record network handles "/dev/mapper/fcspawn-abc" day before ∧
    runner.IsSupervised (Runner.runningRecord record network day) handles
      (runner.bootConfig record network "/dev/mapper/fcspawn-abc") events (.returned (.ok ()))
      (.error (.cause .noAddress)) (.ok ()) := by
  obtain ⟨before, hroot⟩ := exists_hasRoot
  have hdeactivate := Surroundings.isRun_onDevices_iff.2 ⟨_, rfl, isRun_deactivate⟩
  exact ⟨_, _, .intro day hroot, .intro _ _ _ hdeactivate⟩

end Sample

end MicroVm.Run

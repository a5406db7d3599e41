import Mathlib.Data.List.Infix
import MicroVm.Proofs.Run.Milestones

/-!
# The protocol of saves

A run saves its record twice at most: as running once everything is provided, and as stopped at the
end of a teardown. The second save is attempted exactly when the first one succeeded. It is the last
thing that a run does, after the supervisor and after the attempt to remove the root device. Which
failure a run ends with is decided by the first step of the setup that failed, or else by the
supervisor, or else by the steps of the teardown.
-/

namespace MicroVm.Run

open MicroVm.Host MicroVm.Hypervisor MicroVm.Machine MicroVm.Network MicroVm.Storage

/-- Whether a part of a history is a run of a task that ended with a value. -/
def Succeeds {α : Type} (task : Task Surroundings α) (value : α) (history : History Surroundings) :
    Prop :=
  ∃ events, events <:+: history ∧ task.attempt.IsRun events (some (.ok value))

theorem Succeeds.of_infix {α : Type} {task : Task Surroundings α} {value : α}
    {history longer : History Surroundings} (hsucceeds : Succeeds task value history)
    (hpart : history <:+: longer) : Succeeds task value longer := by
  obtain ⟨events, hevents, hrun⟩ := hsucceeds
  exact ⟨events, hevents.trans hpart, hrun⟩

/-- The steps of a teardown that failed, in their order, with their messages. -/
def failedSteps (released saved : Except Failure Unit) : List (TeardownStep × String) :=
  teardownOrder.filterMap fun step ↦
    match stepOutcome released saved step with
    | .ok () => none
    | .error failure => some (step, failure.message)

section Results

variable {ended : Supervised} {released saved : Except Failure Unit}

/-- The report of a teardown lists the steps that failed. -/
theorem map_filterMap_teardownOutcomes :
    ((teardownOutcomes released saved).filterMap TeardownReport.failure?).map
      (fun failed ↦ (failed.1, failed.2.message)) = failedSteps released saved := by
  unfold teardownOutcomes failedSteps
  rw [List.filterMap_map, List.map_filterMap]
  congr 1
  funext step
  unfold TeardownReport.failure?
  dsimp only [Function.comp_apply]
  cases stepOutcome released saved step with
  | ok value => rfl
  | error failure => rfl

/-- After a supervisor that has returned, the failures of the teardown are the result. -/
theorem endResult_of_returned (hended : ended.result = .ok ()) :
    endResult ended released saved = if failedSteps released saved = [] then .ok ()
      else .error (.cause (.teardownIncomplete (failedSteps released saved))) := by
  unfold endResult
  rw [hended]
  dsimp only
  rw [TeardownReport.result_addAll_empty, map_filterMap_teardownOutcomes]
  simp only [List.isEmpty_iff, ← map_filterMap_teardownOutcomes, List.map_eq_nil_iff]

theorem failedSteps_eq_nil_iff : failedSteps released saved = [] ↔
    released = .ok () ∧ saved = .ok () := by
  cases released with
  | error failure => cases saved <;> simp [failedSteps, teardownOrder, stepOutcome]
  | ok value => cases saved <;> simp [failedSteps, teardownOrder, stepOutcome]

theorem Supervised.result_eq_ok_iff : ended.result = .ok () ↔ ended = .returned (.ok ()) := by
  cases ended with
  | returned result => simp [Supervised.result]
  | crashed task text => simp [Supervised.result]

/-- A run that came to its teardown succeeds only if nothing in it failed. -/
theorem endResult_eq_ok_iff : endResult ended released saved = .ok () ↔
    ended = .returned (.ok ()) ∧ released = .ok () ∧ saved = .ok () := by
  rw [← Supervised.result_eq_ok_iff, ← failedSteps_eq_nil_iff]
  cases hended : ended.result with
  | error failure => simp [endResult, hended]
  | ok value => simp [endResult_of_returned hended]

end Results

namespace Runner

variable {runner : Runner} {id root : String} {record : Record} {network : NetworkSetup}
  {handles : List TaskHandle} {now : Timestamp} {failure : Failure}
  {history before after events : History Surroundings} {result : Option (Except Failure Unit)}

/-- Whether discovery, takeover and the activation of storage have succeeded in a history, for the
record that was loaded in it. -/
def IsSetUp (runner : Runner) (id : String) (history : History Surroundings) : Prop :=
  ∃ record candidates dns network root,
    (⟨.load id, .ok record⟩ : Event Surroundings) ∈ history ∧
    Succeeds (Surroundings.onLinks (discover (runner.discoveryOptions record))) candidates
      history ∧
    Succeeds (Surroundings.onLinks (takeOver dns candidates)) network history ∧
    Succeeds (Surroundings.onDevices ((runner.chain record).activate
      (runner.layout.imageFile record.status.image.id) (runner.layout.overlayFile record.uid)))
      root history

theorem IsSetUp.of_prefix (hsetUp : runner.IsSetUp id before) (hbegins : before <+: history) :
    runner.IsSetUp id history := by
  obtain ⟨record, candidates, dns, network, root, hload, hdiscover, htakeOver, hactivate⟩ := hsetUp
  exact ⟨record, candidates, dns, network, root, hbegins.subset hload,
    hdiscover.of_infix hbegins.isInfix, htakeOver.of_infix hbegins.isInfix,
    hactivate.of_infix hbegins.isInfix⟩

theorem HasRoot.isSetUp (hroot : runner.HasRoot id record network handles root before) :
    runner.IsSetUp id before := by
  obtain ⟨⟨-, hnetwork, hstarted⟩, hstorage⟩ := hroot
  unfold provideNetwork at hnetwork
  unfold provideStorage at hstorage
  obtain ⟨candidates, discovered, _, rfl, hdiscovered, hrest⟩ := Task.isRun_bind_ok_iff.1 hnetwork
  obtain ⟨dns, resolved, takenOver, rfl, -, htakenOver⟩ := Task.isRun_bind_ok_iff.1 hrest
  obtain ⟨_, measured, _, rfl, -, hrest⟩ := Task.isRun_bind_ok_iff.1 hstorage
  obtain ⟨_, ensured, activated, rfl, -, hactivated⟩ := Task.isRun_bind_ok_iff.1 hrest
  have hwithin {events started later : History Surroundings} :
      events <:+: [⟨.load id, .ok record⟩] ++ (events ++ started) ++ later :=
    (List.prefix_append events started).isInfix.trans
      ((List.suffix_append _ _).isInfix.trans (List.prefix_append _ _).isInfix)
  refine ⟨record, candidates, dns, network, root, List.mem_cons_self, ?_, ?_, ?_⟩
  · exact ⟨discovered, (List.prefix_append _ _).isInfix.trans hwithin, hdiscovered⟩
  · have hlast := (List.suffix_append resolved takenOver).trans (List.suffix_append discovered _)
    exact ⟨takenOver, hlast.isInfix.trans hwithin, htakenOver⟩
  · have hlast := (List.suffix_append ensured activated).trans (List.suffix_append measured _)
    exact ⟨activated, (hlast.trans (List.suffix_append _ _)).isInfix, hactivated⟩

/-! ## How many saves and supervisors -/

theorem IsSaved.saves_eq (hsaved : runner.IsSaved id record network handles root now before) :
    saves before = [(runningRecord record network now, .ok ())] := by
  obtain ⟨now, hroot⟩ := hsaved
  rw [saves_append, hroot.isQuiet.saves_eq_nil]
  rfl

theorem IsSaved.supervisions_eq_nil
    (hsaved : runner.IsSaved id record network handles root now before) :
    supervisions before = [] := by
  obtain ⟨now, hroot⟩ := hsaved
  rw [supervisions_append, hroot.isQuiet.supervisions_eq_nil]
  rfl

theorem IsSupervised.saves_eq {config : BootConfig} {ended : Supervised}
    {released stopped : Except Failure Unit}
    (hsupervised : runner.IsSupervised record handles config events ended released stopped) :
    saves events = [(stoppedRecord record, stopped)] := by
  obtain ⟨ended, deactivation, stopped, hdeactivated⟩ := hsupervised
  have hquiet := (Surroundings.isHostHistory_onDevices hdeactivated).isQuiet
  rw [saves_append, saves_append, saves_append, (isQuiet_abortEvents handles).saves_eq_nil,
    hquiet.saves_eq_nil]
  rfl

theorem IsSupervised.supervisions_eq {config : BootConfig} {ended : Supervised}
    {released stopped : Except Failure Unit}
    (hsupervised : runner.IsSupervised record handles config events ended released stopped) :
    supervisions events = [(record.uid, config, ended)] := by
  obtain ⟨ended, deactivation, stopped, hdeactivated⟩ := hsupervised
  have hquiet := (Surroundings.isHostHistory_onDevices hdeactivated).isQuiet
  rw [supervisions_append, supervisions_append, supervisions_append,
    (isQuiet_abortEvents handles).supervisions_eq_nil, hquiet.supervisions_eq_nil]
  rfl

theorem FailsLate.supervisions_eq_nil
    (hfails : runner.FailsLate id record handles history failure) :
    supervisions history = [] := by
  cases hfails with
  | storage hnetwork hfailed =>
    exact (hnetwork.isQuiet.append
      (isHostHistory_provideStorage hfailed).isQuiet).supervisions_eq_nil
  | signals hroot =>
    rw [supervisions_append, hroot.isQuiet.supervisions_eq_nil]
    rfl
  | save hroot =>
    rw [supervisions_append, hroot.isQuiet.supervisions_eq_nil]
    rfl

theorem FailsLate.saves_eq (hfails : runner.FailsLate id record handles history failure) :
    saves history = [] ∨ ∃ running inner, saves history = [(running, .error inner)] := by
  cases hfails with
  | storage hnetwork hfailed =>
    left
    exact (hnetwork.isQuiet.append (isHostHistory_provideStorage hfailed).isQuiet).saves_eq_nil
  | signals hroot =>
    left
    rw [saves_append, hroot.isQuiet.saves_eq_nil]
    rfl
  | save hroot =>
    right
    rw [saves_append, hroot.isQuiet.saves_eq_nil]
    exact ⟨_, _, rfl⟩

/-- Without a first save that succeeded there is no second save and no supervisor. With it there is
one of each. -/
theorem Course.saves_eq (hcourse : runner.Course id history result) :
    (supervisions history = [] ∧
      (saves history = [] ∨ ∃ running inner, saves history = [(running, .error inner)])) ∨
    ∃ running stopped last supervision, saves history = [(running, .ok ()), (stopped, last)] ∧
      supervisions history = [supervision] := by
  cases hcourse with
  | crashes hcrashes =>
    exact .inl ⟨hcrashes.isQuiet.supervisions_eq_nil, .inl hcrashes.isQuiet.saves_eq_nil⟩
  | failsEarly hfails =>
    exact .inl ⟨hfails.isQuiet.supervisions_eq_nil, .inl hfails.isQuiet.saves_eq_nil⟩
  | failsLate hfails hreleased =>
    left
    rw [saves_append, supervisions_append, hreleased.isQuiet.saves_eq_nil,
      hreleased.isQuiet.supervisions_eq_nil, List.append_nil, List.append_nil]
    exact ⟨hfails.supervisions_eq_nil, hfails.saves_eq⟩
  | tornDown hsaved hsupervised =>
    right
    rw [saves_append, supervisions_append, hsaved.saves_eq, hsaved.supervisions_eq_nil,
      hsupervised.saves_eq, hsupervised.supervisions_eq]
    exact ⟨_, _, _, _, rfl, rfl⟩

/-! ## The protocol -/

/-- How a run saves, and which result it has. -/
structure SaveProtocol (runner : Runner) (id : String) (history : History Surroundings)
    (result : Option (Except Failure Unit)) : Prop where
  saves_after_setup : ∀ before record answer after,
    history = before ++ ⟨.save record, answer⟩ :: after → runner.IsSetUp id before
  saves_at_most_twice : (saves history).length ≤ 2
  supervised_at_most_once : (supervisions history).length ≤ 1
  supervised_after_save : ∀ before uid config ended after,
    history = before ++ ⟨.supervise uid config, ended⟩ :: after →
      ∃ record, saves before = [(record, .ok ())] ∧ record.status.isRunning
  second_save_iff : (saves history).length = 2 ↔
    ∃ record, (saves history).head? = some (record, .ok ())
  /-- The second save comes after the supervisor and a deactivation, and nothing comes after it. -/
  second_save_last : ∀ before record answer after,
    history = before ++ ⟨.save record, answer⟩ :: after → saves before ≠ [] →
      after = [] ∧ ∃ start uid config ended handles deactivation released,
        before = start ++ ⟨.supervise uid config, ended⟩ ::
          (abortEvents handles ++ deactivation) ∧
        (Surroundings.onDevices (runner.chain record).deactivate).attempt.IsRun deactivation
          (some released)
  ok_iff : result = some (.ok ()) ↔ ∃ record network handles root now start rest,
    history = start ++ rest ∧ runner.IsSaved id record network handles root now start ∧
      runner.IsSupervised (runningRecord record network now) handles
        (runner.bootConfig record network root) rest (.returned (.ok ())) (.ok ()) (.ok ())
  supervisor_failure : ∀ uid config ended failure,
    (⟨.supervise uid config, ended⟩ : Event Surroundings) ∈ history →
      ended.result = .error failure → result = some (.error failure)
  teardown_failure : ∀ start uid config ended handles deactivation released record saved,
    history = start ++ ⟨.supervise uid config, ended⟩ ::
      (abortEvents handles ++ (deactivation ++ [⟨.save record, saved⟩])) →
    (Surroundings.onDevices (runner.chain record).deactivate).attempt.IsRun deactivation
      (some released) →
    ended.result = .ok () → failedSteps released saved ≠ [] →
      result = some (.error (.cause (.teardownIncomplete (failedSteps released saved))))
  /-- A failure without a supervisor is the one of a step of the setup. What comes after a step that
  failed late is the release, and it does not matter how that ends. -/
  setup_failure_iff : ∀ failure,
    (result = some (.error failure) ∧ supervisions history = []) ↔
      runner.FailsEarly id history failure ∨
      ∃ record handles before release, history = before ++ release ∧
        runner.FailsLate id record handles before failure
  /-- A crash lies in the setup, before any save. -/
  crash : result = none → runner.Crashes id history

/-- Before a save, the network and the root device are there. -/
theorem SavePlace.isSetUp {saved : Record} (hplace : runner.SavePlace id before saved after) :
    runner.IsSetUp id before := by
  cases hplace with
  | running now after hroot => exact hroot.isSetUp.of_prefix (List.prefix_append _ _)
  | stopped ended hsaved _ =>
    obtain ⟨now, hroot⟩ := hsaved
    rw [List.append_assoc]
    exact hroot.isSetUp.of_prefix (List.prefix_append _ _)

theorem SavePlace.second {saved : Record} (hplace : runner.SavePlace id before saved after)
    (hsecond : saves before ≠ []) :
    after = [] ∧ ∃ start uid config ended handles deactivation released,
      before = start ++ ⟨.supervise uid config, ended⟩ ::
        (abortEvents handles ++ deactivation) ∧
      (Surroundings.onDevices (runner.chain saved).deactivate).attempt.IsRun deactivation
        (some released) := by
  cases hplace with
  | running now after hroot => exact absurd (hroot.isQuiet_captured now).saves_eq_nil hsecond
  | stopped ended hsaved hdeactivated => exact ⟨rfl, _, _, _, ended, _, _, _, rfl, hdeactivated⟩

/-- A run saves its record twice at most. -/
theorem Course.length_saves_le (hcourse : runner.Course id history result) :
    (saves history).length ≤ 2 := by
  obtain ⟨-, hsaves | ⟨running, inner, hsaves⟩⟩ | ⟨running, stopped, last, _, hsaves, -⟩ :=
    hcourse.saves_eq
  · rw [hsaves]
    exact Nat.zero_le 2
  · rw [hsaves]
    exact Nat.le_succ 1
  · rw [hsaves]
    exact Nat.le_refl 2

/-- A run starts one supervisor at most. -/
theorem Course.length_supervisions_le (hcourse : runner.Course id history result) :
    (supervisions history).length ≤ 1 := by
  obtain ⟨hsupervisions, -⟩ | ⟨_, _, _, supervision, -, hsupervisions⟩ := hcourse.saves_eq
  · rw [hsupervisions]
    exact Nat.zero_le 1
  · rw [hsupervisions]
    exact Nat.le_refl 1

theorem Course.supervised_after_save (hcourse : runner.Course id history result) {uid : String}
    {config : BootConfig} {ended : Supervised}
    (hsplit : history = before ++ ⟨.supervise uid config, ended⟩ :: after) :
    ∃ record, saves before = [(record, .ok ())] ∧ record.status.isRunning := by
  obtain ⟨record, network, _, _, now, _, _, hsaved, -, -⟩ := hcourse.supervisePlace hsplit
  exact ⟨runningRecord record network now, hsaved.saves_eq, rfl⟩

/-- There is a second save exactly when the first one succeeds. -/
theorem Course.second_save_iff (hcourse : runner.Course id history result) :
    (saves history).length = 2 ↔ ∃ record, (saves history).head? = some (record, .ok ()) := by
  obtain ⟨-, hsaves | ⟨running, inner, hsaves⟩⟩ | ⟨running, stopped, last, _, hsaves, -⟩ :=
    hcourse.saves_eq
  · rw [hsaves]
    exact ⟨(fun hlength ↦ nomatch hlength), (fun ⟨_, hhead⟩ ↦ nomatch hhead)⟩
  · rw [hsaves]
    exact ⟨(fun hlength ↦ nomatch hlength), (fun ⟨_, hhead⟩ ↦ nomatch hhead)⟩
  · rw [hsaves]
    exact ⟨fun _ ↦ ⟨running, rfl⟩, fun _ ↦ rfl⟩

/-- The result of a run without failures is known from its history. -/
theorem ok_iff_of_isRun (hrun : (runner.run id).attempt.IsRun history result) :
    result = some (.ok ()) ↔ ∃ record network handles root now start rest,
      history = start ++ rest ∧ runner.IsSaved id record network handles root now start ∧
        runner.IsSupervised (runningRecord record network now) handles
          (runner.bootConfig record network root) rest (.returned (.ok ())) (.ok ()) (.ok ()) := by
  constructor
  · intro hok
    cases course_of_isRun hrun with
    | crashes => cases hok
    | failsEarly => cases hok
    | failsLate => cases hok
    | tornDown hsaved hsupervised =>
      obtain ⟨rfl, rfl, rfl⟩ := endResult_eq_ok_iff.1 (Option.some.inj hok)
      exact ⟨_, _, _, _, _, _, _, rfl, hsaved, hsupervised⟩
  · rintro ⟨record, network, handles, root, now, start, rest, rfl, hsaved, hsupervised⟩
    have hother := hsaved.isRun_iff.2 ⟨_, _, _, hsupervised, rfl⟩
    exact hother.unique hrun

theorem Course.supervisor_failure (hcourse : runner.Course id history result) {uid : String}
    {config : BootConfig} {ended : Supervised}
    (hmem : (⟨.supervise uid config, ended⟩ : Event Surroundings) ∈ history)
    (hended : ended.result = .error failure) : result = some (.error failure) := by
  obtain ⟨before, after, hsplit⟩ := List.mem_iff_append.1 hmem
  obtain ⟨_, _, _, _, _, released, stopped, -, -, rfl⟩ := hcourse.supervisePlace hsplit
  unfold endResult
  rw [hended]

theorem Course.teardown_failure (hcourse : runner.Course id history result)
    {start deactivation : History Surroundings} {uid : String} {config : BootConfig}
    {ended : Supervised} {released saved : Except Failure Unit} {stopped : Record}
    (hsplit : history = start ++ ⟨.supervise uid config, ended⟩ ::
      (abortEvents handles ++ (deactivation ++ [⟨.save stopped, saved⟩])))
    (hdeactivated : (Surroundings.onDevices (runner.chain stopped).deactivate).attempt.IsRun
      deactivation (some released))
    (hended : ended.result = .ok ()) (hfailed : failedSteps released saved ≠ []) :
    result = some (.error (.cause (.teardownIncomplete (failedSteps released saved)))) := by
  obtain ⟨record, network, other, _, now, released', saved', -, hsupervised, rfl⟩ :=
    hcourse.supervisePlace hsplit
  have hlast : (⟨.supervise uid config, ended⟩ ::
      (abortEvents handles ++ (deactivation ++ [⟨.save stopped, saved⟩])) :
        History Surroundings) =
      (⟨.supervise uid config, ended⟩ :: (abortEvents handles ++ deactivation)) ++
        ⟨.save stopped, saved⟩ :: [] := by
    rw [List.cons_append, List.append_assoc]
  obtain ⟨hnil, -⟩ | ⟨deactivation', hdeactivated', hmiddle, hevent, -⟩ :=
    hsupervised.split rfl hlast
  · cases hnil
  · cases hevent
    obtain ⟨-, hmiddle⟩ := List.cons.inj hmiddle
    obtain ⟨-, rfl⟩ := abortEvents_append_inj
      (Surroundings.isHostHistory_onDevices hdeactivated).aborts_eq_nil
      (Surroundings.isHostHistory_onDevices hdeactivated').aborts_eq_nil hmiddle
    obtain rfl := Option.some.inj (hdeactivated'.unique hdeactivated)
    rw [endResult_of_returned hended, if_neg hfailed]

theorem setup_failure_iff_of_isRun (hrun : (runner.run id).attempt.IsRun history result) :
    (result = some (.error failure) ∧ supervisions history = []) ↔
      runner.FailsEarly id history failure ∨
      ∃ record handles before release, history = before ++ release ∧
        runner.FailsLate id record handles before failure := by
  constructor
  · rintro ⟨hfailure, hsupervisions⟩
    cases course_of_isRun hrun with
    | crashes => cases hfailure
    | failsEarly hfails =>
      cases hfailure
      exact .inl hfails
    | failsLate hfails hreleased =>
      cases hfailure
      exact .inr ⟨_, _, _, _, rfl, hfails⟩
    | tornDown hsaved hsupervised =>
      rw [supervisions_append, hsupervised.supervisions_eq] at hsupervisions
      exact absurd hsupervisions (List.append_ne_nil_of_right_ne_nil _ (List.cons_ne_nil _ _))
  · rintro (hfails | ⟨record, handles, before, release, rfl, hfails⟩)
    · exact ⟨hfails.isRun.unique hrun, hfails.isQuiet.supervisions_eq_nil⟩
    · obtain ⟨hreleased, rfl⟩ := hfails.isRun_iff.1 hrun
      refine ⟨rfl, ?_⟩
      rw [supervisions_append, hfails.supervisions_eq_nil, hreleased.isQuiet.supervisions_eq_nil]
      rfl

/-- A run without a result is one that crashes. -/
theorem Course.crashes_of_none (hcourse : runner.Course id history result)
    (hnone : result = none) : runner.Crashes id history := by
  cases hcourse with
  | crashes hcrashes => exact hcrashes
  | failsEarly => cases hnone
  | failsLate => cases hnone
  | tornDown => cases hnone

/-- Every run keeps to the protocol, whatever fails in it. -/
theorem saveProtocol_of_isRun (hrun : (runner.run id).attempt.IsRun history result) :
    runner.SaveProtocol id history result := by
  have hcourse := course_of_isRun hrun
  exact {
    saves_after_setup := fun _ _ _ _ hsplit ↦ (hcourse.savePlace hsplit).isSetUp
    saves_at_most_twice := hcourse.length_saves_le
    supervised_at_most_once := hcourse.length_supervisions_le
    supervised_after_save := fun _ _ _ _ _ ↦ hcourse.supervised_after_save
    second_save_iff := hcourse.second_save_iff
    second_save_last := fun _ _ _ _ hsplit ↦ (hcourse.savePlace hsplit).second
    ok_iff := ok_iff_of_isRun hrun
    supervisor_failure := fun _ _ _ _ ↦ hcourse.supervisor_failure
    teardown_failure := fun _ _ _ _ _ _ _ _ _ ↦ hcourse.teardown_failure
    setup_failure_iff := fun _ ↦ setup_failure_iff_of_isRun hrun
    crash := hcourse.crashes_of_none }

/-- A run in which only the deactivation fails. -/
theorem saveProtocol_of_failed_deactivation :
    ∃ history result,
      result = some (.error (.cause (.teardownIncomplete [(.releaseStorage, "no IPv4 address")]))) ∧
      (Sample.runner.run "abc").attempt.IsRun history result ∧ (saves history).length = 2 ∧
      Sample.runner.SaveProtocol "abc" history result := by
  obtain ⟨before, events, hsaved, hsupervised⟩ := Sample.exists_isSupervised
  have hrun := hsaved.isRun_iff.2 ⟨_, _, _, hsupervised, rfl⟩
  refine ⟨_, _, rfl, hrun, ?_, saveProtocol_of_isRun hrun⟩
  rw [saves_append, hsaved.saves_eq, hsupervised.saves_eq]
  rfl

end Runner

end MicroVm.Run

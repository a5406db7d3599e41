import Mathlib.Data.List.Basic
import MicroVm.Proofs.Run.Course

/-!
# Saves and supervisors in a run

A run attempts to save at two places: once everything is provided, and at the end of a teardown. A
supervisor is started at one place only, right after a first save that succeeded. Nothing else in a
run saves a record or starts a supervisor, so a save or a supervisor that is found in a history is
at one of these places.
-/

namespace MicroVm.Run

open MicroVm.Host MicroVm.Hypervisor MicroVm.Machine MicroVm.Network MicroVm.Storage

/-! ## Saves and supervisors in a history -/

/-- Whether a request is a save or starts a supervisor. -/
def RunRequest.isMilestone : RunRequest → Bool
  | .save _ => true
  | .supervise _ _ => true
  | _ => false

/-- The record that an event attempts to save, and how that ended. -/
def save? : Event Surroundings → Option (Record × Except Failure Unit)
  | ⟨.save record, answer⟩ => some (record, answer)
  | _ => none

/-- The attempts to save a record, in order. -/
def saves (history : History Surroundings) : List (Record × Except Failure Unit) :=
  history.filterMap save?

/-- The machine that an event supervises, and how that ended. -/
def supervision? : Event Surroundings → Option (String × BootConfig × Supervised)
  | ⟨.supervise uid config, ended⟩ => some (uid, config, ended)
  | _ => none

/-- The supervisors started, in order. -/
def supervisions (history : History Surroundings) : List (String × BootConfig × Supervised) :=
  history.filterMap supervision?

section Histories

variable {history rest : History Surroundings}

@[simp]
theorem saves_append : saves (history ++ rest) = saves history ++ saves rest :=
  List.filterMap_append

@[simp]
theorem supervisions_append :
    supervisions (history ++ rest) = supervisions history ++ supervisions rest :=
  List.filterMap_append

/-- A history without saves and without supervisors. -/
def IsQuiet (history : History Surroundings) : Prop :=
  ∀ event ∈ history, RunRequest.isMilestone event.request = false

theorem isQuiet_singleton {event : Event Surroundings}
    (hevent : RunRequest.isMilestone event.request = false) : IsQuiet [event] :=
  List.forall_mem_singleton.2 hevent

theorem IsQuiet.append (hhistory : IsQuiet history) (hrest : IsQuiet rest) :
    IsQuiet (history ++ rest) :=
  List.forall_mem_append.2 ⟨hhistory, hrest⟩

/-- Calls to the host are neither saves nor supervisors. -/
theorem IsHostHistory.isQuiet (hhistory : IsHostHistory history) : IsQuiet history := by
  intro event hmem
  have haccess := hhistory event hmem
  cases hrequest : event.request with
  | link | device | file => rfl
  | _ =>
    rw [hrequest] at haccess
    cases haccess

/-- An event that is no milestone neither saves nor starts a supervisor. -/
theorem save?_supervision?_eq_none {event : Event Surroundings}
    (hevent : RunRequest.isMilestone event.request = false) :
    save? event = none ∧ supervision? event = none := by
  obtain ⟨request, answer⟩ := event
  cases request with
  | save | supervise => cases hevent
  | _ => exact ⟨rfl, rfl⟩

theorem IsQuiet.saves_eq_nil (hquiet : IsQuiet history) : saves history = [] :=
  List.filterMap_eq_nil_iff.2 fun event hmem ↦ (save?_supervision?_eq_none (hquiet event hmem)).1

theorem IsQuiet.supervisions_eq_nil (hquiet : IsQuiet history) : supervisions history = [] :=
  List.filterMap_eq_nil_iff.2 fun event hmem ↦ (save?_supervision?_eq_none (hquiet event hmem)).2

theorem AreStarted.isQuiet {responders : List Dhcp.AnyResponder} {handles : List TaskHandle}
    (hstarted : AreStarted responders handles history) : IsQuiet history := by
  induction hstarted with
  | nil => exact List.forall_mem_nil _
  | cons handle _ ih => exact List.forall_mem_cons.2 ⟨rfl, ih⟩

theorem isQuiet_abortEvents (handles : List TaskHandle) : IsQuiet (abortEvents handles) :=
  List.forall_mem_map.2 fun _ _ ↦ rfl

/-- There is no save and no supervisor in a quiet history. -/
theorem IsQuiet.notMem {event : Event Surroundings} (hquiet : IsQuiet history)
    (hevent : RunRequest.isMilestone event.request = true) : event ∉ history := by
  intro hmem
  rw [hquiet event hmem] at hevent
  cases hevent

/-- A save or a supervisor comes after a quiet beginning. -/
theorem IsQuiet.split {start before after : History Surroundings} {event : Event Surroundings}
    (hquiet : IsQuiet start) (hevent : RunRequest.isMilestone event.request = true)
    (hsplit : start ++ rest = before ++ event :: after) :
    ∃ middle, before = start ++ middle ∧ rest = middle ++ event :: after :=
  exists_append_of_notMem_left (hquiet.notMem hevent) hsplit

theorem IsQuiet.ne_append {before after : History Surroundings} {event : Event Surroundings}
    (hquiet : IsQuiet history) (hevent : RunRequest.isMilestone event.request = true) :
    history ≠ before ++ event :: after := by
  rintro rfl
  exact hquiet.notMem hevent (List.mem_append_right before List.mem_cons_self)

end Histories

namespace Runner

variable {runner : Runner} {id root : String} {record : Record} {network : NetworkSetup}
  {handles : List TaskHandle} {now : Timestamp} {failure : Failure}
  {history before rest : History Surroundings} {result : Option (Except Failure Unit)}

theorem isHostHistory_provideNetwork {result : Option (Except Failure NetworkSetup)}
    (hrun : (runner.provideNetwork record).attempt.IsRun history result) :
    IsHostHistory history := by
  refine isHostHistory_bind (fun _ _ ↦ Surroundings.isHostHistory_onLinks) ?_ hrun
  intro candidates _ _ hrun
  refine isHostHistory_bind (fun _ _ ↦ Surroundings.isHostHistory_onFiles) ?_ hrun
  intro dns _ _ hrun
  exact Surroundings.isHostHistory_onLinks hrun

theorem isHostHistory_provideStorage {result : Option (Except Failure String)}
    (hrun : (runner.provideStorage record).attempt.IsRun history result) :
    IsHostHistory history := by
  refine isHostHistory_bind (fun _ _ ↦ Surroundings.isHostHistory_onDisks) ?_ hrun
  intro size _ _ hrun
  refine isHostHistory_bind (fun _ _ ↦ Surroundings.isHostHistory_onFiles) ?_ hrun
  intro _ _ _ hrun
  exact Surroundings.isHostHistory_onDevices hrun

theorem HasNetwork.isQuiet (hbefore : runner.HasNetwork id record network handles before) :
    IsQuiet before := by
  obtain ⟨-, hprovided, hstarted⟩ := hbefore
  have hnetwork := (isHostHistory_provideNetwork hprovided).isQuiet
  exact (isQuiet_singleton rfl).append (hnetwork.append hstarted.isQuiet)

theorem HasRoot.isQuiet (hbefore : runner.HasRoot id record network handles root before) :
    IsQuiet before := by
  obtain ⟨hnetwork, hprovided⟩ := hbefore
  exact hnetwork.isQuiet.append (isHostHistory_provideStorage hprovided).isQuiet

theorem IsReleased.isQuiet (hreleased : runner.IsReleased record handles history) :
    IsQuiet history := by
  obtain ⟨events, released, rfl, hrun⟩ := hreleased
  exact (isQuiet_abortEvents handles).append (Surroundings.isHostHistory_onDevices hrun).isQuiet

/-- A run that crashes has saved nothing and has started no supervisor. -/
theorem Crashes.isQuiet (hcrashes : runner.Crashes id history) : IsQuiet history := by
  cases hcrashes with
  | network _ hcrashed =>
    exact (isQuiet_singleton rfl).append (isHostHistory_provideNetwork hcrashed).isQuiet
  | storage hbefore hcrashed =>
    exact hbefore.isQuiet.append (isHostHistory_provideStorage hcrashed).isQuiet

/-- A run that fails early has saved nothing and has started no supervisor. -/
theorem FailsEarly.isQuiet (hfails : runner.FailsEarly id history failure) : IsQuiet history := by
  cases hfails with
  | load => exact isQuiet_singleton rfl
  | unfit => exact isQuiet_singleton rfl
  | network _ hfailed =>
    exact (isQuiet_singleton rfl).append (isHostHistory_provideNetwork hfailed).isQuiet

/-! ## Where a run saves -/

/-- Where the saves of a run are: what comes before a save, which record it is of, and what comes
after it. -/
inductive SavePlace (runner : Runner) (id : String) :
    History Surroundings → Record → History Surroundings → Prop
  | running {record : Record} {network : NetworkSetup} {handles : List TaskHandle} {root : String}
      {history : History Surroundings} (now : Timestamp) (after : History Surroundings)
      (before : runner.HasRoot id record network handles root history) :
      SavePlace runner id (history ++ [⟨.captureSignals, .ok ()⟩, ⟨.today, now⟩])
        (runningRecord record network now) after
  | stopped {record : Record} {network : NetworkSetup} {handles : List TaskHandle} {root : String}
      {now : Timestamp} {history events : History Surroundings} {released : Except Failure Unit}
      (ended : Supervised) (before : runner.IsSaved id record network handles root now history)
      (deactivated : (Surroundings.onDevices (runner.chain record).deactivate).attempt.IsRun events
        (some released)) :
      SavePlace runner id
        (history ++ (⟨.supervise record.uid (runner.bootConfig record network root), ended⟩ ::
          (abortEvents handles ++ events)))
        (stoppedRecord (runningRecord record network now)) []

variable {saved : Record} {answer : Except Failure Unit} {after : History Surroundings}

theorem HasRoot.isQuiet_captured (hroot : runner.HasRoot id record network handles root history)
    (now : Timestamp) :
    IsQuiet (history ++ [⟨.captureSignals, .ok ()⟩, ⟨.today, now⟩]) := by
  have hcapture : IsQuiet [⟨.captureSignals, .ok ()⟩] := isQuiet_singleton rfl
  have htoday : IsQuiet [⟨.today, now⟩] := isQuiet_singleton rfl
  exact hroot.isQuiet.append (hcapture.append htoday)

/-- In a run that came to its first save, a save or a supervisor is that save or comes later. -/
theorem HasRoot.split (hroot : runner.HasRoot id record network handles root history)
    {running : Record} {first : Except Failure Unit} {events : History Surroundings}
    {event : Event Surroundings}
    (hevent : RunRequest.isMilestone event.request = true)
    (hsplit : history ++ [⟨.captureSignals, .ok ()⟩, ⟨.today, now⟩, ⟨.save running, first⟩] ++
      events = before ++ event :: after) :
    (before = history ++ [⟨.captureSignals, .ok ()⟩, ⟨.today, now⟩] ∧
      event = ⟨.save running, first⟩) ∨
    ∃ middle, before = history ++ [⟨.captureSignals, .ok ()⟩, ⟨.today, now⟩,
      ⟨.save running, first⟩] ++ middle ∧ events = middle ++ event :: after := by
  have hshifted : (history ++ [⟨.captureSignals, .ok ()⟩, ⟨.today, now⟩]) ++
      ⟨.save running, first⟩ :: events = before ++ event :: after := by
    rw [← hsplit, List.append_assoc, List.append_assoc]
    rfl
  obtain ⟨middle, rfl, hrest⟩ := (hroot.isQuiet_captured now).split hevent hshifted
  cases middle with
  | nil =>
    left
    obtain ⟨rfl, -⟩ := List.cons.inj hrest
    exact ⟨List.append_nil _, rfl⟩
  | cons save middle =>
    right
    obtain ⟨rfl, rfl⟩ := List.cons.inj hrest
    refine ⟨middle, ?_, rfl⟩
    rw [List.append_assoc, List.append_assoc]
    rfl

/-- From the supervisor on, there is no save or supervisor but the first and the last event. -/
theorem IsSupervised.split {config : BootConfig} {events middle : History Surroundings}
    {event : Event Surroundings} {ended : Supervised} {released stopped : Except Failure Unit}
    (hsupervised : runner.IsSupervised record handles config events ended released stopped)
    (hevent : RunRequest.isMilestone event.request = true)
    (hsplit : events = middle ++ event :: after) :
    (middle = [] ∧ event = ⟨.supervise record.uid config, ended⟩) ∨
    (∃ deactivation,
      (Surroundings.onDevices (runner.chain record).deactivate).attempt.IsRun deactivation
        (some released) ∧
      middle = ⟨.supervise record.uid config, ended⟩ :: (abortEvents handles ++ deactivation) ∧
      event = ⟨.save (stoppedRecord record), stopped⟩ ∧ after = []) := by
  obtain ⟨ended, deactivation, stopped, hdeactivated⟩ := hsupervised
  have hquiet := (isQuiet_abortEvents handles).append
    (Surroundings.isHostHistory_onDevices hdeactivated).isQuiet
  cases middle with
  | nil =>
    left
    obtain ⟨rfl, -⟩ := List.cons.inj hsplit
    exact ⟨rfl, rfl⟩
  | cons supervise middle =>
    right
    obtain ⟨rfl, hrest⟩ := List.cons.inj hsplit
    change abortEvents handles ++ _ = _ at hrest
    rw [← List.append_assoc] at hrest
    obtain ⟨last, rfl, hlast⟩ := hquiet.split hevent hrest
    cases last with
    | nil =>
      obtain ⟨rfl, rfl⟩ := List.cons.inj hlast
      rw [List.append_nil]
      exact ⟨deactivation, hdeactivated, rfl, rfl, rfl⟩
    | cons save last =>
      obtain ⟨-, hnil⟩ := List.cons.inj hlast
      exact absurd hnil.symm (List.append_ne_nil_of_right_ne_nil last (List.cons_ne_nil _ _))

/-- A late failure has no save and no supervisor but the save that failed, if it is the failure of
one. -/
theorem FailsLate.milestone {events : History Surroundings} {event : Event Surroundings}
    (hfails : runner.FailsLate id record handles history failure)
    (hreleased : runner.IsReleased record handles events)
    (hevent : RunRequest.isMilestone event.request = true)
    (hsplit : history ++ events = before ++ event :: after) :
    ∃ network root now start inner, runner.HasRoot id record network handles root start ∧
      before = start ++ [⟨.captureSignals, .ok ()⟩, ⟨.today, now⟩] ∧
      event = ⟨.save (runningRecord record network now), .error inner⟩ := by
  cases hfails with
  | storage hnetwork hfailed =>
    have hquiet := hnetwork.isQuiet.append (isHostHistory_provideStorage hfailed).isQuiet
    exact absurd hsplit ((hquiet.append hreleased.isQuiet).ne_append hevent)
  | signals hroot =>
    have hcapture : IsQuiet [⟨.captureSignals, .error failure⟩] := isQuiet_singleton rfl
    have hquiet := hroot.isQuiet.append hcapture
    exact absurd hsplit ((hquiet.append hreleased.isQuiet).ne_append hevent)
  | save hroot =>
    obtain ⟨hbefore, hsave⟩ | ⟨middle, -, hlater⟩ := hroot.split hevent hsplit
    · exact ⟨_, _, _, _, _, hroot, hbefore, hsave⟩
    · exact absurd hlater (hreleased.isQuiet.ne_append hevent)

theorem Course.savePlace (hcourse : runner.Course id history result)
    (hsplit : history = before ++ ⟨.save saved, answer⟩ :: after) :
    runner.SavePlace id before saved after := by
  cases hcourse with
  | crashes hcrashes => exact absurd hsplit (hcrashes.isQuiet.ne_append rfl)
  | failsEarly hfails => exact absurd hsplit (hfails.isQuiet.ne_append rfl)
  | failsLate hfails hreleased =>
    obtain ⟨_, _, now, _, _, hroot, rfl, hevent⟩ := hfails.milestone hreleased rfl hsplit
    cases hevent
    exact .running now after hroot
  | @tornDown _ _ _ _ now _ _ ended _ _ hsaved hsupervised =>
    obtain ⟨now, hroot⟩ := hsaved
    obtain ⟨rfl, hevent⟩ | ⟨middle, rfl, hlater⟩ := hroot.split rfl hsplit
    · cases hevent
      exact .running now after hroot
    · obtain ⟨-, hevent⟩ | ⟨deactivation, hdeactivated, rfl, hevent, rfl⟩ :=
        hsupervised.split rfl hlater
      · cases hevent
      · cases hevent
        have hplace := SavePlace.stopped ended (.intro now hroot) hdeactivated
        exact hplace

/-- A supervisor is started right after a first save that succeeded, and its end decides the result
together with the teardown. -/
theorem Course.supervisePlace {uid : String} {config : BootConfig} {ended : Supervised}
    (hcourse : runner.Course id history result)
    (hsplit : history = before ++ ⟨.supervise uid config, ended⟩ :: after) :
    ∃ record network handles root now released stopped,
      runner.IsSaved id record network handles root now before ∧
      runner.IsSupervised (runningRecord record network now) handles
        (runner.bootConfig record network root)
        (⟨.supervise uid config, ended⟩ :: after) ended released stopped ∧
      result = some (endResult ended released stopped) := by
  cases hcourse with
  | crashes hcrashes => exact absurd hsplit (hcrashes.isQuiet.ne_append rfl)
  | failsEarly hfails => exact absurd hsplit (hfails.isQuiet.ne_append rfl)
  | failsLate hfails hreleased =>
    obtain ⟨_, _, _, _, _, -, -, hevent⟩ := hfails.milestone hreleased rfl hsplit
    cases hevent
  | @tornDown _ _ _ _ now _ _ _ _ _ hsaved hsupervised =>
    obtain ⟨now, hroot⟩ := hsaved
    obtain ⟨-, hevent⟩ | ⟨middle, rfl, hlater⟩ := hroot.split rfl hsplit
    · cases hevent
    · obtain ⟨rfl, hevent⟩ | ⟨_, -, -, hevent, -⟩ := hsupervised.split rfl hlater
      · cases hevent
        obtain rfl := hlater
        rw [List.append_nil]
        exact ⟨_, _, _, _, now, _, _, .intro now hroot, hsupervised, rfl⟩
      · cases hevent

end Runner

end MicroVm.Run

import MicroVm.Proofs.Storage.BuildSteps

/-!
# Best effort changes no result

A host that answers in one way, and a plan of the calls that fail, make one run of an activation.
Two plans that agree on the steps of the building make two runs with the same result, whatever
becomes of the checks of the filesystem, of detaching and of rollbacks. The states of the two hosts
are the same until something is taken away again, and nothing that is asked for after that is
heeded.
-/

namespace MicroVm.Storage

/-- How a host answers, in one way for each state. It may have failures of its own, as when no loop
is free. -/
structure HostHabits where
  answer : HostDevices → (request : DeviceRequest) → request.Answer × HostDevices
  serves : ∀ (host : HostDevices) (request : DeviceRequest),
    host.Serves True request (answer host request).1 (answer host request).2

/-- Which calls fail in which way, by the requests made before. -/
abbrev FailurePlan := List DeviceRequest → DeviceRequest → Option Failure

/-- The answer that a failing call gives. A test whether something is there does not fail. -/
def DeviceRequest.refusal? : (request : DeviceRequest) → Failure → Option request.Answer
  | .attachLoop _ _, failure => some (.error failure)
  | .detachLoop _, failure => some (.error failure)
  | .sizeSectors _, failure => some (.error failure)
  | .createMapping _ _, failure => some (.error failure)
  | .mappingExists _, _ => none
  | .removeMappings _, failure => some (.error failure)
  | .checkFilesystem _, failure => some (.error failure)
  | .growFilesystem _, failure => some (.error failure)
  | .deviceExists _, _ => none
  | .isBlockDevice _, _ => none
  | .acquireLock _, failure => some (.error failure)
  | .releaseLock _, _ => none

/-- The requests of a history. -/
def asked (past : History Devices) : List DeviceRequest := past.map fun event ↦ event.request

/-- The answer to a call that fails by a plan. -/
def FailurePlan.refusal? (plan : FailurePlan) (requests : List DeviceRequest)
    (request : DeviceRequest) : Option request.Answer :=
  (plan requests request).bind request.refusal?

/-- Two plans by which the same calls fail, except for those that are best effort. -/
def AgreeOnSteps (plan other : FailurePlan) : Prop :=
  ∀ past request, ¬ IsBestEffort past request →
    plan.refusal? (asked past) request = other.refusal? (asked past) request

theorem AgreeOnSteps.symm {plan other : FailurePlan} (hagree : AgreeOnSteps plan other) :
    AgreeOnSteps other plan :=
  fun past request hstep ↦ (hagree past request hstep).symm

theorem asked_concat {past other : History Devices} {event twin : Event Devices}
    (hpast : asked other = asked past) (hevent : twin.request = event.request) :
    asked (other ++ [twin]) = asked (past ++ [event]) :=
  calc
    asked (other ++ [twin]) = asked other ++ asked [twin] := List.map_append
    _ = asked past ++ asked [event] := by
      rw [hpast]
      exact congrArg (asked past ++ [·]) hevent
    _ = asked (past ++ [event]) := List.map_append.symm

namespace HostHabits

/-- What a host answers by a plan, and how it is then. A call that fails by the plan has no
effect. -/
def respond (habits : HostHabits) (plan : FailurePlan) (requests : List DeviceRequest)
    (host : HostDevices) (request : DeviceRequest) : request.Answer × HostDevices :=
  match plan.refusal? requests request with
  | some refusal => (refusal, host)
  | none => habits.answer host request

/-- A host and the history so far, by a plan. -/
def under (habits : HostHabits) (plan : FailurePlan) :
    Handler Devices (HostDevices × History Devices) :=
  fun request state ↦
    let found := habits.respond plan (asked state.2) state.1 request
    (found.1, found.2, state.2 ++ [⟨request, found.1⟩])

variable {habits : HostHabits} {plan other : FailurePlan} {past : History Devices}

theorem respond_eq_self {requests : List DeviceRequest} {host : HostDevices}
    {request : DeviceRequest} (hkeeps : request.changesNodes = false) :
    (habits.respond plan requests host request).2 = host := by
  unfold respond
  split
  · rfl
  · exact (habits.serves host request).eq_self hkeeps

/-- How two runs stand to each other after the events of the first one. -/
structure Matches (past : History Devices) (state twin : HostDevices × History Devices) : Prop where
  history : state.2 = past
  requests : asked twin.2 = asked past
  hosts : ¬ HasUndone past → twin.1 = state.1

variable {state twin : HostDevices × History Devices} {request : DeviceRequest}

theorem Matches.step (hagree : AgreeOnSteps plan other) (hmatches : Matches past state twin)
    (hstep : IsStep past request) :
    (habits.under plan request state).1 = (habits.under other request twin).1 ∧
      Matches (past ++ [⟨request, (habits.under plan request state).1⟩])
        (habits.under plan request state).2 (habits.under other request twin).2 := by
  obtain ⟨rfl, hrequests, hhosts⟩ := hmatches
  have hrespond : habits.respond other (asked twin.2) twin.1 request =
      habits.respond plan (asked state.2) state.1 request := by
    unfold respond
    rw [hhosts hstep.2, hrequests, hagree state.2 request hstep.1]
  refine ⟨?_, rfl, asked_concat hrequests rfl, fun _ ↦ ?_⟩
  · change (habits.respond plan _ _ request).1 = (habits.respond other _ _ request).1
    rw [hrespond]
  · change (habits.respond other _ _ request).2 = (habits.respond plan _ _ request).2
    rw [hrespond]

/-- Best effort leaves the hosts alike or takes something away. -/
theorem Matches.ignore (hmatches : Matches past state twin) (hignored : IsIgnored past request) :
    Matches (past ++ [⟨request, (habits.under plan request state).1⟩])
      (habits.under plan request state).2 (habits.under other request twin).2 := by
  obtain ⟨rfl, hrequests, hhosts⟩ := hmatches
  refine ⟨rfl, asked_concat hrequests rfl, fun hkept ↦ ?_⟩
  have hearlier : ¬ HasUndone state.2 := fun hundone ↦ hkept (hundone.append _)
  have hnow : ¬ Undoes state.2 request := fun hundoes ↦ hkept (happens_concat hundoes)
  have hkeeps : request.changesNodes = false := by
    obtain hbest | ⟨path, rfl⟩ := hignored
    · obtain ⟨device, rfl⟩ := not_forall_not.1 fun hother ↦ hnow ⟨hbest, hother⟩
      rfl
    · rfl
  calc
    (habits.respond other (asked twin.2) twin.1 request).2 = twin.1 := respond_eq_self hkeeps
    _ = state.1 := hhosts hearlier
    _ = (habits.respond plan (asked state.2) state.1 request).2 := (respond_eq_self hkeeps).symm

end HostHabits

namespace Chain

variable (chain : Chain) (habits : HostHabits) {plan other : FailurePlan}

/-- Under plans that agree on the steps, two runs give one result. -/
theorem exists_run_under (hagree : AgreeOnSteps plan other) (base overlay : String)
    (host : HostDevices) :
    ∃ outcome,
      ((chain.activate base overlay).attempt.run (habits.under plan) (host, [])).1 = some outcome ∧
      ((chain.activate base overlay).attempt.run (habits.under other) (host, [])).1 =
        some outcome ∧
      chain.IsResultFor outcome
        ((chain.activate base overlay).attempt.run (habits.under plan) (host, [])).2.2 := by
  have hstart : HostHabits.Matches [] (host, []) (host, []) := ⟨rfl, rfl, fun _ ↦ rfl⟩
  obtain ⟨outcome, later, hfirst, hsecond, hresult, hmatches⟩ :=
    Program.Heeds.run_eq HostHabits.Matches (HostHabits.Matches.step hagree)
      HostHabits.Matches.ignore (chain.activate_heeds base overlay) hstart
  rw [← hmatches.history] at hresult
  exact ⟨outcome, hfirst, hsecond, hresult⟩

/-- Two runs on the same host with plans that agree on the steps give the same result. It is the
root device, or the failure of the first step that has failed in the run. -/
theorem activate_ignores_best_effort (hagree : AgreeOnSteps plan other) (base overlay : String)
    (host : HostDevices) :
    let run (plan : FailurePlan) :=
      (chain.activate base overlay).attempt.run (habits.under plan) (host, [])
    ∃ outcome, (run plan).1 = some outcome ∧ (run other).1 = some outcome ∧
      chain.IsResultFor outcome (run plan).2.2 ∧ chain.IsResultFor outcome (run other).2.2 := by
  intro run
  obtain ⟨outcome, hfirst, hsecond, hresult⟩ :=
    chain.exists_run_under habits hagree base overlay host
  obtain ⟨same, hsame, -, hother⟩ :=
    chain.exists_run_under habits hagree.symm base overlay host
  obtain rfl := Option.some.inj (hsecond.symm.trans hsame)
  exact ⟨outcome, hfirst, hsecond, hresult, hother⟩

end Chain

/-! ## A host and two plans -/

/-- How the removal of a mapping fails that is not there. -/
def mappingMissing : Failure := .cause (.reported "No such device or address")

open Classical in
/-- Removes mappings in turn until one is missing. -/
noncomputable def HostDevices.removeInTurn (host : HostDevices) :
    List String → Except Failure Unit × HostDevices
  | [] => (.ok (), host)
  | name :: names =>
    if mapperPath name ∈ host.nodes then (host.remove (mapperPath name)).removeInTurn names
    else (.error mappingMissing, host)

theorem HostDevices.removes_removeInTurn (host : HostDevices) (names : List String) :
    (host.removeInTurn names).1 = .ok () ∧
        host.Removes names none (host.removeInTurn names).2 ∨
      (host.removeInTurn names).1 = .error mappingMissing ∧
        ∃ name, host.Removes names (some name) (host.removeInTurn names).2 := by
  induction names generalizing host with
  | nil => exact .inl ⟨rfl, .nil host⟩
  | cons name names ih =>
    unfold removeInTurn
    split
    next hpresent =>
      obtain ⟨hresult, hremoves⟩ | ⟨hresult, missing, hremoves⟩ :=
        ih (host.remove (mapperPath name))
      · exact .inl ⟨hresult, .present hpresent hremoves⟩
      · exact .inr ⟨hresult, missing, .present hpresent hremoves⟩
    next habsent => exact .inr ⟨rfl, name, .missing habsent⟩

/-- Removing in turn is one way to serve a removal. -/
theorem HostDevices.serves_removeInTurn (host : HostDevices) (names : List String) :
    host.Serves True (.removeMappings names) (host.removeInTurn names).1
      (host.removeInTurn names).2 := by
  have hmissing : ReportsMissing mappingMissing := by decide
  obtain ⟨hresult, hremoves⟩ | ⟨hresult, hremoves⟩ := host.removes_removeInTurn names
  · rw [hresult]
    exact hremoves
  · rw [hresult]
    exact .inr ⟨hmissing, hremoves⟩

open Classical in
/-- The habits of a host whose calls succeed when they can. -/
noncomputable def HostHabits.usual : HostHabits where
  answer host
    | .attachLoop file _ =>
      if hfree : ∃ node, host.IsFreeLoop node then
        (.ok hfree.choose, host.attach hfree.choose file)
      else (.error (.cause (.noLoopDevice file)), host)
    | .detachLoop node => (.ok (), host.remove node)
    | .sizeSectors node => (.ok (host.sectors node), host)
    | .createMapping name _ => (.ok (), host.add (mapperPath name))
    | .mappingExists name => (decide (mapperPath name ∈ host.nodes), host)
    | .removeMappings names => host.removeInTurn names
    | .checkFilesystem _ => (.ok (), host)
    | .growFilesystem _ => (.ok (), host)
    | .deviceExists path => (decide (path ∈ host.nodes), host)
    | .isBlockDevice path => (host.isBlock path, host)
    | .acquireLock _ => (.ok (), host)
    | .releaseLock _ => ((), host)
  serves host request := by
    cases request with
    | attachLoop file readOnly =>
      dsimp only
      split
      next hfree => exact ⟨hfree.choose_spec, rfl⟩
      next => exact ⟨trivial, rfl⟩
    | mappingExists | deviceExists => exact ⟨decide_eq_true_iff, rfl⟩
    | sizeSectors | isBlockDevice => exact ⟨rfl, rfl⟩
    | removeMappings names => exact host.serves_removeInTurn names
    | detachLoop | createMapping | checkFilesystem | growFilesystem | acquireLock
    | releaseLock => exact rfl

/-- A plan in which filesystems cannot be grown. -/
def growthFails : FailurePlan
  | _, .growFilesystem _ => some (.cause .deviceInactive)
  | _, _ => none

/-- Whether a request is to make a mapping. -/
def DeviceRequest.makesMapping : DeviceRequest → Bool
  | .createMapping _ _ => true
  | _ => false

theorem DeviceRequest.exists_of_makesMapping {request : DeviceRequest}
    (hmakes : request.makesMapping = true) : ∃ name table, request = .createMapping name table := by
  cases request with
  | createMapping name table => exact ⟨name, table, rfl⟩
  | _ => cases hmakes

/-- A plan in which nothing that is best effort works either. -/
def cleanUpFails : FailurePlan
  | _, .checkFilesystem _ => some (.cause .deviceInactive)
  | _, .detachLoop _ => some (.cause .deviceInactive)
  | requests, .removeMappings _ =>
    if requests.any DeviceRequest.makesMapping then some (.cause .deviceInactive) else none
  | requests, request => growthFails requests request

theorem agreeOnSteps_cleanUpFails : AgreeOnSteps growthFails cleanUpFails := by
  intro past request hstep
  cases request with
  | checkFilesystem | detachLoop => exact absurd trivial hstep
  | removeMappings names =>
    have hnone : (asked past).any DeviceRequest.makesMapping = false := by
      rw [List.any_eq_false]
      intro request hmem hmakes
      obtain ⟨event, hevent, rfl⟩ := List.mem_map.1 hmem
      exact hstep ⟨event, hevent, DeviceRequest.exists_of_makesMapping hmakes⟩
    unfold FailurePlan.refusal? cleanUpFails
    dsimp only
    rw [hnone]
    rfl
  | _ => rfl

namespace Chain

/-- Two plans that differ in all that is best effort. -/
theorem activate_ignores_failed_clean_up :
    let chain : Chain := ⟨"abc", "/run/lock", 8⟩
    let host : HostDevices := ⟨∅, fun _ ↦ none, fun path ↦ if path = "overlay" then 20 else 10,
      fun _ ↦ false⟩
    let run (plan : FailurePlan) :=
      (chain.activate "image" "overlay").attempt.run (HostHabits.usual.under plan) (host, [])
    growthFails ≠ cleanUpFails ∧
      ∃ outcome, (run growthFails).1 = some outcome ∧ (run cleanUpFails).1 = some outcome := by
  intro chain host run
  have hdiffer : growthFails ≠ cleanUpFails := by
    intro hequal
    cases congrFun (congrFun hequal []) (.checkFilesystem chain.devicePath)
  obtain ⟨outcome, hfirst, hsecond, -⟩ := chain.activate_ignores_best_effort HostHabits.usual
    agreeOnSteps_cleanUpFails "image" "overlay" host
  exact ⟨hdiffer, outcome, hfirst, hsecond⟩

end Chain

end MicroVm.Storage

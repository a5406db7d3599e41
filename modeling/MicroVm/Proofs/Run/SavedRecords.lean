import Mathlib.Logic.Function.Basic
import MicroVm.Proofs.Program.Conduct
import MicroVm.Proofs.Run.SaveProtocol

/-!
# Records that are saved

Runs follow one another on one store, and each may be cut off at any moment. Every record that one
of them saves shows a running machine with the addresses of the run, or a stopped one without
addresses and ports. Beyond that it is the record that the run has loaded. So a record in the store
never shows addresses or ports of a machine that does not run.
-/

namespace MicroVm.Run

open MicroVm.Host MicroVm.Hypervisor MicroVm.Machine MicroVm.Network MicroVm.Storage

/-! ## What a record shows -/

/-- Whether a record differs from another one in the fields of a run at most. -/
structure SameButRun (record loaded : Record) : Prop where
  metadata : record.metadata = loaded.metadata
  spec : record.spec = loaded.spec
  image : record.status.image = loaded.status.image
  kernel : record.status.kernel = loaded.status.kernel
  runtime : record.status.runtime = loaded.status.runtime

/-- Whether a record shows a machine that runs on a network. -/
structure ShowsRunning (record : Record) (network : NetworkSetup) : Prop where
  isRunning : record.status.isRunning = true
  startTime : record.status.startTime.isSome
  addresses : record.addresses = network.leases.map fun lease ↦ lease.address.address
  ports : record.ports = record.spec.ports

/-- Whether a record shows a machine that does not run, without addresses and ports. -/
structure ShowsStopped (record : Record) : Prop where
  isRunning : record.status.isRunning = false
  addresses : record.addresses = []
  ports : record.ports = []

/-- Whether a record shows addresses and ports of a running machine only. -/
def IsConsistent (record : Record) : Prop :=
  record.status.isRunning = true ∨ (record.addresses = [] ∧ record.ports = [])

section Records

variable {record loaded : Record} {network : NetworkSetup}

theorem ShowsRunning.isConsistent (hshows : ShowsRunning record network) : IsConsistent record :=
  .inl hshows.isRunning

theorem ShowsStopped.isConsistent (hshows : ShowsStopped record) : IsConsistent record :=
  .inr ⟨hshows.addresses, hshows.ports⟩

theorem sameButRun_runningRecord (record : Record) (network : NetworkSetup) (now : Timestamp) :
    SameButRun (Runner.runningRecord record network now) record :=
  ⟨rfl, rfl, rfl, rfl, rfl⟩

theorem showsRunning_runningRecord (record : Record) (network : NetworkSetup) (now : Timestamp) :
    ShowsRunning (Runner.runningRecord record network now) network :=
  ⟨rfl, rfl, rfl, rfl⟩

theorem SameButRun.stoppedRecord (hsame : SameButRun record loaded) :
    SameButRun (stoppedRecord record) loaded :=
  ⟨hsame.metadata, hsame.spec, hsame.image, hsame.kernel, hsame.runtime⟩

/-- A stopped record shows nothing of the run before. -/
theorem showsStopped_stoppedRecord (record : Record) : ShowsStopped (stoppedRecord record) := by
  obtain ⟨metadata, spec, isRunning, runtime, startTime, _ | network, image, kernel⟩ := record
  · exact ⟨rfl, rfl, rfl⟩
  · exact ⟨rfl, rfl, rfl⟩

end Records

namespace Runner

variable {runner : Runner} {id root : String} {record saved : Record} {network : NetworkSetup}
  {handles : List TaskHandle} {history before after : History Surroundings}
  {answer : Except Failure Unit} {result : Option (Except Failure Unit)}

/-- Whether a record that is saved shows the run up to then, and is otherwise the record that the
run has loaded. -/
def SavesAsLoaded (runner : Runner) (id : String) (before : History Surroundings)
    (saved : Record) : Prop :=
  ∃ loaded, (⟨.load id, .ok loaded⟩ : Event Surroundings) ∈ before ∧ SameButRun saved loaded ∧
    ((∃ network, Succeeds (runner.provideNetwork loaded) network before ∧
      ShowsRunning saved network) ∨ ShowsStopped saved)

theorem SavesAsLoaded.isConsistent (hsaves : runner.SavesAsLoaded id before saved) :
    IsConsistent saved := by
  obtain ⟨_, -, -, ⟨_, -, hrunning⟩ | hstopped⟩ := hsaves
  · exact hrunning.isConsistent
  · exact hstopped.isConsistent

theorem HasRoot.mem_load (hroot : runner.HasRoot id record network handles root before) :
    (⟨.load id, .ok record⟩ : Event Surroundings) ∈ before := by
  obtain ⟨⟨-, -, -⟩, -⟩ := hroot
  exact List.mem_cons_self

theorem HasRoot.succeeds_provideNetwork
    (hroot : runner.HasRoot id record network handles root before) :
    Succeeds (runner.provideNetwork record) network before := by
  obtain ⟨⟨-, hprovided, -⟩, -⟩ := hroot
  refine ⟨_, ?_, hprovided⟩
  rw [List.append_assoc, List.append_assoc]
  exact (List.prefix_append _ _).isInfix.trans (List.suffix_append _ _).isInfix

theorem SavePlace.savesAsLoaded (hplace : runner.SavePlace id before saved after) :
    runner.SavesAsLoaded id before saved := by
  cases hplace with
  | @running record network handles root history now after hroot =>
    refine ⟨record, List.mem_append_left _ hroot.mem_load,
      sameButRun_runningRecord record network now, .inl ⟨network, ?_, ?_⟩⟩
    · exact hroot.succeeds_provideNetwork.of_infix (List.prefix_append _ _).isInfix
    · exact showsRunning_runningRecord record network now
  | @stopped record network handles root now history events released ended hsaved hdeactivated =>
    obtain ⟨now, hroot⟩ := hsaved
    have hload := List.mem_append_left [⟨.captureSignals, .ok ()⟩, ⟨.today, now⟩,
      ⟨.save (runningRecord record network now), .ok ()⟩] hroot.mem_load
    exact ⟨record, List.mem_append_left _ hload,
      (sameButRun_runningRecord record network now).stoppedRecord,
      .inr (showsStopped_stoppedRecord _)⟩

/-- Every save of a run is of the record that it has loaded. -/
theorem savesAsLoaded_of_isRun (hrun : (runner.run id).attempt.IsRun history result)
    (hsplit : history = before ++ ⟨.save saved, answer⟩ :: after) :
    runner.SavesAsLoaded id before saved :=
  ((course_of_isRun hrun).savePlace hsplit).savesAsLoaded

end Runner

/-! ## Runs on one store -/

/-- The records in a store, by the ids of their machines. -/
abbrev Records := String → Option Record

/-- The records after a save. -/
def Records.put (stored : Records) (record : Record) : Records :=
  Function.update stored record.uid (some record)

/-- Whether the record of a machine, if there is one, is consistent. -/
def Records.IsConsistentAt (stored : Records) (uid : String) : Prop :=
  ∀ record, stored uid = some record → IsConsistent record

/-- How a store behaves, whatever the rest of the surroundings does. A load gives a record of the
store or fails. A save puts its record in the place of the former one, and a save that fails does so
or leaves the former one. -/
def storeConduct : Conduct Surroundings Records := fun _ stored request answer current ↦
  match request, answer with
  | .load _, .ok record => (∃ uid, stored uid = some record) ∧ current = stored
  | .save record, .ok () => current = stored.put record
  | .save record, .error _ => current = stored ∨ current = stored.put record
  | _, _ => current = stored

section Stores

variable {past steps : History Surroundings} {stored current : Records} {uid : String}

/-- Putting a consistent record into a store keeps it consistent. -/
theorem Records.IsConsistentAt.put {record : Record} (hstored : stored.IsConsistentAt uid)
    (hrecord : IsConsistent record) : (stored.put record).IsConsistentAt uid := by
  intro other hother
  unfold Records.put at hother
  obtain rfl | hne := eq_or_ne uid record.uid
  · rw [Function.update_self] at hother
    obtain rfl := Option.some.inj hother
    exact hrecord
  · rw [Function.update_of_ne hne] at hother
    exact hstored other hother

/-- A request keeps a record consistent, unless it saves one that is not. -/
theorem Records.IsConsistentAt.of_step {request : RunRequest} {answer : request.Answer}
    (hstored : stored.IsConsistentAt uid)
    (hsave : ∀ record, request = .save record → IsConsistent record)
    (hstep : storeConduct past stored request answer current) : current.IsConsistentAt uid := by
  cases request with
  | save record =>
    have hput := hstored.put (hsave record rfl)
    obtain failure | value := answer
    · obtain rfl | rfl := hstep
      · exact hstored
      · exact hput
    · obtain rfl := hstep
      exact hput
  | load id =>
    obtain failure | record := answer
    · obtain rfl := hstep
      exact hstored
    · obtain ⟨-, rfl⟩ := hstep
      exact hstored
  | _ =>
    obtain rfl := hstep
    exact hstored

/-- A record stays consistent while only consistent ones are saved. -/
theorem Records.IsConsistentAt.of_allows (hstored : stored.IsConsistentAt uid)
    (hsaves : ∀ record answer, (⟨.save record, answer⟩ : Event Surroundings) ∈ steps →
      IsConsistent record)
    (hallows : storeConduct.Allows past stored steps current) : current.IsConsistentAt uid := by
  induction hallows with
  | nil past state => exact hstored
  | cons hfirst hrest ih =>
    refine ih ?_ fun record answer hmem ↦ hsaves record answer (List.mem_cons_of_mem _ hmem)
    refine hstored.of_step ?_ hfirst
    rintro record rfl
    exact hsaves record _ List.mem_cons_self

/-- Whether a request goes to the store. -/
def RunRequest.usesStore : RunRequest → Bool
  | .load _ => true
  | .save _ => true
  | _ => false

/-- A history without loads and saves leaves the records as they are. -/
theorem allows_of_usesStore_eq_false
    (hsteps : ∀ event ∈ steps, RunRequest.usesStore event.request = false) :
    storeConduct.Allows past stored steps stored := by
  induction steps generalizing past with
  | nil => exact .nil past stored
  | cons event steps ih =>
    obtain ⟨hevent, hlater⟩ := List.forall_mem_cons.1 hsteps
    obtain ⟨request, answer⟩ := event
    refine .cons ?_ (ih hlater)
    cases request with
    | load | save => cases hevent
    | _ => rfl

/-- Calls to the host leave the records as they are. -/
theorem IsHostHistory.allows (hhistory : IsHostHistory steps) :
    storeConduct.Allows past stored steps stored := by
  refine allows_of_usesStore_eq_false fun event hmem ↦ ?_
  have haccess := hhistory event hmem
  cases hrequest : event.request with
  | load | save =>
    rw [hrequest] at haccess
    cases haccess
  | _ => rfl

/-- Starting responders leaves the store as it is. -/
theorem AreStarted.allows {responders : List Dhcp.AnyResponder} {handles : List TaskHandle}
    (hstarted : AreStarted responders handles steps) :
    storeConduct.Allows past stored steps stored := by
  refine allows_of_usesStore_eq_false ?_
  induction hstarted with
  | nil => exact List.forall_mem_nil _
  | cons handle _ ih => exact List.forall_mem_cons.2 ⟨rfl, ih⟩

/-- Aborting tasks leaves the store as it is. -/
theorem allows_abortEvents (handles : List TaskHandle) :
    storeConduct.Allows past stored (abortEvents handles) stored :=
  allows_of_usesStore_eq_false (List.forall_mem_map.2 fun _ _ ↦ rfl)

end Stores

namespace Runner

variable {runner : Runner} {id root : String} {record : Record} {network : NetworkSetup}
  {handles : List TaskHandle} {now : Timestamp} {past history : History Surroundings}
  {stored : Records}

theorem HasRoot.allows (hroot : runner.HasRoot id record network handles root history)
    (hstored : ∃ uid, stored uid = some record) :
    storeConduct.Allows past stored history stored := by
  obtain ⟨⟨-, hnetwork, hstarted⟩, hstorage⟩ := hroot
  refine .append ?_ (isHostHistory_provideStorage hstorage).allows
  refine .append (Conduct.allows_singleton ⟨hstored, rfl⟩) ?_
  exact .append (isHostHistory_provideNetwork hnetwork).allows hstarted.allows

theorem IsSaved.allows (hsaved : runner.IsSaved id record network handles root now history)
    (hstored : ∃ uid, stored uid = some record) :
    storeConduct.Allows past stored history (stored.put (runningRecord record network now)) := by
  obtain ⟨now, hroot⟩ := hsaved
  refine .append (hroot.allows hstored) ?_
  exact .cons rfl (.cons rfl (Conduct.allows_singleton rfl))

/-- After a last save that succeeded, the store shows a stopped machine. -/
theorem IsSupervised.allows {config : BootConfig} {ended : Supervised}
    {released : Except Failure Unit}
    (hsupervised : runner.IsSupervised record handles config history ended released (.ok ())) :
    storeConduct.Allows past stored history (stored.put (stoppedRecord record)) := by
  obtain ⟨ended, deactivation, _, hdeactivated⟩ := hsupervised
  refine .append (Conduct.allows_singleton rfl) (.append (allows_abortEvents handles) ?_)
  refine .append (Surroundings.isHostHistory_onDevices hdeactivated).allows ?_
  exact Conduct.allows_singleton rfl

end Runner

/-- A run that may have been cut off, with what was asked in it. -/
structure PartialRun where
  runner : Runner
  id : String
  history : History Surroundings
  isBeginning : ∃ rest result, (runner.run id).attempt.IsRun (history ++ rest) result

/-- A run up to its end. -/
def PartialRun.whole {runner : Runner} {id : String} {history : History Surroundings}
    {result : Option (Except Failure Unit)}
    (hrun : (runner.run id).attempt.IsRun history result) : PartialRun where
  runner := runner
  id := id
  history := history
  isBeginning := ⟨[], result, (List.append_nil history).symm ▸ hrun⟩

theorem PartialRun.savesAsLoaded (run : PartialRun) {before after : History Surroundings}
    {saved : Record} {answer : Except Failure Unit}
    (hsplit : run.history = before ++ ⟨.save saved, answer⟩ :: after) :
    run.runner.SavesAsLoaded run.id before saved := by
  obtain ⟨rest, result, hrun⟩ := run.isBeginning
  have hwhole : run.history ++ rest = before ++ ⟨.save saved, answer⟩ :: (after ++ rest) := by
    rw [hsplit, List.append_assoc, List.cons_append]
  exact Runner.savesAsLoaded_of_isRun hrun hwhole

/-- What is saved by runs that follow one another, and what is then in their store after each of
their steps. -/
theorem savesAsLoaded_and_isConsistentAt {runs : List PartialRun} {steps : History Surroundings}
    {stored current : Records} (hsteps : steps <+: runs.flatMap PartialRun.history)
    (hallows : storeConduct.Allows [] stored steps current) :
    (∀ run ∈ runs, ∀ before saved answer after,
      run.history = before ++ ⟨.save saved, answer⟩ :: after →
        run.runner.SavesAsLoaded run.id before saved) ∧
    ∀ uid, stored.IsConsistentAt uid → current.IsConsistentAt uid := by
  refine ⟨fun run _ _ _ _ _ ↦ run.savesAsLoaded, fun uid hstored ↦ hstored.of_allows ?_ hallows⟩
  intro record answer hmem
  obtain ⟨run, -, hrun⟩ := List.mem_flatMap.1 (hsteps.subset hmem)
  obtain ⟨before, after, hsplit⟩ := List.mem_iff_append.1 hrun
  exact (run.savesAsLoaded hsplit).isConsistent

/-- A run with a failure of the deactivation only, and one that fails to load its record. -/
theorem isConsistentAt_of_failed_deactivation :
    ∃ (runs : List PartialRun) (steps : History Surroundings) (stored current : Records),
      (runs.length = 2 ∧ stored "abc" = some Sample.record ∧ stored.IsConsistentAt "abc") ∧
      steps <+: runs.flatMap PartialRun.history ∧
      storeConduct.Allows [] stored steps current ∧
      (∀ run ∈ runs, ∀ before saved answer after,
        run.history = before ++ ⟨.save saved, answer⟩ :: after →
          run.runner.SavesAsLoaded run.id before saved) ∧
      current.IsConsistentAt "abc" := by
  obtain ⟨before, events, hsaved, hsupervised⟩ := Sample.exists_isSupervised
  have hfirst := hsaved.isRun_iff.2 ⟨_, _, _, hsupervised, rfl⟩
  have hfails : Sample.runner.FailsEarly "abc" _ _ := .load (.cause .noAddress)
  let stored : Records := Records.put (fun _ ↦ none) Sample.record
  have hstored : stored.IsConsistentAt "abc" :=
    Records.IsConsistentAt.put (fun _ hnone ↦ nomatch hnone) (.inr ⟨rfl, rfl⟩)
  have hpresent : stored "abc" = some Sample.record := Function.update_self "abc" _ _
  let runs : List PartialRun := [.whole hfirst, .whole hfails.isRun]
  have hallows : storeConduct.Allows [] stored (runs.flatMap PartialRun.history) _ :=
    .append (.append (hsaved.allows ⟨"abc", hpresent⟩) hsupervised.allows)
      (Conduct.allows_singleton rfl)
  obtain ⟨hsaves, hcurrent⟩ := savesAsLoaded_and_isConsistentAt List.prefix_rfl hallows
  exact ⟨runs, _, stored, _, ⟨rfl, hpresent, hstored⟩, List.prefix_rfl, hallows, hsaves,
    hcurrent "abc" hstored⟩

end MicroVm.Run

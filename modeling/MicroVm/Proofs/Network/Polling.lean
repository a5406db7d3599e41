import Mathlib.Algebra.Ring.Nat
import Mathlib.Data.Nat.Find
import MicroVm.Proofs.Network.Classification
import MicroVm.Proofs.Network.GuestDevices
import MicroVm.Proofs.Network.PlannedNetwork
import MicroVm.Proofs.Time.DurationOrder

/-!
# How long discovery goes on

Discovery reads the interfaces at once and then after each poll interval, as long as the interval
still ends within the timeout. So the number of readings is bounded by how often the interval fits
into the timeout. The first complete reading is taken, and without one discovery fails after the
last one. Nothing is changed in any case.
-/

namespace MicroVm.Network

variable {plan : NetworkPlan} {modes : InterfaceModes} {options : DiscoveryOptions}
  {start : Duration} {progress : Progress} {found : List Candidate} {number attempts : ℕ}

/-! ## What one reading finds -/

/-- An interface as a reading finds it. -/
def Poll.sight (poll : Poll) (link : Link) : Sighting := ⟨link, poll.gateway link.name⟩

/-- The candidates that a reading finds, none when the interfaces cannot be listed. -/
def Poll.candidates (modes : InterfaceModes) (poll : Poll) : List Candidate :=
  match poll.interfaces with
  | .ok links => (links.map poll.sight).filterMap (Sighting.candidate? modes)
  | .error _ => []

/-- Whether a reading finds a candidate, and one for each interface that has a mode. -/
def Poll.IsComplete (modes : InterfaceModes) (poll : Poll) : Prop :=
  poll.candidates modes ≠ [] ∧
    ∀ entry ∈ modes, ∃ candidate ∈ poll.candidates modes, candidate.interface = entry.1

theorem isComplete_iff : isComplete modes found = true ↔
    found ≠ [] ∧ ∀ entry ∈ modes, ∃ candidate ∈ found, candidate.interface = entry.1 := by
  rw [isComplete, Bool.and_eq_true, Bool.not_eq_true', List.isEmpty_eq_false_iff, List.all_eq_true]
  simp only [List.any_eq_true, beq_iff_eq]

/-- One more reading. -/
def Progress.read (progress : Progress) : Progress :=
  { progress with readings := progress.readings + 1 }

/-- What a reading asks is answered by what it finds. -/
theorem run_classifyAll (links : List Link) :
    (classifyAll modes links).run plan.handler progress.read =
      (some ((links.map (plan.poll progress.readings).sight).filterMap
        (Sighting.candidate? modes)), progress.read) := by
  have hrun : (classifyAll modes links).IsRun
      ((links.map (plan.poll progress.readings).sight).flatMap (Sighting.events modes)) _ :=
    isRun_classifyAll_iff.2 ⟨_, by rw [List.map_map]; exact List.map_id' links, rfl, rfl⟩
  apply hrun.run_eq
  intro event hevent
  obtain ⟨sighting, hsighting, hsighted⟩ := List.mem_flatMap.1 hevent
  obtain ⟨link, -, rfl⟩ := List.mem_map.1 hsighting
  obtain ⟨rfl, -⟩ | ⟨text, rfl⟩ := Sighting.eq_of_mem_events hsighted
  · rfl
  · rfl

/-- The result of a reading. -/
def Poll.outcome (modes : InterfaceModes) (poll : Poll) : Except Failure (List Candidate) :=
  match poll.interfaces with
  | .ok _ => .ok (poll.candidates modes)
  | .error failure => .error (.within .listingInterfaces failure)

theorem run_survey : (survey modes).attempt.run plan.handler progress =
    (some ((plan.poll progress.readings).outcome modes), progress.read) := by
  have hlist : (Task.within .listingInterfaces Links.list).attempt.run plan.handler progress =
      (some ((plan.poll progress.readings).interfaces.mapError (.within .listingInterfaces)),
        progress.read) :=
    Task.run_within rfl
  rw [survey]
  unfold Poll.outcome Poll.candidates
  cases hinterfaces : (plan.poll progress.readings).interfaces with
  | error failure =>
    rw [hinterfaces] at hlist
    exact Task.run_bind_of_error hlist
  | ok links =>
    rw [hinterfaces] at hlist
    rw [Task.run_bind_of_ok hlist, Task.attempt_liftM, Program.run_bind, run_classifyAll]
    rfl

/-! ## One reading after the other -/

/-- How far discovery has come after so many readings and the waiting after each. -/
def waited (options : DiscoveryOptions) (start : Duration) (number : ℕ) : Progress :=
  ⟨start + options.pollInterval.times number, number, []⟩

/-- How far discovery has come when it ends with the reading of a number. -/
def ended (options : DiscoveryOptions) (start : Duration) (number : ℕ) : Progress :=
  ⟨start + options.pollInterval.times number, number + 1, []⟩

/-- What a reading finds decides whether discovery goes on. -/
theorem run_discoverUntil (plan : NetworkPlan) (options : DiscoveryOptions)
    (deadline start : Duration) (number attempts : ℕ) :
    (discoverUntil options deadline (attempts + 1)).attempt.run plan.handler
        (waited options start number) =
      if isComplete options.modes ((plan.poll number).candidates options.modes) then
        (some (.ok ((plan.poll number).candidates options.modes)), ended options start number)
      else (discoverUntil.again options deadline attempts).attempt.run plan.handler
        (ended options start number) := by
  have hsurvey : (survey options.modes).attempt.run plan.handler (waited options start number) =
      (some ((plan.poll number).outcome options.modes), ended options start number) := run_survey
  rw [discoverUntil, Task.lift_eq_liftM, Task.run_liftM_bind hsurvey]
  unfold Poll.outcome Poll.candidates
  cases (plan.poll number).interfaces with
  | error failure => rfl
  | ok links =>
    dsimp only
    split <;> rfl

/-- A complete reading is taken. -/
theorem run_discoverUntil_of_complete {deadline : Duration}
    (hcomplete : (plan.poll number).IsComplete options.modes) :
    (discoverUntil options deadline (attempts + 1)).attempt.run plan.handler
        (waited options start number) =
      (some (.ok ((plan.poll number).candidates options.modes)), ended options start number) := by
  rw [run_discoverUntil, if_pos (isComplete_iff.2 hcomplete)]

/-- Another reading is waited for. -/
theorem run_discoverUntil_of_waits {deadline : Duration}
    (hincomplete : ¬ (plan.poll number).IsComplete options.modes)
    (htime : start + options.pollInterval.times number + options.pollInterval ≤ deadline) :
    (discoverUntil options deadline (attempts + 1)).attempt.run plan.handler
        (waited options start number) =
      (discoverUntil options deadline attempts).attempt.run plan.handler
        (waited options start (number + 1)) := by
  have hnow : Links.now.run plan.handler (ended options start number) =
      (some (start + options.pollInterval.times number), ended options start number) := rfl
  have hsleep : (Links.sleep options.pollInterval).run plan.handler (ended options start number) =
      (some (), waited options start (number + 1)) := by
    rw [waited, Duration.add_times_succ]
    rfl
  rw [run_discoverUntil, if_neg (mt isComplete_iff.1 hincomplete), discoverUntil.again,
    Task.run_liftM_bind hnow, if_neg (not_lt_of_ge htime), Task.run_liftM_bind hsleep]

/-- There is no time for another reading. -/
theorem run_discoverUntil_of_late {deadline : Duration}
    (hincomplete : ¬ (plan.poll number).IsComplete options.modes)
    (htime : deadline < start + options.pollInterval.times number + options.pollInterval) :
    (discoverUntil options deadline (attempts + 1)).attempt.run plan.handler
        (waited options start number) =
      (some (.error (.cause (.noInterfaces options.timeout))), ended options start number) := by
  have hnow : Links.now.run plan.handler (ended options start number) =
      (some (start + options.pollInterval.times number), ended options start number) := rfl
  rw [run_discoverUntil, if_neg (mt isComplete_iff.1 hincomplete), discoverUntil.again,
    Task.run_liftM_bind hnow, if_pos htime]
  rfl

/-! ## The whole of discovery -/

/-- How often discovery can wait for another reading. -/
def DiscoveryOptions.rounds (options : DiscoveryOptions) : ℕ :=
  options.pollInterval.fits options.timeout

/-- Readings that are not complete are passed over, as long as there is time. -/
theorem run_discoverUntil_skip (hinterval : 0 < options.pollInterval.nanoseconds)
    (hincomplete : ∀ earlier < number, ¬ (plan.poll earlier).IsComplete options.modes)
    (hnumber : number ≤ options.rounds) (attempts : ℕ) :
    (discoverUntil options (start + options.timeout) (attempts + number)).attempt.run plan.handler
        (waited options start 0) =
      (discoverUntil options (start + options.timeout) attempts).attempt.run plan.handler
        (waited options start number) := by
  induction number generalizing attempts with
  | zero => rfl
  | succ number ih =>
    have htime : start + options.pollInterval.times number + options.pollInterval ≤
        start + options.timeout := by
      rw [← not_lt, Duration.add_lt_add_times_iff hinterval, not_le]
      exact hnumber
    have hearlier := ih (fun earlier hlt ↦ hincomplete earlier (Nat.lt_succ_of_lt hlt))
      (Nat.le_of_succ_le hnumber) (attempts + 1)
    rw [← Nat.succ_add_eq_add_succ, hearlier]
    exact run_discoverUntil_of_waits (hincomplete number (Nat.lt_succ_self number)) htime

/-- Of the readings in time that are complete there is a first one. -/
theorem exists_first_complete {rounds : ℕ}
    (hsome : ∃ number ≤ rounds, (plan.poll number).IsComplete modes) :
    ∃ number ≤ rounds, (plan.poll number).IsComplete modes ∧
      ∀ earlier < number, ¬ (plan.poll earlier).IsComplete modes := by
  classical
  obtain ⟨hnumber, hcomplete⟩ := Nat.find_spec hsome
  refine ⟨Nat.find hsome, hnumber, hcomplete, fun earlier hearlier hfound ↦ ?_⟩
  exact Nat.find_min hsome hearlier ⟨(Nat.le_of_lt hearlier).trans hnumber, hfound⟩

/-- How discovery ends, whatever is found when. -/
structure IsBounded (plan : NetworkPlan) (options : DiscoveryOptions) (start : Duration)
    (rounds : ℕ) : Prop where
  /-- Discovery succeeds exactly if a reading in time is complete. -/
  succeeds_iff :
    (∃ found, ((discover options).attempt.run plan.handler (.start start)).1 =
      some (.ok found)) ↔ ∃ number ≤ rounds, (plan.poll number).IsComplete options.modes
  /-- It takes the candidates of the first one that is complete. -/
  finds : ∀ number ≤ rounds, (plan.poll number).IsComplete options.modes →
    (∀ earlier < number, ¬ (plan.poll earlier).IsComplete options.modes) →
      (discover options).attempt.run plan.handler (.start start) =
        (some (.ok ((plan.poll number).candidates options.modes)),
          ⟨start + options.pollInterval.times number, number + 1, []⟩)
  /-- Otherwise it fails after the last reading in time. -/
  gives_up : (∀ number ≤ rounds, ¬ (plan.poll number).IsComplete options.modes) →
    (discover options).attempt.run plan.handler (.start start) =
      (some (.error (.cause (.noInterfaces options.timeout))),
        ⟨start + options.pollInterval.times rounds, rounds + 1, []⟩)
  /-- The last reading in time is at most one interval before the end. -/
  last_in_time : options.pollInterval.times rounds ≤ options.timeout ∧
    options.timeout < options.pollInterval.times rounds + options.pollInterval
  /-- Nothing is changed. -/
  changes_eq_nil : ((discover options).attempt.run plan.handler (.start start)).2.changes = []

section Bounded

variable (hinterval : 0 < options.pollInterval.nanoseconds)
  (hrounds : options.rounds + 1 < UInt32.size) (hshown : (start + options.timeout).isShown)

include hshown in
/-- Discovery fixes its deadline once, when it begins. -/
theorem run_discover : (discover options).attempt.run plan.handler (.start start) =
    (discoverUntil options (start + options.timeout) maxAttempts).attempt.run plan.handler
      (waited options start 0) := by
  have hnow : Links.now.run plan.handler (.start start) = (some start, .start start) := rfl
  rw [discover, Task.run_liftM_bind hnow]
  dsimp only
  rw [if_pos hshown, waited, Duration.add_times_zero]
  rfl

include hinterval hrounds hshown

theorem run_discover_of_complete (hnumber : number ≤ options.rounds)
    (hcomplete : (plan.poll number).IsComplete options.modes)
    (hfirst : ∀ earlier < number, ¬ (plan.poll earlier).IsComplete options.modes) :
    (discover options).attempt.run plan.handler (.start start) =
      (some (.ok ((plan.poll number).candidates options.modes)), ended options start number) := by
  obtain ⟨attempts, hattempts⟩ : ∃ attempts, maxAttempts = attempts + 1 + number :=
    ⟨maxAttempts - 1 - number, by unfold maxAttempts; omega⟩
  rw [run_discover hshown, hattempts, run_discoverUntil_skip hinterval hfirst hnumber]
  exact run_discoverUntil_of_complete hcomplete

theorem run_discover_of_incomplete
    (hincomplete : ∀ number ≤ options.rounds, ¬ (plan.poll number).IsComplete options.modes) :
    (discover options).attempt.run plan.handler (.start start) =
      (some (.error (.cause (.noInterfaces options.timeout))),
        ended options start options.rounds) := by
  obtain ⟨attempts, hattempts⟩ : ∃ attempts, maxAttempts = attempts + 1 + options.rounds :=
    ⟨maxAttempts - 1 - options.rounds, by unfold maxAttempts; omega⟩
  have hfirst : ∀ earlier < options.rounds, ¬ (plan.poll earlier).IsComplete options.modes :=
    fun earlier hearlier ↦ hincomplete earlier (Nat.le_of_lt hearlier)
  have hlate : start + options.timeout <
      start + options.pollInterval.times options.rounds + options.pollInterval :=
    (Duration.add_lt_add_times_iff hinterval start options.rounds).2 (Nat.le_refl options.rounds)
  rw [run_discover hshown, hattempts,
    run_discoverUntil_skip hinterval hfirst (Nat.le_refl options.rounds)]
  exact run_discoverUntil_of_late (hincomplete options.rounds (Nat.le_refl options.rounds)) hlate

theorem isBounded_of_isShown (plan : NetworkPlan) :
    IsBounded plan options start options.rounds where
  succeeds_iff := by
    constructor
    · rintro ⟨found, hfound⟩
      by_contra hnone
      rw [run_discover_of_incomplete hinterval hrounds hshown fun number hnumber hcomplete ↦
        hnone ⟨number, hnumber, hcomplete⟩] at hfound
      cases hfound
    · intro hsome
      obtain ⟨number, hnumber, hcomplete, hfirst⟩ := exists_first_complete hsome
      rw [run_discover_of_complete hinterval hrounds hshown hnumber hcomplete hfirst]
      exact ⟨_, rfl⟩
  finds number hnumber hcomplete hfirst :=
    run_discover_of_complete hinterval hrounds hshown hnumber hcomplete hfirst
  gives_up hincomplete := run_discover_of_incomplete hinterval hrounds hshown hincomplete
  last_in_time :=
    ⟨Duration.times_fits_le _ _, Duration.lt_times_fits_add hinterval options.timeout⟩
  changes_eq_nil := by
    by_cases hsome : ∃ number ≤ options.rounds, (plan.poll number).IsComplete options.modes
    · obtain ⟨number, hnumber, hcomplete, hfirst⟩ := exists_first_complete hsome
      rw [run_discover_of_complete hinterval hrounds hshown hnumber hcomplete hfirst]
      rfl
    · rw [run_discover_of_incomplete hinterval hrounds hshown fun number hnumber hcomplete ↦
        hsome ⟨number, hnumber, hcomplete⟩]
      rfl

end Bounded

/-- A clock that has not counted 62 bits of seconds can show the end of every timeout that is given
in 64 bits of milliseconds. -/
theorem isShown_add_ofMilliseconds (hstart : start.seconds < 2 ^ 62) (timeout : UInt64) :
    (start + .ofMilliseconds timeout.toNat).isShown := by
  have htimeout : timeout.toNat < 2 ^ 64 := timeout.toNat_lt
  have hnanoseconds : start.nanoseconds < 2 ^ 62 * 1000000000 :=
    (Nat.div_lt_iff_lt_mul (by decide)).1 hstart
  rw [Duration.isShown, decide_eq_true_eq, Duration.nanoseconds_add, Duration.ofMilliseconds]
  dsimp only
  omega

/-- Discovery is bounded by how often its interval fits into its timeout. -/
theorem discover_isBounded (plan : NetworkPlan) (modes : InterfaceModes)
    {pollInterval timeout : UInt64} (hinterval : 0 < pollInterval.toNat)
    (hrounds : timeout.toNat / pollInterval.toNat + 1 < UInt32.size)
    (hstart : start.seconds < 2 ^ 62) :
    IsBounded plan
      ⟨modes, .ofMilliseconds pollInterval.toNat, .ofMilliseconds timeout.toNat⟩ start
      (timeout.toNat / pollInterval.toNat) := by
  have hfits : DiscoveryOptions.rounds
      ⟨modes, .ofMilliseconds pollInterval.toNat, .ofMilliseconds timeout.toNat⟩ =
        timeout.toNat / pollInterval.toNat :=
    Duration.fits_ofMilliseconds _ _
  rw [← hfits] at hrounds ⊢
  exact isBounded_of_isShown (Nat.mul_pos hinterval (by decide)) hrounds
    (isShown_add_ofMilliseconds hstart timeout) plan

namespace Sample

/-- A network whose interface has an address from the third reading on only. -/
def slow : NetworkPlan where
  poll number :=
    ⟨.ok [⟨"eth0", some deviceMac, false, if number < 2 then [] else [deviceAddress]⟩],
      fun _ ↦ .ok none⟩
  ending _ := .ok ()
  bytes _ := deviceMac.octets

end Sample

/-- In 250 milliseconds there are three readings of one in 100 milliseconds, and the last of them
finds the interface. -/
theorem discover_isBounded_slow :
    (0 < (100 : UInt64).toNat ∧ (250 : UInt64).toNat / (100 : UInt64).toNat + 1 < UInt32.size ∧
      (⟨0⟩ : Duration).seconds < 2 ^ 62) ∧
    IsBounded Sample.slow ⟨[("eth0", .bridge)], .ofMilliseconds 100, .ofMilliseconds 250⟩ ⟨0⟩ 2 ∧
    (discover ⟨[("eth0", .bridge)], .ofMilliseconds 100, .ofMilliseconds 250⟩).attempt.run
        Sample.slow.handler (.start ⟨0⟩) =
      (some (.ok [.leased "eth0" Sample.deviceMac Sample.deviceAddress none]),
        ⟨.ofMilliseconds 200, 3, []⟩) := by
  have hbounded : IsBounded Sample.slow ⟨[("eth0", .bridge)],
      .ofMilliseconds (100 : UInt64).toNat, .ofMilliseconds (250 : UInt64).toNat⟩ ⟨0⟩ _ :=
    discover_isBounded Sample.slow _ (by decide) (by decide) (by decide)
  refine ⟨by decide, hbounded, hbounded.finds 2 (by decide) ?_ ?_⟩
  · exact isComplete_iff.1 (by decide)
  · intro earlier hearlier hcomplete
    have hempty : ∀ number < 2, (Sample.slow.poll number).candidates [("eth0", .bridge)] = [] := by
      decide
    exact hcomplete.1 (hempty earlier hearlier)

end MicroVm.Network

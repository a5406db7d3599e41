import Mathlib.Algebra.Order.BigOperators.Group.Finset
import Mathlib.Order.WellFounded
import MicroVm.Proofs.Rehearsal.AgendaRuns

/-!
# What signals do to a guest

Each signal leads to its own acts at its own times, for every target and in every order of the
tasks that are ready. So a guest that accepts presses until it dies is not killed before the first
signal to quit or the end of the first grace period. It is not killed at all if it dies before every
grace period ends and no signal asks to quit, and otherwise, if it does not die by itself, it is
killed right then.
-/

namespace MicroVm.Hypervisor

open MicroVm.Rehearsal

namespace Listening

variable {σ : Type} {conduct : TargetConduct σ} {grace : Duration} {schedule : Schedule}
  {state after : Listening σ} {target : σ} {i : ℕ}

/-! ## Nothing gets stuck -/

/-- The number of steps that are left of a task if all its acts succeed. -/
def effort : ShutdownProgram → ℕ
  | .done _ => 0
  | .halt => 0
  | .ask .pressButton next => effort (next (.ok ())) + 1
  | .ask .kill next => effort (next (.ok ())) + 1
  | .ask (.sleep _) next => effort (next ()) + 1

/-- The number of steps that are left for a signal. A signal that comes is received first. -/
def effortLeft : Option ShutdownTask → ℕ
  | none => 5
  | some task => effort task.rest

/-- The number of steps that are left for all signals, but for those in which time passes. -/
def workLeft (schedule : Schedule) (state : Listening σ) : ℕ :=
  ∑ i ∈ Finset.range schedule.length, effortLeft (state.task i)

theorem effort_handleSignal_lt (signal : ShutdownSignal) (grace : Duration) :
    effort (handleSignal signal grace) < effortLeft none := by
  by_cases hquit : signal = .quit
  · subst hquit
    exact Nat.one_lt_succ_succ 3
  · rw [handleSignal_of_ne_quit hquit]
    exact Nat.lt_succ_self 4

/-- A task has less left to do after an act, also if it fails. -/
theorem Stage.effort_lt_of_acts {time now due : Duration} {signal : ShutdownSignal}
    {entries : List ShutdownEntry} {rest : ShutdownProgram} {act : ShutdownAct}
    {next : Except Failure Unit → ShutdownProgram}
    (hstage : Stage grace time signal now (some ⟨due, rest⟩) entries) (hacts : Acts rest act next)
    (answer : Except Failure Unit) : effort (next answer) < effort rest := by
  cases hstage with
  | received =>
    by_cases hquit : signal = .quit
    · subst hquit
      cases hacts
      exact Nat.one_pos
    · rw [handleSignal_of_ne_quit hquit] at hacts ⊢
      cases hacts
      exact Nat.lt_succ_self 3
  | pressed => cases hacts
  | sleeping =>
    cases hacts
    cases answer with
    | ok => exact Nat.lt_succ_self 1
    | error => exact Nat.two_pos
  | ignored =>
    cases hacts
    exact Nat.one_pos
  | finished => cases hacts

/-- A step of one task lowers the work that is left for all of them. -/
theorem workLeft_lt {task : ShutdownTask} (hi : i < schedule.length)
    (htask : after.task = Function.update state.task i (some task))
    (hless : effort task.rest < effortLeft (state.task i)) :
    workLeft schedule after < workLeft schedule state := by
  have hself : effortLeft (after.task i) < effortLeft (state.task i) := by
    rwa [htask, Function.update_self]
  refine Finset.sum_lt_sum (fun j _ ↦ ?_) ⟨i, Finset.mem_range.2 hi, hself⟩
  by_cases hne : j = i
  · subst hne
    exact hself.le
  · rw [htask, Function.update_of_ne hne]

/-- As long as not all is over, some task is pending. -/
theorem exists_isPending (hover : ¬ IsOver schedule state) :
    ∃ i < schedule.length, ∃ due, IsPending schedule state i due := by
  by_contra hnone
  refine hover fun i hi ↦ ?_
  cases htask : state.task i with
  | none => exact absurd ⟨i, hi, _, .coming (List.getElem?_eq_getElem hi) htask⟩ hnone
  | some task =>
    exact ⟨task.due, task.rest, rfl, fun hasking ↦ hnone ⟨i, hi, _, .underway htask hasking⟩⟩

/-- Time can pass until something is ready. -/
theorem exists_ready (conduct : TargetConduct σ) (honTime : IsOnTime grace schedule state)
    (hover : ¬ IsOver schedule state) :
    ∃ later, Reaches conduct grace schedule state { state with now := later } ∧
      ∃ i < schedule.length, ∃ due ≤ later, IsPending schedule state i due := by
  have hwellFounded := InvImage.wf Duration.nanoseconds Nat.lt_wfRel.wf
  obtain ⟨due, ⟨i, hi, hpending⟩, hleast⟩ := hwellFounded.has_min
    {due | ∃ i < schedule.length, IsPending schedule state i due} (by
      obtain ⟨i, hi, due, hpending⟩ := exists_isPending hover
      exact ⟨due, i, hi, hpending⟩)
  obtain hready | hlater := le_or_gt due state.now
  · exact ⟨state.now, .start, i, hi, due, hready, hpending⟩
  · refine ⟨due, honTime.reaches_pass hlater.le fun j hj other hother ↦ ?_, i, hi, due, le_refl due,
      hpending⟩
    exact not_lt.1 (hleast other ⟨j, hj, hother⟩)

/-- What is ready can be done, and there is less left to do after it. -/
theorem IsPending.exists_step {due : Duration}
    (htotal : ∀ time act target, ∃ answer after, conduct time act target answer after)
    (honTime : IsOnTime grace schedule state) (hi : i < schedule.length)
    (hpending : IsPending schedule state i due) (hready : due ≤ state.now) :
    ∃ after, Step conduct grace schedule state after ∧
      workLeft schedule after < workLeft schedule state := by
  cases hpending with
  | coming scheduled unknown =>
    refine ⟨_, .receive scheduled unknown hready, workLeft_lt hi rfl ?_⟩
    rw [unknown]
    exact effort_handleSignal_lt _ grace
  | @underway rest task asking =>
    have hstage := honTime.stage i _ _ (List.getElem?_eq_getElem hi)
    rw [task] at hstage
    have hacts {act : ShutdownAct} {next : Except Failure Unit → ShutdownProgram}
        (hacts : Acts rest act next) : ∃ after, Step conduct grace schedule state after ∧
          workLeft schedule after < workLeft schedule state := by
      obtain ⟨answer, after, hanswers⟩ := htotal state.now act state.target
      refine ⟨_, .act task hready hacts hanswers, workLeft_lt hi rfl ?_⟩
      rw [task]
      exact hstage.effort_lt_of_acts hacts answer
    match rest, asking with
    | .ask .pressButton next, _ => exact hacts (.press next)
    | .ask .kill next, _ => exact hacts (.kill next)
    | .ask (.sleep duration) next, _ =>
      refine ⟨_, .sleep task hready (.sleep duration next), workLeft_lt hi rfl ?_⟩
      rw [task]
      exact Nat.lt_succ_self _

/-- Whatever was done before, all that is left to do can be done. -/
theorem exists_isOver
    (htotal : ∀ time act target, ∃ answer after, conduct time act target answer after)
    (honTime : IsOnTime grace schedule state) :
    ∃ after, Reaches conduct grace schedule state after ∧ IsOver schedule after := by
  induction hwork : workLeft schedule state using Nat.strong_induction_on generalizing state with
  | _ work ih =>
    by_cases hover : IsOver schedule state
    · exact ⟨state, .start, hover⟩
    · obtain ⟨later, hpasses, i, hi, due, hready, hpending⟩ := exists_ready conduct honTime hover
      have hpendingLater : IsPending schedule { state with now := later } i due := by
        cases hpending with
        | coming scheduled unknown => exact .coming scheduled unknown
        | underway task asking => exact .underway task asking
      obtain ⟨after, hstep, hless⟩ :=
        hpendingLater.exists_step htotal (honTime.reaches hpasses) hi hready
      have hreaches := hpasses.step hstep
      obtain ⟨last, hlast, hover⟩ :=
        ih _ (hless.trans_eq hwork) (honTime.reaches hreaches) rfl
      exact ⟨last, hreaches.trans hlast, hover⟩

/-! ## What is done for the signals -/

/-- Whether each signal has led to its own acts at its own times, and nothing else was done. -/
structure ActsAsDue (grace : Duration) (schedule : Schedule) (state : Listening σ) : Prop where
  /-- All is done for a signal of the schedule. -/
  sources : ∀ acted ∈ state.log, acted.source < schedule.length
  /-- What was done for a signal so far is the beginning of its course. -/
  begun : ∀ i time signal, schedule[i]? = some (time, signal) →
    ∃ whole, Course grace time signal whole ∧ entriesOf i state.log <+: whole
  /-- In the end, and already after its deadline, all of its course was done. -/
  course : ∀ i time signal, schedule[i]? = some (time, signal) →
    IsOver schedule state ∨ deadline grace (time, signal) < state.now →
      Course grace time signal (entriesOf i state.log)

/-- When every task is on time, all that was done was done as it was due. -/
theorem IsOnTime.actsAsDue (honTime : IsOnTime grace schedule state) :
    ActsAsDue grace schedule state where
  sources := honTime.sources
  begun i time signal hscheduled := (honTime.stage i time signal hscheduled).exists_course
  course i time signal hscheduled hdone := by
    have hstage := honTime.stage i time signal hscheduled
    obtain hover | hlate := hdone
    · obtain ⟨hi, -⟩ := List.getElem?_eq_some_iff.1 hscheduled
      obtain ⟨due, rest, htask, hrest⟩ := hover i hi
      rw [htask] at hstage
      exact hstage.course_of_over hrest
    · exact hstage.course_of_late hlate

/-- Each act belongs to the course of a signal of the schedule. -/
theorem ActsAsDue.exists_course (hacts : ActsAsDue grace schedule state) {acted : Acted}
    (hacted : acted ∈ state.log) :
    ∃ arrival ∈ schedule, ∃ whole, Course grace arrival.1 arrival.2 whole ∧
      acted.entry ∈ whole := by
  have hscheduled := List.getElem?_eq_getElem (hacts.sources acted hacted)
  obtain ⟨whole, hcourse, hbegins⟩ := hacts.begun _ _ _ hscheduled
  have hentry : acted.entry ∈ entriesOf acted.source state.log := mem_entriesOf_iff.2 hacted
  exact ⟨_, List.getElem_mem _, whole, hcourse, hbegins.subset hentry⟩

/-- A kill comes at the deadline of a signal. -/
theorem Course.time_of_kill {time : Duration} {signal : ShutdownSignal}
    {entries : List ShutdownEntry} {entry : ShutdownEntry}
    (hcourse : Course grace time signal entries) (hentry : entry ∈ entries)
    (hkill : entry.act = .kill) : entry.time = deadline grace (time, signal) := by
  cases hcourse with
  | quit =>
    obtain rfl := List.mem_singleton.1 hentry
    rfl
  | refused patient first =>
    simp only [List.mem_cons, List.not_mem_nil, or_false] at hentry
    obtain rfl | rfl := hentry
    · cases hkill
    · cases hkill
  | accepted patient first killed =>
    rw [deadline_of_ne_quit patient]
    simp only [List.mem_cons, List.not_mem_nil, or_false] at hentry
    obtain rfl | rfl | rfl := hentry
    · cases hkill
    · cases hkill
    · rfl

/-- A signal that leaves time leads to a kill only after a press at the same time was accepted. -/
theorem Course.accepted_of_kill {time : Duration} {signal : ShutdownSignal}
    {entries : List ShutdownEntry} {entry : ShutdownEntry}
    (hcourse : Course grace time signal entries) (hentry : entry ∈ entries)
    (hkill : entry.act = .kill) (hsignal : signal ≠ .quit) :
    ⟨time + grace, .press, true⟩ ∈ entries := by
  cases hcourse with
  | quit => exact absurd rfl hsignal
  | refused patient first =>
    simp only [List.mem_cons, List.not_mem_nil, or_false] at hentry
    obtain rfl | rfl := hentry
    · cases hkill
    · cases hkill
  | accepted => exact List.mem_cons_of_mem _ List.mem_cons_self

theorem Stage.accepted_of_kill {time now : Duration} {signal : ShutdownSignal}
    {task : Option ShutdownTask} {entries : List ShutdownEntry} {entry : ShutdownEntry}
    (hstage : Stage grace time signal now task entries) (hentry : entry ∈ entries)
    (hkill : entry.act = .kill) (hsignal : signal ≠ .quit) :
    ⟨time + grace, .press, true⟩ ∈ entries := by
  cases hstage with
  | coming => cases hentry
  | received => cases hentry
  | pressed =>
    obtain rfl := List.mem_singleton.1 hentry
    cases hkill
  | sleeping =>
    obtain rfl := List.mem_singleton.1 hentry
    cases hkill
  | ignored => exact List.mem_cons_of_mem _ List.mem_cons_self
  | finished course => exact course.accepted_of_kill hentry hkill hsignal

/-- The last act for a signal comes at its deadline: a kill, or a press that is refused. -/
theorem Course.exists_last {time : Duration} {signal : ShutdownSignal}
    {entries : List ShutdownEntry} (hcourse : Course grace time signal entries) :
    ∃ entry ∈ entries, entry.time = deadline grace (time, signal) ∧
      (entry.act = .kill ∨ entry.act = .press ∧ entry.succeeded = false) := by
  cases hcourse with
  | quit killed => exact ⟨_, List.mem_cons_self, rfl, .inl rfl⟩
  | refused patient first =>
    exact ⟨⟨time + grace, .press, false⟩, by simp, (deadline_of_ne_quit patient).symm,
      .inr ⟨rfl, rfl⟩⟩
  | accepted patient first killed =>
    exact ⟨⟨time + grace, .kill, killed⟩, by simp, (deadline_of_ne_quit patient).symm, .inl rfl⟩

end Listening

/-! ## A guest that accepts presses until it dies -/

/-- A guest that dies at a time of its own or by the first kill that succeeds. It accepts presses
until then. The state tells whether it was killed. -/
def mortal (diesAt : Option Duration) : TargetConduct Bool
  | time, .press, isKilled, answer, after =>
    after = isKilled ∧ (answer.isOk ↔ isKilled = false ∧ ∀ death ∈ diesAt, time < death)
  | _, .kill, isKilled, answer, after => after = (isKilled || answer.isOk)

namespace Listening

section Mortal

variable {diesAt : Option Duration} {grace : Duration} {schedule : Schedule}
  {state after : Listening Bool} {i : ℕ}

/-- What the acts tell of a guest that accepts presses until it dies. -/
structure TellsDeath (diesAt : Option Duration) (state : Listening Bool) : Prop where
  killed : state.target = true →
    ∃ acted ∈ state.log, acted.entry.act = .kill ∧ acted.entry.time ≤ state.now
  accepted : ∀ acted ∈ state.log, acted.entry.act = .press → acted.entry.succeeded = true →
    ∀ death ∈ diesAt, acted.entry.time < death
  refused : diesAt = none → ∀ acted ∈ state.log, acted.entry.act = .press →
    acted.entry.succeeded = false →
      ∃ earlier ∈ state.log, earlier.entry.act = .kill ∧ earlier.entry.time ≤ acted.entry.time

theorem tellsDeath_initial : TellsDeath diesAt (initial false) := ⟨nofun, nofun, nofun⟩

theorem TellsDeath.act (htells : TellsDeath diesAt state) (i : ℕ) {act : ShutdownAct}
    {answer : Except Failure Unit} {isKilled : Bool}
    (hanswers : mortal diesAt state.now act state.target answer isKilled) :
    TellsDeath diesAt (state.act i act answer.isOk isKilled) := by
  have hearlier {holds : Acted → Prop} (hsome : ∃ acted ∈ state.log, holds acted) :
      ∃ acted ∈ (state.act i act answer.isOk isKilled).log, holds acted := by
    obtain ⟨acted, hacted, hholds⟩ := hsome
    exact ⟨acted, List.mem_append_left _ hacted, hholds⟩
  cases act with
  | press =>
    obtain ⟨rfl, hok⟩ := hanswers
    refine ⟨fun hkilled ↦ hearlier (htells.killed hkilled), ?_, fun hdies ↦ ?_⟩
    · exact List.forall_mem_append.2 ⟨htells.accepted,
        List.forall_mem_singleton.2 fun _ hsucceeded ↦ (hok.1 hsucceeded).2⟩
    · refine List.forall_mem_append.2 ⟨fun acted hacted hpress hfailed ↦
        hearlier (htells.refused hdies acted hacted hpress hfailed), ?_⟩
      refine List.forall_mem_singleton.2 fun _ hfailed ↦ hearlier (htells.killed ?_)
      by_contra halive
      have hsucceeds := hok.2 ⟨Bool.eq_false_of_not_eq_true halive, by simp [hdies]⟩
      exact Bool.false_ne_true (hfailed.symm.trans hsucceeds)
  | kill =>
    obtain rfl := hanswers
    refine ⟨fun hkilled ↦ ?_, ?_, fun hdies ↦ ?_⟩
    · obtain hbefore | hnow := Bool.or_eq_true_iff.1 hkilled
      · exact hearlier (htells.killed hbefore)
      · exact ⟨_, List.mem_append_right _ (List.mem_singleton_self _), rfl, le_refl state.now⟩
    · exact List.forall_mem_append.2 ⟨htells.accepted, List.forall_mem_singleton.2 nofun⟩
    · exact List.forall_mem_append.2 ⟨fun acted hacted hpress hfailed ↦
        hearlier (htells.refused hdies acted hacted hpress hfailed),
        List.forall_mem_singleton.2 nofun⟩

theorem TellsDeath.step (htells : TellsDeath diesAt state)
    (hstep : Step (mortal diesAt) grace schedule state after) : TellsDeath diesAt after := by
  cases hstep with
  | receive => exact ⟨htells.killed, htells.accepted, htells.refused⟩
  | @act i _ _ _ _ _ _ _ _ _ answers =>
    have hacted := htells.act i answers
    exact ⟨hacted.killed, hacted.accepted, hacted.refused⟩
  | sleep => exact ⟨htells.killed, htells.accepted, htells.refused⟩
  | pass passes =>
    refine ⟨fun hkilled ↦ ?_, htells.accepted, htells.refused⟩
    obtain ⟨acted, hacted, hkill, htime⟩ := htells.killed hkilled
    exact ⟨acted, hacted, hkill, le_trans htime (le_of_lt passes)⟩

theorem tellsDeath_of_reaches
    (hreaches : Reaches (mortal diesAt) grace schedule (initial false) state) :
    TellsDeath diesAt state := by
  induction hreaches with
  | start => exact tellsDeath_initial
  | step _ last ih => exact ih.step last

/-- When a guest that accepts presses until it dies is killed. -/
structure KillsInTime (diesAt : Option Duration) (grace : Duration) (schedule : Schedule)
    (state : Listening Bool) : Prop where
  /-- No kill comes before the first deadline. -/
  not_before : ∀ earliest, (∀ arrival ∈ schedule, earliest ≤ deadline grace arrival) →
    ∀ acted ∈ state.log, acted.entry.act = .kill → earliest ≤ acted.entry.time
  /-- No kill comes if the guest dies before any grace period ends and need not quit. -/
  not_at_all : (∀ arrival ∈ schedule, arrival.2 ≠ .quit) →
    (∃ death ∈ diesAt, ∀ arrival ∈ schedule, death ≤ arrival.1 + grace) →
      ∀ acted ∈ state.log, acted.entry.act ≠ .kill
  /-- A guest that does not die by itself is killed at the first deadline. -/
  exactly_then : diesAt = none → ∀ first ∈ schedule,
    (∀ arrival ∈ schedule, deadline grace first ≤ deadline grace arrival) →
      IsOver schedule state ∨ deadline grace first < state.now →
        ∃ acted ∈ state.log, acted.entry.act = .kill ∧ acted.entry.time = deadline grace first

theorem killsInTime_of_reaches
    (hreaches : Reaches (mortal diesAt) grace schedule (initial false) state) :
    KillsInTime diesAt grace schedule state := by
  have honTime := isOnTime_of_reaches hreaches
  have hacts := honTime.actsAsDue
  have htells := tellsDeath_of_reaches hreaches
  have hnotBefore (earliest : Duration)
      (hearliest : ∀ arrival ∈ schedule, earliest ≤ deadline grace arrival) (acted : Acted)
      (hacted : acted ∈ state.log) (hkill : acted.entry.act = .kill) :
      earliest ≤ acted.entry.time := by
    obtain ⟨arrival, harrival, whole, hcourse, hentry⟩ := hacts.exists_course hacted
    rw [hcourse.time_of_kill hentry hkill]
    exact hearliest arrival harrival
  refine ⟨hnotBefore, ?_, ?_⟩
  · rintro hpatient ⟨death, hdeath, hdies⟩ acted hacted hkill
    have hbound := hacts.sources acted hacted
    have hstage := honTime.stage _ _ _ (List.getElem?_eq_getElem hbound)
    have haccepted := hstage.accepted_of_kill (mem_entriesOf_iff.2 hacted) hkill
      (hpatient _ (List.getElem_mem hbound))
    have hlives := htells.accepted _ (mem_entriesOf_iff.1 haccepted) rfl rfl death hdeath
    exact absurd hlives (hdies _ (List.getElem_mem hbound)).not_gt
  · intro hdies first hfirst hleast hdone
    obtain ⟨i, hscheduled⟩ := List.mem_iff_getElem?.1 hfirst
    obtain ⟨entry, hentry, htime, hkill | ⟨hpress, hfailed⟩⟩ :=
      (hacts.course i first.1 first.2 hscheduled hdone).exists_last
    · exact ⟨_, mem_entriesOf_iff.1 hentry, hkill, htime⟩
    · obtain ⟨earlier, hearlier, hkill, hbefore⟩ :=
        htells.refused hdies _ (mem_entriesOf_iff.1 hentry) hpress hfailed
      have hafter := hnotBefore _ hleast earlier hearlier hkill
      exact ⟨earlier, hearlier, hkill, le_antisymm (hbefore.trans_eq htime) hafter⟩

end Mortal

/-! ## Other views of a target -/

/-- The listener with another view of its target. -/
def mapTarget {τ : Type} (view : σ → τ) (state : Listening σ) : Listening τ :=
  ⟨state.now, view state.target, state.task, state.log⟩

/-- A target that behaves like another one in some view, as long as a property holds, is dealt with
like the other one. -/
theorem Reaches.mapTarget {τ : Type} (view : σ → τ) {other : TargetConduct τ} {holds : σ → Prop}
    {start : Listening σ}
    (hkeeps : ∀ time act target answer after, holds target →
      conduct time act target answer after →
        holds after ∧ other time act (view target) answer (view after))
    (hstart : holds start.target) (hreaches : Reaches conduct grace schedule start state) :
    holds state.target ∧
      Reaches other grace schedule (start.mapTarget view) (state.mapTarget view) := by
  induction hreaches with
  | start => exact ⟨hstart, .start⟩
  | step _ last ih =>
    obtain ⟨hholds, hbefore⟩ := ih
    cases last with
    | receive scheduled unknown ready =>
      exact ⟨hholds, hbefore.step (.receive scheduled unknown ready)⟩
    | act underway ready acts answers =>
      obtain ⟨hafter, hanswers⟩ := hkeeps _ _ _ _ _ hholds answers
      exact ⟨hafter, hbefore.step (.act underway ready acts hanswers)⟩
    | sleep underway ready sleeps => exact ⟨hholds, hbefore.step (.sleep underway ready sleeps)⟩
    | pass passes coming underway => exact ⟨hholds, hbefore.step (.pass passes coming underway)⟩

end Listening

end MicroVm.Hypervisor

namespace MicroVm.Rehearsal.PatientGuest

open MicroVm.Hypervisor MicroVm.Hypervisor.Listening

variable {diesAt : Option Duration} {grace time : Duration} {schedule : Schedule}
  {guest after : PatientGuest} {act : ShutdownAct} {answer : Except Failure Unit}

theorem livesAt_iff : guest.livesAt time = true ↔
    guest.isKilled = false ∧ ∀ death ∈ guest.diesAt, time < death := by
  unfold livesAt
  cases guest.diesAt with
  | none => simp
  | some death => simp

/-- The answer to a press tells whether it succeeds. -/
theorem isOk_press (succeeds : Bool) :
    (if succeeds then .ok () else .error noAnswer : Except Failure Unit).isOk = succeeds := by
  cases succeeds <;> rfl

/-- A guest writes down what is done to it. -/
theorem log_of_conduct (hanswers : target.conduct time act guest answer after) :
    after.log = guest.log ++ [⟨time, act, answer.isOk⟩] := by
  cases act with
  | press =>
    obtain ⟨rfl, rfl⟩ := Prod.mk.inj hanswers
    rw [isOk_press]
  | kill =>
    change (answer, after) = guest.kill time at hanswers
    unfold kill at hanswers
    split at hanswers
    · obtain ⟨rfl, rfl⟩ := Prod.mk.inj hanswers
      rfl
    · obtain ⟨rfl, rfl⟩ := Prod.mk.inj hanswers
      rfl

/-- A guest with no presses that fail as planned accepts presses until it dies. -/
theorem mortal_of_conduct (hguest : guest.diesAt = diesAt ∧ guest.failingPresses = [])
    (hanswers : target.conduct time act guest answer after) :
    (after.diesAt = diesAt ∧ after.failingPresses = []) ∧
      mortal diesAt time act guest.isKilled answer after.isKilled := by
  obtain ⟨rfl, hpresses⟩ := hguest
  cases act with
  | press =>
    obtain ⟨rfl, rfl⟩ := Prod.mk.inj hanswers
    refine ⟨⟨rfl, hpresses⟩, rfl, ?_⟩
    rw [isOk_press, ← livesAt_iff, hpresses]
    simp
  | kill =>
    change (answer, after) = guest.kill time at hanswers
    unfold kill at hanswers
    split at hanswers
    · obtain ⟨rfl, rfl⟩ := Prod.mk.inj hanswers
      exact ⟨⟨rfl, hpresses⟩, (Bool.or_false _).symm⟩
    · obtain ⟨rfl, rfl⟩ := Prod.mk.inj hanswers
      exact ⟨⟨rfl, hpresses⟩, (Bool.or_true _).symm⟩

/-- The log of a guest is that of its listener. -/
theorem log_of_reaches {state : Listening PatientGuest}
    (hreaches : Reaches target.conduct grace schedule (initial guest) state) :
    state.target.log = guest.log ++ state.log.map Acted.entry := by
  induction hreaches with
  | start => exact (List.append_nil _).symm
  | step _ last ih =>
    cases last with
    | receive => exact ih
    | act underway ready acts answers =>
      refine (log_of_conduct answers).trans ?_
      simp [ih, setTask, Listening.act]
    | sleep => exact ih
    | pass => exact ih

/-- What signals do to a guest is what they do in an execution of a listener to a mortal guest. -/
theorem afterSignals_reaches (guest : PatientGuest) (hpresses : guest.failingPresses = [])
    (grace : Duration) (schedule : Schedule) : ∃ state : Listening Bool,
      Reaches (mortal guest.diesAt) grace schedule (initial guest.isKilled) state ∧
      IsOver schedule state ∧
      (guest.afterSignals grace schedule).log = guest.log ++ state.log.map Acted.entry := by
  obtain ⟨state, hreaches, hover, htarget⟩ :=
    Agenda.runSignals_reaches target grace schedule guest
  obtain ⟨-, hmortal⟩ := hreaches.mapTarget isKilled
    (fun _ _ _ _ _ hguest hanswers ↦ mortal_of_conduct hguest hanswers) ⟨rfl, hpresses⟩
  refine ⟨_, hmortal, hover, ?_⟩
  rw [afterSignals, ← htarget]
  exact log_of_reaches hreaches

end MicroVm.Rehearsal.PatientGuest

namespace MicroVm.Hypervisor.Listening

open MicroVm.Rehearsal

/-- Signals lead to their own acts at their own times, whatever the target and the other signals do,
and all of that is done in the end. A guest that accepts presses until it dies has the whole grace
period for that, and is killed right after it. -/
theorem signals_escalate (grace : Duration) (schedule : Schedule) :
    (∀ (σ : Type) (conduct : TargetConduct σ) (target : σ) (state : Listening σ),
      Reaches conduct grace schedule (initial target) state →
        ActsAsDue grace schedule state ∧
          ((∀ time act target, ∃ answer after, conduct time act target answer after) →
            ∃ after, Reaches conduct grace schedule state after ∧ IsOver schedule after)) ∧
      ∀ (diesAt : Option Duration) (state : Listening Bool),
        Reaches (mortal diesAt) grace schedule (initial false) state →
          KillsInTime diesAt grace schedule state := by
  refine ⟨fun σ conduct target state hreaches ↦ ?_, fun diesAt state hreaches ↦ ?_⟩
  · have honTime := isOnTime_of_reaches hreaches
    exact ⟨honTime.actsAsDue, fun htotal ↦ exists_isOver htotal honTime⟩
  · exact killsInTime_of_reaches hreaches

/-- A guest that never dies by itself gets two signals, and is killed when the first grace period
ends. -/
theorem signals_escalate_twice :
    ∃ state, Reaches (mortal none) (.ofSeconds 20)
        [(.ofSeconds 1, .terminate), (.ofSeconds 2, .interrupt)] (initial false) state ∧
      ActsAsDue (.ofSeconds 20) [(.ofSeconds 1, .terminate), (.ofSeconds 2, .interrupt)] state ∧
      ∃ acted ∈ state.log, acted.entry.act = .kill ∧ acted.entry.time = .ofSeconds 21 := by
  obtain ⟨state, hreaches, hover, -⟩ := PatientGuest.afterSignals_reaches {} rfl
    (.ofSeconds 20) [(.ofSeconds 1, .terminate), (.ofSeconds 2, .interrupt)]
  obtain ⟨hacts, hkills⟩ := signals_escalate (.ofSeconds 20)
    [(.ofSeconds 1, .terminate), (.ofSeconds 2, .interrupt)]
  refine ⟨state, hreaches, (hacts _ _ _ _ hreaches).1, ?_⟩
  exact (hkills none state hreaches).exactly_then rfl (.ofSeconds 1, .terminate)
    List.mem_cons_self (by decide) (.inl hover)

end MicroVm.Hypervisor.Listening

import MicroVm.Proofs.Run.HostAccess
import MicroVm.Run.Responders

/-!
# The tasks of responders

A history tells which responders were started, each with the handle of its task, and which handles
were aborted. Starting responders gives one handle for each of them in their order. Aborting does
not look at the tasks, so that nothing can keep one of them from being aborted.
-/

namespace MicroVm.Run

/-! ## Tasks in a history -/

/-- The responder that an event starts, with the handle of its task. -/
def start? : Event Surroundings → Option (Dhcp.AnyResponder × TaskHandle)
  | ⟨.startResponder responder, handle⟩ => some (responder, handle)
  | _ => none

/-- The responders started, in order. -/
def starts (history : History Surroundings) : List (Dhcp.AnyResponder × TaskHandle) :=
  history.filterMap start?

def abort? : Event Surroundings → Option TaskHandle
  | ⟨.abort handle, _⟩ => some handle
  | _ => none

/-- The handles aborted, in order. -/
def aborts (history : History Surroundings) : List TaskHandle := history.filterMap abort?

section Histories

variable {history rest : History Surroundings}

@[simp]
theorem starts_append : starts (history ++ rest) = starts history ++ starts rest :=
  List.filterMap_append

@[simp]
theorem aborts_append : aborts (history ++ rest) = aborts history ++ aborts rest :=
  List.filterMap_append

/-- A call to the host neither starts nor aborts a task. -/
theorem start?_abort?_eq_none {event : Event Surroundings}
    (haccess : RunRequest.isHostAccess event.request) :
    start? event = none ∧ abort? event = none := by
  obtain ⟨request, answer⟩ := event
  cases request with
  | link | device | file => exact ⟨rfl, rfl⟩
  | _ => cases haccess

theorem IsHostHistory.starts_eq_nil (hhistory : IsHostHistory history) : starts history = [] :=
  List.filterMap_eq_nil_iff.2 fun event hmem ↦ (start?_abort?_eq_none (hhistory event hmem)).1

theorem IsHostHistory.aborts_eq_nil (hhistory : IsHostHistory history) : aborts history = [] :=
  List.filterMap_eq_nil_iff.2 fun event hmem ↦ (start?_abort?_eq_none (hhistory event hmem)).2

/-- A start is at some place of its history. -/
theorem exists_append_of_mem_starts {responder : Dhcp.AnyResponder} {handle : TaskHandle}
    (hmem : (responder, handle) ∈ starts history) :
    ∃ before after, history = before ++ ⟨.startResponder responder, handle⟩ :: after := by
  obtain ⟨⟨request, answer⟩, hevent, hstart⟩ := List.mem_filterMap.1 hmem
  cases request with
  | startResponder =>
    cases hstart
    exact List.append_of_mem hevent
  | _ => cases hstart

/-- Nothing is started in a history that starts none. -/
theorem startResponder_notMem {responder : Dhcp.AnyResponder} {handle : TaskHandle}
    (hnone : starts history = []) :
    (⟨.startResponder responder, handle⟩ : Event Surroundings) ∉ history := by
  intro hmem
  have hstart : (responder, handle) ∈ starts history := List.mem_filterMap.2 ⟨_, hmem, rfl⟩
  rw [hnone] at hstart
  cases hstart

end Histories

/-! ## Starting -/

/-- Whether responders are started one after the other under the given handles. -/
inductive AreStarted : List Dhcp.AnyResponder → List TaskHandle → History Surroundings → Prop
  | nil : AreStarted [] [] []
  | cons {responder : Dhcp.AnyResponder} {responders : List Dhcp.AnyResponder}
      {handles : List TaskHandle} {history : History Surroundings} (handle : TaskHandle)
      (others : AreStarted responders handles history) :
      AreStarted (responder :: responders) (handle :: handles)
        (⟨.startResponder responder, handle⟩ :: history)

section Starting

variable {responders : List Dhcp.AnyResponder} {handles : List TaskHandle}
  {history : History Surroundings}

theorem isRun_startAll_iff {result : Option (List TaskHandle)} :
    (startAll responders).IsRun history result ↔
      ∃ handles, AreStarted responders handles history ∧ result = some handles := by
  induction responders generalizing history result with
  | nil =>
    constructor
    · intro hrun
      obtain ⟨rfl, rfl⟩ := Program.isRun_done_iff.1 hrun
      exact ⟨[], .nil, rfl⟩
    · rintro ⟨_, hstarted, rfl⟩
      cases hstarted
      exact .done _
  | cons responder responders ih =>
    constructor
    · intro hrun
      obtain ⟨handle, _, _, rfl, hfirst, hrest⟩ | ⟨hcrash, -⟩ := Program.isRun_bind_iff.1 hrun
      · obtain ⟨_, rfl, hhandle⟩ := Surroundings.isRun_startResponder_iff.1 hfirst
        obtain rfl := Option.some.inj hhandle
        obtain ⟨ended, hothers, rfl⟩ := Program.isRun_map_iff.1 hrest
        obtain ⟨handles, hstarted, rfl⟩ := ih.1 hothers
        exact ⟨handle :: handles, .cons handle hstarted, rfl⟩
      · obtain ⟨_, -, hnone⟩ := Surroundings.isRun_startResponder_iff.1 hcrash
        cases hnone
    · rintro ⟨_, hstarted, rfl⟩
      cases hstarted with
      | cons handle hothers =>
        have hfirst : (Surroundings.startResponder responder).IsRun
            [⟨.startResponder responder, handle⟩] (some handle) :=
          Surroundings.isRun_startResponder_iff.2 ⟨handle, rfl, rfl⟩
        exact hfirst.bind ((ih.2 ⟨_, hothers, rfl⟩).map (handle :: ·))

/-- The answers to the requests that start responders are the handles. -/
theorem AreStarted.eq_of_append {others : List TaskHandle} {other rest later : History Surroundings}
    (hstarted : AreStarted responders handles history) (hother : AreStarted responders others other)
    (hwhole : history ++ rest = other ++ later) : handles = others := by
  have hrun := isRun_startAll_iff.2 ⟨_, hstarted, rfl⟩
  obtain ⟨-, hhandles⟩ := hrun.eq_of_append (isRun_startAll_iff.2 ⟨_, hother, rfl⟩) hwhole
  exact Option.some.inj hhandles

/-- Any responders can be started. -/
theorem exists_areStarted (responders : List Dhcp.AnyResponder) :
    ∃ handles history, AreStarted responders handles history := by
  induction responders with
  | nil => exact ⟨[], [], .nil⟩
  | cons responder responders ih =>
    obtain ⟨handles, history, hothers⟩ := ih
    exact ⟨⟨handles.length⟩ :: handles, _, .cons _ hothers⟩

theorem AreStarted.starts_eq (hstarted : AreStarted responders handles history) :
    starts history = responders.zip handles := by
  induction hstarted with
  | nil => rfl
  | cons handle _ ih => exact congrArg (_ :: ·) ih

end Starting

/-! ## Aborting -/

/-- What is asked when tasks are aborted. -/
def abortEvents (handles : List TaskHandle) : History Surroundings :=
  handles.map fun handle ↦ ⟨.abort handle, ()⟩

section Aborting

variable {handles : List TaskHandle} {history rest : History Surroundings}

theorem isRun_abortAll_iff {result : Option Unit} :
    (abortAll handles).IsRun history result ↔
      ∃ value, history = abortEvents handles ∧ result = some value := by
  induction handles generalizing history with
  | nil => exact Program.isRun_done_iff.trans ⟨fun h ↦ ⟨(), h⟩, fun ⟨_, h⟩ ↦ h⟩
  | cons handle handles ih =>
    constructor
    · intro hrun
      obtain ⟨_, _, _, rfl, hfirst, hrest⟩ | ⟨hcrash, -⟩ := Program.isRun_bind_iff.1 hrun
      · obtain ⟨_, rfl, -⟩ := Surroundings.isRun_abort_iff.1 hfirst
        obtain ⟨value, rfl, rfl⟩ := ih.1 hrest
        exact ⟨value, rfl, rfl⟩
      · obtain ⟨_, -, hnone⟩ := Surroundings.isRun_abort_iff.1 hcrash
        cases hnone
    · rintro ⟨value, rfl, rfl⟩
      have hfirst : (Surroundings.abort handle).IsRun [⟨.abort handle, ()⟩] (some ()) :=
        Surroundings.isRun_abort_iff.2 ⟨(), rfl, rfl⟩
      exact hfirst.bind (ih.2 ⟨value, rfl, rfl⟩)

@[simp]
theorem aborts_abortEvents : aborts (abortEvents handles) = handles := by
  unfold aborts abortEvents
  rw [List.filterMap_map]
  exact List.filterMap_some

@[simp]
theorem starts_abortEvents : starts (abortEvents handles) = [] :=
  List.filterMap_eq_nil_iff.2 (List.forall_mem_map.2 fun _ _ ↦ rfl)

/-- The handles that are aborted first are known from a history that aborts no others. -/
theorem abortEvents_append_inj {other : List TaskHandle} {later : History Surroundings}
    (hrest : aborts rest = []) (hlater : aborts later = [])
    (hwhole : abortEvents handles ++ rest = abortEvents other ++ later) :
    handles = other ∧ rest = later := by
  have haborted := congrArg aborts hwhole
  rw [aborts_append, aborts_append, aborts_abortEvents, aborts_abortEvents, hrest, hlater,
    List.append_nil, List.append_nil] at haborted
  subst haborted
  exact ⟨rfl, List.append_cancel_left hwhole⟩

end Aborting

end MicroVm.Run

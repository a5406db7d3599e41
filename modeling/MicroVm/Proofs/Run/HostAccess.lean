import MicroVm.Proofs.Program.Runs
import MicroVm.Run.Teardown

/-!
# Access to the host in a run

What a run does to links, devices and files it does by tasks that know nothing of runs. The requests
in a history of such a task are all requests to the host: no record is loaded or saved in it, and no
supervisor is started.
-/

namespace MicroVm.Run

open MicroVm.Host MicroVm.Hypervisor MicroVm.Machine MicroVm.Network MicroVm.Storage

/-- Whether a request goes to the links, the devices or the files of the host. -/
def RunRequest.isHostAccess : RunRequest → Bool
  | .link _ => true
  | .device _ => true
  | .file _ => true
  | _ => false

/-- Whether all events of a history are accesses to the host. -/
def IsHostHistory (history : History Surroundings) : Prop :=
  ∀ event ∈ history, RunRequest.isHostAccess event.request

namespace Surroundings

variable {α : Type}

/-- An event on the links as one of a run. -/
def linkEvent (event : Event Links) : Event Surroundings := ⟨.link event.request, event.answer⟩

/-- An event on the devices as one of a run. -/
def deviceEvent (event : Event Devices) : Event Surroundings :=
  ⟨.device event.request, event.answer⟩

/-- An event on the files as one of a run. -/
def fileEvent (event : Event Files) : Event Surroundings := ⟨.file event.request, event.answer⟩

/-- An event on devices or files as one of a run. -/
def diskEvent : Event (Devices.both Files) → Event Surroundings
  | ⟨.inl request, answer⟩ => ⟨.device request, answer⟩
  | ⟨.inr request, answer⟩ => ⟨.file request, answer⟩

variable {history : History Surroundings} {result : Option (Except Failure α)}

theorem isRun_onLinks_iff {task : Task Links α} : (onLinks task).attempt.IsRun history result ↔
    ∃ asked, history = asked.map linkEvent ∧ task.attempt.IsRun asked result :=
  Program.isRun_expand_iff fun _ _ _ ↦ Program.isRun_perform_iff

theorem isRun_onDevices_iff {task : Task Devices α} :
    (onDevices task).attempt.IsRun history result ↔
      ∃ asked, history = asked.map deviceEvent ∧ task.attempt.IsRun asked result :=
  Program.isRun_expand_iff fun _ _ _ ↦ Program.isRun_perform_iff

theorem isRun_onFiles_iff {task : Task Files α} : (onFiles task).attempt.IsRun history result ↔
    ∃ asked, history = asked.map fileEvent ∧ task.attempt.IsRun asked result :=
  Program.isRun_expand_iff fun _ _ _ ↦ Program.isRun_perform_iff

theorem isRun_onDisks_iff {task : Task (Devices.both Files) α} :
    (onDisks task).attempt.IsRun history result ↔
      ∃ asked, history = asked.map diskEvent ∧ task.attempt.IsRun asked result := by
  refine Program.isRun_expand_iff fun request _ _ ↦ ?_
  cases request with
  | inl request => exact Program.isRun_perform_iff
  | inr request => exact Program.isRun_perform_iff

theorem isHostHistory_onLinks {task : Task Links α}
    (hrun : (onLinks task).attempt.IsRun history result) : IsHostHistory history := by
  obtain ⟨asked, rfl, -⟩ := isRun_onLinks_iff.1 hrun
  exact List.forall_mem_map.2 fun _ _ ↦ rfl

theorem isHostHistory_onDevices {task : Task Devices α}
    (hrun : (onDevices task).attempt.IsRun history result) : IsHostHistory history := by
  obtain ⟨asked, rfl, -⟩ := isRun_onDevices_iff.1 hrun
  exact List.forall_mem_map.2 fun _ _ ↦ rfl

theorem isHostHistory_onFiles {task : Task Files α}
    (hrun : (onFiles task).attempt.IsRun history result) : IsHostHistory history := by
  obtain ⟨asked, rfl, -⟩ := isRun_onFiles_iff.1 hrun
  exact List.forall_mem_map.2 fun _ _ ↦ rfl

/-- Work on disks makes only calls to the host. -/
theorem isHostHistory_onDisks {task : Task (Devices.both Files) α}
    (hrun : (onDisks task).attempt.IsRun history result) : IsHostHistory history := by
  obtain ⟨asked, rfl, -⟩ := isRun_onDisks_iff.1 hrun
  refine List.forall_mem_map.2 fun event _ ↦ ?_
  obtain ⟨_ | _, answer⟩ := event
  · rfl
  · rfl

/-! ## Single requests -/

section Requests

variable {history : History Surroundings}

theorem isRun_load_iff {id : String} {result : Option (Except Failure Record)} :
    (load id).attempt.IsRun history result ↔
      ∃ answer, history = [⟨.load id, answer⟩] ∧ result = some answer :=
  Program.isRun_perform_iff

theorem isRun_save_iff {record : Record} {result : Option (Except Failure Unit)} :
    (save record).attempt.IsRun history result ↔
      ∃ answer, history = [⟨.save record, answer⟩] ∧ result = some answer :=
  Program.isRun_perform_iff

theorem isRun_captureSignals_iff {result : Option (Except Failure Unit)} :
    captureSignals.attempt.IsRun history result ↔
      ∃ answer, history = [⟨.captureSignals, answer⟩] ∧ result = some answer :=
  Program.isRun_perform_iff

theorem isRun_startResponder_iff {responder : Dhcp.AnyResponder} {result : Option TaskHandle} :
    (startResponder responder).IsRun history result ↔
      ∃ handle, history = [⟨.startResponder responder, handle⟩] ∧ result = some handle :=
  Program.isRun_perform_iff

theorem isRun_abort_iff {handle : TaskHandle} {result : Option Unit} :
    (abort handle).IsRun history result ↔
      ∃ answer, history = [⟨.abort handle, answer⟩] ∧ result = some answer :=
  Program.isRun_perform_iff

theorem isRun_today_iff {result : Option Timestamp} :
    today.IsRun history result ↔ ∃ now, history = [⟨.today, now⟩] ∧ result = some now :=
  Program.isRun_perform_iff

theorem isRun_supervise_iff {uid : String} {config : BootConfig} {result : Option Supervised} :
    (supervise uid config).IsRun history result ↔
      ∃ ended, history = [⟨.supervise uid config, ended⟩] ∧ result = some ended :=
  Program.isRun_perform_iff

end Requests

end Surroundings

/-- What holds of all events of the parts of a sequence holds of all events of the sequence. -/
theorem forall_mem_of_isRun_bind {α β : Type} {holds : Event Surroundings → Prop}
    {task : Task Surroundings α} {next : α → Task Surroundings β} {history : History Surroundings}
    {result : Option (Except Failure β)}
    (htask : ∀ history result, task.attempt.IsRun history result → ∀ event ∈ history, holds event)
    (hnext : ∀ value history result, (next value).attempt.IsRun history result →
      ∀ event ∈ history, holds event)
    (hrun : (task >>= next).attempt.IsRun history result) : ∀ event ∈ history, holds event := by
  obtain ⟨value, before, after, rfl, hbefore, hafter⟩ | ⟨failure, hfailed, -⟩ | ⟨hcrash, -⟩ :=
    Task.isRun_bind_iff.1 hrun
  · exact List.forall_mem_append.2 ⟨htask _ _ hbefore, hnext value _ _ hafter⟩
  · exact htask _ _ hfailed
  · exact htask _ _ hcrash

/-- A sequence whose parts access the host only does so as well. -/
theorem isHostHistory_bind {α β : Type} {task : Task Surroundings α}
    {next : α → Task Surroundings β} {history : History Surroundings}
    {result : Option (Except Failure β)}
    (htask : ∀ history result, task.attempt.IsRun history result → IsHostHistory history)
    (hnext : ∀ value history result, (next value).attempt.IsRun history result →
      IsHostHistory history)
    (hrun : (task >>= next).attempt.IsRun history result) : IsHostHistory history :=
  forall_mem_of_isRun_bind htask hnext hrun

end MicroVm.Run

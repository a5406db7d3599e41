import Mathlib.Order.BooleanAlgebra.Set
import MicroVm.Proofs.Program.Conduct
import MicroVm.Proofs.Storage.DeviceNames

/-!
# A host with failing tools

The host of this module is a set of device nodes. Attaching a file adds a loop node that was free,
creating a mapping adds its node, detaching and removing take nodes away, and all other calls leave
the set as it is. A removal goes through its names in turn and stops at the first one that is
missing. Which calls may fail beyond that is a pattern over the calls made before; a call that fails
by the pattern has no effect. Which loop gets attached and what a failure says is left open, so that
statements on the host hold for all of these.
-/

namespace MicroVm.Storage

/-- The device nodes of a host, and what is known of its files and devices. -/
structure HostDevices where
  nodes : Set String
  /-- The file behind a loop node. -/
  backing : String → Option String
  /-- The sizes of files and devices in sectors. -/
  sizes : String → Nat
  /-- Whether a path is a block device. -/
  isBlock : String → Bool

/-- Which calls may fail after the calls made before. -/
abbrev FaultPattern := History Devices → DeviceRequest → Prop

/-- Whether a failure says in the words of the device mapper that a mapping is not there. -/
def ReportsMissing (failure : Failure) : Prop :=
  "No such device or address".toList <:+: failure.message.toList

instance (failure : Failure) : Decidable (ReportsMissing failure) :=
  inferInstanceAs (Decidable (_ <:+: _))

/-- Whether a request is to add nodes or to take nodes away. -/
def DeviceRequest.changesNodes : DeviceRequest → Bool
  | .attachLoop _ _ => true
  | .detachLoop _ => true
  | .createMapping _ _ => true
  | .removeMappings _ => true
  | _ => false

namespace HostDevices

/-- The host with one more node. -/
def add (host : HostDevices) (node : String) : HostDevices :=
  { host with nodes := insert node host.nodes }

/-- The host without a node. -/
def remove (host : HostDevices) (node : String) : HostDevices :=
  { host with nodes := host.nodes \ {node} }

/-- The host with a file attached to a loop node. -/
def attach (host : HostDevices) (node file : String) : HostDevices :=
  { host.add node with backing := fun path ↦ if path = node then some file else host.backing path }

/-- Whether a file can be attached to a node. -/
def IsFreeLoop (host : HostDevices) (node : String) : Prop :=
  node ∉ host.nodes ∧ ∃ number, node = loopNode number

/-- The sectors of a node or a file. A loop has those of the file behind it. -/
def sectors (host : HostDevices) (path : String) : Nat := host.sizes ((host.backing path).getD path)

/-- Removes mappings in turn until one is missing, which is then named. -/
inductive Removes : HostDevices → List String → Option String → HostDevices → Prop
  | nil (host : HostDevices) : Removes host [] none host
  | missing {host : HostDevices} {name : String} {names : List String}
      (habsent : mapperPath name ∉ host.nodes) : Removes host (name :: names) (some name) host
  | present {host after : HostDevices} {name : String} {names : List String}
      {missing : Option String} (hpresent : mapperPath name ∈ host.nodes)
      (rest : Removes (host.remove (mapperPath name)) names missing after) :
      Removes host (name :: names) missing after

/-- Which answers the host may give to a request, and how it may be afterwards. -/
def Serves (mayFail : Prop) (host : HostDevices) :
    (request : DeviceRequest) → request.Answer → HostDevices → Prop
  | .attachLoop file _, .ok node, after => host.IsFreeLoop node ∧ after = host.attach node file
  | .attachLoop _ _, .error _, after => mayFail ∧ after = host
  | .detachLoop node, .ok _, after => after = host.remove node
  | .detachLoop _, .error _, after => mayFail ∧ after = host
  | .sizeSectors node, .ok size, after => size = host.sectors node ∧ after = host
  | .sizeSectors _, .error _, after => mayFail ∧ after = host
  | .createMapping name _, .ok _, after => after = host.add (mapperPath name)
  | .createMapping _ _, .error _, after => mayFail ∧ after = host
  | .mappingExists name, found, after =>
    (found = true ↔ mapperPath name ∈ host.nodes) ∧ after = host
  | .removeMappings names, .ok _, after => host.Removes names none after
  | .removeMappings names, .error failure, after =>
    mayFail ∧ after = host ∨
      ReportsMissing failure ∧ ∃ name, host.Removes names (some name) after
  | .checkFilesystem _, .ok _, after => after = host
  | .checkFilesystem _, .error _, after => mayFail ∧ after = host
  | .growFilesystem _, .ok _, after => after = host
  | .growFilesystem _, .error _, after => mayFail ∧ after = host
  | .deviceExists path, found, after => (found = true ↔ path ∈ host.nodes) ∧ after = host
  | .isBlockDevice path, found, after => found = host.isBlock path ∧ after = host
  | .acquireLock _, .ok _, after => after = host
  | .acquireLock _, .error _, after => mayFail ∧ after = host
  | .releaseLock _, _, after => after = host

/-- A host stays as it is unless nodes are to change. -/
theorem Serves.eq_self {mayFail : Prop} {host after : HostDevices} {request : DeviceRequest}
    {answer : request.Answer} (hserves : host.Serves mayFail request answer after)
    (hkeeps : request.changesNodes = false) : after = host := by
  cases request with
  | attachLoop | detachLoop | createMapping | removeMappings => cases hkeeps
  | sizeSectors =>
    cases answer with
    | error failure => exact hserves.2
    | ok size => exact hserves.2
  | checkFilesystem | growFilesystem | acquireLock =>
    cases answer with
    | error failure => exact hserves.2
    | ok value => exact hserves
  | mappingExists | deviceExists | isBlockDevice => exact hserves.2
  | releaseLock => exact hserves

/-- The conduct of a host whose calls may fail by a pattern. -/
def conduct (faults : FaultPattern) : Conduct Devices HostDevices :=
  fun past host request answer after ↦ host.Serves (faults past request) request answer after

/-! ## Mappings made and removed again -/

/-- The host with the nodes of further mappings. -/
def withMappings (host : HostDevices) (names : List String) : HostDevices :=
  names.foldr (fun name host ↦ host.add (mapperPath name)) host

@[simp]
theorem withMappings_nil (host : HostDevices) : host.withMappings [] = host := rfl

@[simp]
theorem withMappings_cons (host : HostDevices) (name : String) (names : List String) :
    host.withMappings (name :: names) = (host.withMappings names).add (mapperPath name) := rfl

theorem mem_withMappings_iff {host : HostDevices} {names : List String} {path : String} :
    path ∈ (host.withMappings names).nodes ↔ path ∈ names.map mapperPath ∨ path ∈ host.nodes := by
  induction names with
  | nil => simp
  | cons name names ih => simp [add, ih, or_assoc]

theorem remove_eq_self {host : HostDevices} {node : String} (habsent : node ∉ host.nodes) :
    host.remove node = host := by
  unfold remove
  rw [Set.sdiff_singleton_eq_self habsent]

theorem add_remove {host : HostDevices} {node : String} (habsent : node ∉ host.nodes) :
    (host.add node).remove node = host := by
  unfold add remove
  rw [Set.insert_sdiff_self_of_notMem habsent]

/-- Mappings that were not there before can be removed in the order in which the later ones come
first, and the host is as it was. -/
theorem Removes.undoes {host : HostDevices} {names : List String} {missing : Option String}
    {after : HostDevices} (hdistinct : (names.map mapperPath).Nodup)
    (hnew : ∀ path ∈ names.map mapperPath, path ∉ host.nodes)
    (hremoves : (host.withMappings names).Removes names missing after) :
    missing = none ∧ after = host := by
  induction names with
  | nil =>
    cases hremoves
    exact ⟨rfl, rfl⟩
  | cons name names ih =>
    rw [List.map_cons, List.nodup_cons] at hdistinct
    rw [List.map_cons, List.forall_mem_cons] at hnew
    rw [withMappings_cons] at hremoves
    have habsent : mapperPath name ∉ (host.withMappings names).nodes := by
      rw [mem_withMappings_iff, not_or]
      exact ⟨hdistinct.1, hnew.1⟩
    cases hremoves with
    | missing hmissing => exact absurd (Set.mem_insert _ _) hmissing
    | present _ hrest =>
      rw [add_remove habsent] at hrest
      exact ih hdistinct.2 hnew.2 hrest

/-! ## The lock of the host -/

theorem isRun_withLock {α : Type} {path : String} {task : Task Devices α}
    {history : History Devices} {result : Except Failure α}
    (htask : task.attempt.IsRun history (some result)) :
    (Devices.withLock path task).attempt.IsRun
      ([⟨.acquireLock path, .ok ()⟩] ++ (history ++ [⟨.releaseLock path, ()⟩])) (some result) := by
  have hlifted : (Task.attempt (ExceptT.lift task.attempt)).IsRun history (some (.ok result)) := by
    rw [Task.attempt_lift, Program.isRun_bind_iff]
    exact .inl ⟨result, history, [], (List.append_nil history).symm, htask, .done _⟩
  have hreleased : (Task.attempt (do
      ExceptT.lift (Program.perform (I := Devices) (.releaseLock path))
      Task.ofExcept result : Task Devices α)).IsRun [⟨.releaseLock path, ()⟩] (some result) := by
    refine .ask _ ?_
    exact .done _
  have hacquired : (Task.attempt (Task.of (Program.perform (I := Devices)
      (.acquireLock path)))).IsRun [⟨.acquireLock path, .ok ()⟩] (some (.ok ())) := by
    refine .ask _ ?_
    exact .done _
  exact Task.isRun_bind hacquired (Task.isRun_bind hlifted hreleased)

/-- Under the lock a task does what it does alone. Without the lock it is not begun. -/
theorem withLock_ensures {α : Type} {faults : FaultPattern} {past : History Devices}
    {host : HostDevices} {path : String} {task : Task Devices α}
    {post : Except Failure α → HostDevices → Prop}
    (hlocked : ∀ past, task.attempt.Ensures (conduct faults) past host
      fun result _ after ↦ post result after)
    (hunlocked : ∀ failure, faults past (.acquireLock path) → post (.error failure) host) :
    (Devices.withLock path task).attempt.Ensures (conduct faults) past host
      fun result _ after ↦ post result after := by
  apply Task.ensures_bind
  apply Program.ensures_perform
  intro result after hstep
  cases result with
  | error failure =>
    obtain ⟨hfault, rfl⟩ := hstep
    exact hunlocked failure hfault
  | ok value =>
    obtain rfl := hstep
    apply Task.ensures_liftM_bind
    apply (hlocked _).mono
    intro result past ended hpost
    apply Task.ensures_liftM_bind
    apply Program.ensures_perform
    rintro - after rfl
    exact Program.ensures_done hpost

end HostDevices

end MicroVm.Storage

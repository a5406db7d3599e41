import MicroVm.Proofs.Storage.Requests

/-!
# Operations on root devices

A process activates or deactivates a root device. Both begin outside of the lock: an activation
looks whether the device is there and returns if it is. Then the operation waits for the lock, does
its work under it, gives it back and returns. What an operation asks next is thus known from how far
it has come.
-/

namespace MicroVm.Storage

open HostDevices

/-- A call on a root device. -/
inductive Operation
  | activate (chain : Chain) (base overlay : String)
  | deactivate (chain : Chain)

/-- Whether a request takes the lock or gives it back. -/
def DeviceRequest.isLocking : DeviceRequest → Bool
  | .acquireLock _ => true
  | .releaseLock _ => true
  | _ => false

/-- Whether a request is a call that only the holder of the lock may make. Looking at paths is
allowed to all. -/
def DeviceRequest.isDeviceCall : DeviceRequest → Bool
  | .deviceExists _ => false
  | .isBlockDevice _ => false
  | .acquireLock _ => false
  | .releaseLock _ => false
  | _ => true

/-- Gives the lock back and ends. -/
def releasing {α : Type} (path : String) (value : α) : Program Devices α :=
  .ask (.releaseLock path) fun _ ↦ .done value

/-- Does something with the lock. -/
def underLock {α : Type} (path : String) (inner : Program Devices (Except Failure α)) :
    Program Devices (Except Failure α) :=
  .ask (.acquireLock path) fun
    | .ok () => inner.bind (releasing path)
    | .error failure => .done (.error failure)

/-- A task with the lock is tried between taking it and giving it back. -/
theorem attempt_withLock {α : Type} (path : String) (task : Task Devices α) :
    (Devices.withLock path task).attempt = underLock path task.attempt := by
  unfold Devices.withLock underLock
  rw [Task.attempt_bind]
  refine congrArg (Program.ask _) (funext fun answer ↦ ?_)
  cases answer with
  | error failure => rfl
  | ok value =>
    change (Task.attempt (liftM task.attempt >>= _)) = _
    rw [Task.attempt_bind, Task.attempt_liftM, Program.bind_assoc]
    rfl

namespace Operation

/-- What operations give. An activation gives the node of the root device. -/
abbrev Result := Except Failure (Option String)

/-- The root device of an operation. -/
def chain : Operation → Chain
  | .activate chain _ _ => chain
  | .deactivate chain => chain

/-- What an operation does. -/
def program : Operation → Program Devices Result
  | .activate chain base overlay =>
    (chain.activate base overlay).attempt.bind fun result ↦ .done (result.map some)
  | .deactivate chain =>
    chain.deactivate.attempt.bind fun result ↦ .done (result.map fun () ↦ none)

/-- What an operation does under the lock. -/
def locked : Operation → Program Devices Result
  | .activate chain base overlay =>
    (chain.activateLocked base overlay).attempt.bind fun result ↦ .done (result.map some)
  | .deactivate chain =>
    chain.deactivateLocked.attempt.bind fun result ↦ .done (result.map fun () ↦ none)

/-- What happens before an operation waits for the lock. -/
def look : Operation → History Devices
  | .activate chain _ _ => [⟨.deviceExists chain.devicePath, false⟩]
  | .deactivate _ => []

/-- The lock got. -/
def gotLock (operation : Operation) : Event Devices :=
  ⟨.acquireLock operation.chain.lockPath, .ok ()⟩

/-- The lock given back. -/
def gaveLock (operation : Operation) : Event Devices :=
  ⟨.releaseLock operation.chain.lockPath, ()⟩

theorem gotLock_notMem_look (operation : Operation) : operation.gotLock ∉ operation.look := by
  cases operation with
  | activate => exact fun hmem ↦ nomatch List.mem_singleton.1 hmem
  | deactivate => exact List.not_mem_nil

theorem underLock_bind {α β : Type} (path : String) (inner : Program Devices (Except Failure α))
    (change : α → β) :
    (underLock path inner).bind (fun result ↦ .done (result.map change)) =
      underLock path (inner.bind fun result ↦ .done (result.map change)) := by
  unfold underLock
  refine congrArg (Program.ask _) (funext fun answer ↦ ?_)
  cases answer with
  | error failure => rfl
  | ok value =>
    change (inner.bind _).bind _ = (inner.bind _).bind _
    rw [Program.bind_assoc, Program.bind_assoc]
    rfl

theorem program_activate (chain : Chain) (base overlay : String) :
    program (.activate chain base overlay) =
      .ask (.deviceExists chain.devicePath) fun
        | true => .done (.ok (some chain.devicePath))
        | false => underLock chain.lockPath (locked (.activate chain base overlay)) := by
  have hlocked : (Devices.withLock chain.lockPath (chain.activateLocked base overlay)).attempt.bind
      (fun result ↦ .done (result.map some)) =
        underLock chain.lockPath (locked (.activate chain base overlay)) := by
    rw [attempt_withLock]
    exact underLock_bind _ _ some
  rw [← hlocked]
  refine congrArg (Program.ask _) (funext fun found ↦ ?_)
  cases found with
  | false => rfl
  | true => rfl

theorem program_deactivate (chain : Chain) :
    program (.deactivate chain) = underLock chain.lockPath (locked (.deactivate chain)) := by
  change (Devices.withLock chain.lockPath chain.deactivateLocked).attempt.bind _ = _
  rw [attempt_withLock]
  exact underLock_bind _ _ _

/-! ## How far an operation has come -/

/-- How far an operation has come: its events so far and what is left of it. -/
inductive Stage : Operation → History Devices → Program Devices Result → Prop
  | begins (chain : Chain) (base overlay : String) :
      Stage (.activate chain base overlay) [] (program (.activate chain base overlay))
  | found (chain : Chain) (base overlay : String) :
      Stage (.activate chain base overlay) [⟨.deviceExists chain.devicePath, true⟩]
        (.done (.ok (some chain.devicePath)))
  | waits (operation : Operation) :
      Stage operation operation.look (underLock operation.chain.lockPath operation.locked)
  | refused (operation : Operation) (failure : Failure) :
      Stage operation (operation.look ++ [⟨.acquireLock operation.chain.lockPath, .error failure⟩])
        (.done (.error failure))
  | holds (operation : Operation) {events : History Devices} {rest : Program Devices Result}
      (leaves : operation.locked.Leaves events rest) :
      Stage operation (operation.look ++ operation.gotLock :: events)
        (rest.bind (releasing operation.chain.lockPath))
  | released (operation : Operation) {events : History Devices} {result : Result}
      (leaves : operation.locked.Leaves events (.done result)) :
      Stage operation (operation.look ++ operation.gotLock :: (events ++ [operation.gaveLock]))
        (.done result)

variable {operation : Operation} {past history : History Devices}
  {rest later : Program Devices Result}

/-- An operation starts at its first stage. -/
theorem stage_program (operation : Operation) : Stage operation [] operation.program := by
  cases operation with
  | activate chain base overlay => exact .begins chain base overlay
  | deactivate chain =>
    rw [program_deactivate]
    exact .waits (.deactivate chain)

/-- The ways in which an operation goes on, by what it asks for: it looks at the device, it waits
for the lock, it works under the lock, or it gives the lock back. -/
inductive Asking : Operation → History Devices → (request : DeviceRequest) →
    (request.Answer → Program Devices Result) → Prop
  | looks (chain : Chain) (base overlay : String)
      {next : (DeviceRequest.deviceExists chain.devicePath).Answer → Program Devices Result} :
      Asking (.activate chain base overlay) [] (.deviceExists chain.devicePath) next
  | waits (operation : Operation)
      {next : (DeviceRequest.acquireLock operation.chain.lockPath).Answer →
        Program Devices Result} :
      Asking operation operation.look (.acquireLock operation.chain.lockPath) next
  | works (operation : Operation) {events : History Devices} {request : DeviceRequest}
      {inner next : request.Answer → Program Devices Result}
      (leaves : operation.locked.Leaves events (.ask request inner)) :
      Asking operation (operation.look ++ operation.gotLock :: events) request next
  | returns (operation : Operation) {events : History Devices} {result : Result}
      {next : (DeviceRequest.releaseLock operation.chain.lockPath).Answer →
        Program Devices Result}
      (leaves : operation.locked.Leaves events (.done result)) (last : next () = .done result) :
      Asking operation (operation.look ++ operation.gotLock :: events)
        (.releaseLock operation.chain.lockPath) next

theorem Stage.asking {request : DeviceRequest} {next : request.Answer → Program Devices Result}
    (hstage : Stage operation past (.ask request next)) :
    Asking operation past request next ∧
      ∀ answer : request.Answer, Stage operation (past ++ [⟨request, answer⟩]) (next answer) := by
  generalize hasks : Program.ask (I := Devices) request next = program at hstage
  cases hstage with
  | begins chain base overlay =>
    rw [program_activate] at hasks
    cases hasks
    refine ⟨.looks chain base overlay, fun answer ↦ ?_⟩
    cases answer with
    | true => exact .found chain base overlay
    | false => exact .waits (.activate chain base overlay)
  | found => cases hasks
  | waits =>
    cases hasks
    refine ⟨.waits operation, fun answer ↦ ?_⟩
    cases answer with
    | error failure => exact .refused operation failure
    | ok value => exact .holds operation (.nil _)
  | refused => cases hasks
  | @holds _ events rest leaves =>
    cases rest with
    | halt => cases hasks
    | done result =>
      cases hasks
      refine ⟨.returns operation leaves rfl, fun _ ↦ ?_⟩
      have hreleased := Stage.released operation leaves
      rwa [← List.cons_append, ← List.append_assoc] at hreleased
    | ask request inner =>
      cases hasks
      refine ⟨.works operation leaves, fun answer ↦ ?_⟩
      have hholds := Stage.holds operation (leaves.concat answer)
      rwa [← List.cons_append, ← List.append_assoc] at hholds
  | released => cases hasks

/-- What has been done of an operation leads from stage to stage. -/
theorem Stage.append (hstage : Stage operation past rest) (hleaves : rest.Leaves history later) :
    Stage operation (past ++ history) later := by
  induction hleaves generalizing past with
  | nil => rwa [List.append_nil]
  | cons answer _ ih =>
    have hlater := ih (hstage.asking.2 answer)
    rwa [List.append_assoc] at hlater

theorem stage_of_leaves (hleaves : operation.program.Leaves past rest) :
    Stage operation past rest :=
  (stage_program operation).append hleaves

/-! ## Requests of an operation -/

/-- The requests of an operation under the lock. -/
def Kind : Operation → Program.RequestKind Devices
  | .activate chain _ _ => chain.ActivationKind
  | .deactivate chain => chain.DeactivationKind

theorem Kind.keepsToItself {request : DeviceRequest} (hkind : operation.Kind past request) :
    operation.chain.KeepsToItself past request := by
  cases operation with
  | activate => exact hkind.1
  | deactivate => exact hkind.1

theorem nothingTaken_look (operation : Operation) :
    NothingTaken (operation.look ++ [operation.gotLock]) := by
  cases operation with
  | activate => exact nothingTaken_concat (List.forall_mem_singleton.2 rfl) _ rfl
  | deactivate => exact List.forall_mem_singleton.2 rfl

/-- Under the lock, an operation asks for what is of its kind. -/
theorem locked_asks (operation : Operation) :
    operation.locked.Asks operation.Kind (operation.look ++ [operation.gotLock])
      fun _ _ ↦ True := by
  have hlook := nothingTaken_look operation
  cases operation with
  | activate chain base overlay =>
    apply Program.asks_bind
    refine (chain.activateLocked_asks base overlay hlook).mono ?_
    exact fun _ _ _ ↦ .done trivial
  | deactivate chain =>
    apply Program.asks_bind
    refine chain.deactivateLocked_asks.mono ?_
    exact fun _ _ _ ↦ .done trivial

theorem isLocking_eq_false {request : DeviceRequest} {chain : Chain}
    (hkeeps : chain.KeepsToItself past request) : request.isLocking = false := by
  cases request with
  | acquireLock => exact hkeeps.elim
  | releaseLock => exact hkeeps.elim
  | _ => rfl

/-- What an operation asks for under the lock is of its kind. -/
theorem kind_of_leaves {request : DeviceRequest} {inner : request.Answer → Program Devices Result}
    (hleaves : operation.locked.Leaves history (.ask request inner)) :
    operation.Kind (operation.look ++ operation.gotLock :: history) request := by
  have hrest := (locked_asks operation).leaves hleaves
  rw [List.append_assoc] at hrest
  cases hrest with
  | ask first _ => exact first

theorem isOfKind_of_leaves (hleaves : operation.locked.Leaves history rest) :
    Program.IsOfKind operation.Kind (operation.look ++ [operation.gotLock]) history :=
  (locked_asks operation).isOfKind hleaves

/-- There is no request about the lock under the lock. -/
theorem isLocking_of_leaves (hleaves : operation.locked.Leaves history rest) :
    ∀ event ∈ history, DeviceRequest.isLocking event.request = false := by
  intro event hmem
  obtain ⟨before, hkind⟩ := (isOfKind_of_leaves hleaves).of_mem hmem
  exact isLocking_eq_false hkind.keepsToItself

theorem underLock_asks {kind : Program.RequestKind Devices} {α : Type} {path : String}
    {inner : Program Devices (Except Failure α)} {past : History Devices}
    (hacquire : kind past (.acquireLock path)) (hrelease : ∀ past, kind past (.releaseLock path))
    (hinner : inner.Asks kind (past ++ [⟨.acquireLock path, .ok ()⟩]) fun _ _ ↦ True) :
    (underLock path inner).Asks kind past fun _ _ ↦ True := by
  refine .ask hacquire fun answer ↦ ?_
  cases answer with
  | error failure => exact .done trivial
  | ok value =>
    refine Program.asks_bind (hinner.mono fun result past _ ↦ ?_)
    exact .ask (hrelease past) fun _ ↦ .done trivial

/-- An operation asks for things of a kind if what it does under the lock is of the kind, and
looking and locking are. -/
theorem asks_of_locked {kind : Program.RequestKind Devices}
    (hlook : ∀ past path, kind past (.deviceExists path))
    (hacquire : ∀ past path, kind past (.acquireLock path))
    (hrelease : ∀ past path, kind past (.releaseLock path))
    (hlocked : operation.locked.Asks kind (operation.look ++ [operation.gotLock])
      fun _ _ ↦ True) :
    operation.program.Asks kind [] fun _ _ ↦ True := by
  have hunderLock : (underLock operation.chain.lockPath operation.locked).Asks kind
      operation.look fun _ _ ↦ True :=
    underLock_asks (hacquire _ _) (fun past ↦ hrelease past _) hlocked
  cases operation with
  | activate chain base overlay =>
    rw [program_activate]
    refine .ask (hlook _ _) fun found ↦ ?_
    cases found with
    | true => exact .done trivial
    | false => exact hunderLock
  | deactivate chain =>
    rw [program_deactivate]
    exact hunderLock

/-! ## A removal -/

/-- The history of a deactivation that removes both mappings. -/
def removal (chain : Chain) : History Devices :=
  [⟨.acquireLock chain.lockPath, .ok ()⟩,
    ⟨.mappingExists (paddedBaseName chain.uid), true⟩,
    ⟨.removeMappings (chain.mappingNames true), .ok ()⟩,
    ⟨.releaseLock chain.lockPath, ()⟩]

theorem isRun_removal (chain : Chain) :
    (Operation.deactivate chain).program.IsRun (removal chain) (some (.ok none)) := by
  iterate 4 refine .ask _ ?_
  exact .done _

theorem allows_removal {faults : FaultPattern} {chain : Chain} {host : HostDevices}
    (hdevice : chain.devicePath ∈ host.nodes) (hpadded : chain.paddedBasePath ∈ host.nodes) :
    (conduct faults).Allows past host (removal chain)
      ((host.remove chain.devicePath).remove chain.paddedBasePath) := by
  have hbelow : chain.paddedBasePath ∈ (host.remove chain.devicePath).nodes :=
    ⟨hpadded, chain.devicePath_ne_paddedBasePath.symm⟩
  refine .cons rfl ?_
  refine .cons ⟨⟨fun _ ↦ hpadded, fun _ ↦ rfl⟩, rfl⟩ ?_
  refine .cons (Removes.present hdevice (Removes.present hbelow (.nil _))) ?_
  refine .cons rfl ?_
  exact .nil _ _

end Operation

end MicroVm.Storage

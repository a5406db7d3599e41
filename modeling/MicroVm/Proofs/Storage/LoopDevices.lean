import MicroVm.Proofs.Storage.Requests

/-!
# Loops of an activation

An activation attaches the image, unless that is a block device, and then the overlay. Each of the
two may fail, and so may all that comes after. However it ends, every loop that was attached is
detached once, in the order of the attaching, and only when no call on mappings is to come. Nothing
else is ever detached.
-/

namespace MicroVm.Storage

/-- An attempt to attach a file, with the node if it has got one. -/
structure LoopAttempt where
  file : String
  readOnly : Bool
  node : Option String

/-- A call on loop devices. -/
inductive LoopCall
  | attach (attempt : LoopAttempt)
  | detach (node : String)

/-- The file of an attempt, and whether it was to be read only. -/
def LoopAttempt.source (attempt : LoopAttempt) : String × Bool := (attempt.file, attempt.readOnly)

/-- The call on loop devices that an event is. -/
def loopCall? : Event Devices → Option LoopCall
  | ⟨.attachLoop file readOnly, .ok node⟩ => some (.attach ⟨file, readOnly, some node⟩)
  | ⟨.attachLoop file readOnly, .error _⟩ => some (.attach ⟨file, readOnly, none⟩)
  | ⟨.detachLoop node, _⟩ => some (.detach node)
  | _ => none

/-- The calls on loop devices of a history, in order. -/
def loopCalls (history : History Devices) : List LoopCall := history.filterMap loopCall?

/-- Whether a request needs the loops under the mappings. -/
def DeviceRequest.usesMappings : DeviceRequest → Bool
  | .createMapping _ _ => true
  | .removeMappings _ => true
  | .checkFilesystem _ => true
  | .growFilesystem _ => true
  | _ => false

/-- Whether no loop was to be detached so far. -/
def KeepsLoops (past : History Devices) : Prop := ∀ node, .detach node ∉ loopCalls past

/-- The requests that come in the right order: none that needs a loop comes after a detaching. -/
def DetachesLast (past : History Devices) (request : DeviceRequest) : Prop :=
  request.usesMappings = true → KeepsLoops past

/-- The attempts to attach of an activation, and its calls on loop devices. -/
structure IsLoopUse (base overlay : String) (history : History Devices) (isBlock : Bool)
    (attempts : List LoopAttempt) : Prop where
  /-- A loop that was attached is detached once, in the order of the attaching. Nothing else is. -/
  calls : loopCalls history =
    attempts.map .attach ++ (attempts.filterMap LoopAttempt.node).map .detach
  /-- The image is attached read only and before the overlay, and the overlay is not. -/
  sources : attempts.map LoopAttempt.source <+:
    (if isBlock then [] else [(base, true)]) ++ [(overlay, false)]
  image : attempts ≠ [] → ⟨.isBlockDevice base, isBlock⟩ ∈ history

variable {past : History Devices} {event : Event Devices}

/-- Each event adds its own call on loops. -/
theorem loopCalls_concat (past : History Devices) (event : Event Devices) :
    loopCalls (past ++ [event]) = loopCalls past ++ (loopCall? event).toList := by
  unfold loopCalls
  rw [List.filterMap_append]
  cases hcall : loopCall? event with
  | none => rw [List.filterMap_cons_none hcall]; rfl
  | some call => rw [List.filterMap_cons_some hcall]; rfl

theorem loopCalls_concat_of_other (hother : DeviceRequest.isLoopCall event.request = false) :
    loopCalls (past ++ [event]) = loopCalls past := by
  rw [loopCalls_concat]
  obtain ⟨request, answer⟩ := event
  cases request with
  | attachLoop | detachLoop => cases hother
  | _ => exact List.append_nil _

theorem isLoopUse_nil {base overlay : String} (hcalls : loopCalls past = []) :
    IsLoopUse base overlay past false [] where
  calls := hcalls
  sources := List.nil_prefix
  image hattempts := absurd rfl hattempts

/-- Other requests change nothing. -/
theorem IsLoopUse.concat {base overlay : String} {isBlock : Bool} {attempts : List LoopAttempt}
    (huse : IsLoopUse base overlay past isBlock attempts)
    (hother : DeviceRequest.isLoopCall event.request = false) :
    IsLoopUse base overlay (past ++ [event]) isBlock attempts where
  calls := (loopCalls_concat_of_other hother).trans huse.calls
  sources := huse.sources
  image hattempts := List.mem_append_left _ (huse.image hattempts)

/-- After attempts to attach only, nothing was detached. -/
theorem keepsLoops_of_loopCalls_eq {attempts : List LoopAttempt}
    (hcalls : loopCalls past = attempts.map .attach) : KeepsLoops past := by
  intro node hmem
  rw [hcalls] at hmem
  obtain ⟨attempt, -, hequal⟩ := List.mem_map.1 hmem
  cases hequal

/-- A program that makes no calls on loop devices may need the loops. -/
theorem asks_detachesLast {α : Type} {kind : Program.RequestKind Devices}
    {program : Program Devices α} {post : α → History Devices → Prop}
    (hprogram : program.Asks kind past post)
    (hkind : ∀ past request, kind past request → request.isLoopCall = false)
    (hpast : KeepsLoops past) :
    program.Asks DetachesLast past fun value later ↦
      post value later ∧ loopCalls later = loopCalls past := by
  induction hprogram with
  | done holds => exact .done ⟨holds, rfl⟩
  | @ask past request next post first _ ih =>
    refine .ask (fun _ ↦ hpast) fun answer ↦ ?_
    have hsame : loopCalls (past ++ [⟨request, answer⟩]) = loopCalls past :=
      loopCalls_concat_of_other (hkind past request first)
    have hkeeps : KeepsLoops (past ++ [⟨request, answer⟩]) := by
      unfold KeepsLoops
      rw [hsame]
      exact hpast
    have hrest := ih answer hkeeps
    rwa [hsame] at hrest

/-! ## Devices -/

namespace Device

/-- The files that a device needs to have attached. -/
def sources : Device → List (String × Bool)
  | .loop file readOnly _ => [(file, readOnly)]
  | _ => []

/-- The loops that were attached for a device. -/
def loops : Device → List String
  | .loop _ _ node => node.toList
  | _ => []

/-- What attaching a device adds to the calls on loop devices. -/
structure Attaches (device : Device) (past : History Devices) (attempts : List LoopAttempt)
    (result : Except Failure Device) (later : History Devices) : Prop where
  calls : loopCalls later = loopCalls past ++ attempts.map .attach
  sources : attempts.map LoopAttempt.source = device.sources
  loops : attempts.filterMap LoopAttempt.node =
    match result with
    | .ok device => device.loops
    | .error _ => []

/-- Making sure of a loop attaches its file once. -/
theorem loop_activate_attaches (file : String) (readOnly : Bool) :
    (Device.loop file readOnly none).activate.attempt.Asks DetachesLast past fun result later ↦
      ∃ attempts, (Device.loop file readOnly none).Attaches past attempts result later := by
  apply Task.asks_bind
  apply Task.asks_within
  apply Program.asks_perform nofun
  intro answer
  cases answer with
  | error failure => exact ⟨[⟨file, readOnly, none⟩], loopCalls_concat past _, rfl, rfl⟩
  | ok node =>
    exact .done ⟨[⟨file, readOnly, some node⟩], loopCalls_concat past _, rfl, rfl⟩

/-- A device of the host needs no loop. -/
theorem physical_activate_attaches (path : String) :
    (Device.physical path).activate.attempt.Asks DetachesLast past fun result later ↦
      ∃ attempts, (Device.physical path).Attaches past attempts result later := by
  apply Task.asks_liftM_bind
  apply Program.asks_perform nofun
  intro found
  cases found with
  | false => exact .done ⟨[], loopCalls_concat past _, rfl, rfl⟩
  | true => exact .done ⟨[], loopCalls_concat past _, rfl, rfl⟩

/-- A release detaches what was attached for the device. -/
theorem release_detaches (device : Device) :
    device.release.attempt.Asks DetachesLast past fun _ later ↦
      loopCalls later = loopCalls past ++ device.loops.map .detach := by
  obtain ⟨file, readOnly, _ | node⟩ | path | ⟨name, table⟩ := device
  · exact .done (List.append_nil _).symm
  · apply Task.asks_within
    apply Program.asks_perform nofun
    exact fun answer ↦ loopCalls_concat past _
  · exact .done (List.append_nil _).symm
  · exact .done (List.append_nil _).symm

end Device

namespace Chain

variable (chain : Chain)

/-- The device of an image, for what a test of its path has found. -/
theorem baseDevice_asks_image (base : String) :
    (baseDevice base).Asks DetachesLast past fun device later ↦
      ∃ isBlock : Bool, device = (if isBlock then .physical base else .loop base true none) ∧
        later = past ++ [⟨.isBlockDevice base, isBlock⟩] := by
  apply Program.asks_bind
  apply Program.asks_perform nofun
  intro found
  cases found with
  | false => exact .done ⟨false, rfl, rfl⟩
  | true => exact .done ⟨true, rfl, rfl⟩

/-- What an attempt to build leaves: the loops that were attached, which the devices hold. -/
def Holds (base overlay : Device) (made : Except Failure String × Device × Device)
    (later : History Devices) : Prop :=
  ∃ attempts : List LoopAttempt, loopCalls later = attempts.map .attach ∧
    attempts.filterMap LoopAttempt.node = made.2.1.loops ++ made.2.2.loops ∧
    attempts.map LoopAttempt.source <+: base.sources ++ overlay.sources

theorem assemble_holds {base overlay : Device} (hbase : base.loops = [])
    (hoverlay : overlay.loops = []) (hpast : loopCalls past = [])
    (hactivateBase : base.activate.attempt.Asks DetachesLast past fun result later ↦
      ∃ attempts, base.Attaches past attempts result later)
    (hactivateOverlay : ∀ past, overlay.activate.attempt.Asks DetachesLast past
      fun result later ↦ ∃ attempts, overlay.Attaches past attempts result later) :
    (assemble chain base overlay).Asks DetachesLast past (Holds base overlay) := by
  unfold assemble
  apply Program.asks_bind
  refine hactivateBase.mono ?_
  rintro (failure | baseDevice) first ⟨attempts, hfirst⟩
  · refine .done ⟨attempts, ?_, ?_, ?_⟩
    · rw [hfirst.calls, hpast, List.nil_append]
    · rw [hfirst.loops, hbase, hoverlay, List.nil_append]
    · rw [hfirst.sources]
      exact List.prefix_append _ _
  have hcalls : loopCalls first = attempts.map .attach := by
    rw [hfirst.calls, hpast, List.nil_append]
  apply Program.asks_bind
  refine (hactivateOverlay first).mono ?_
  rintro (failure | overlayDevice) second ⟨others, hsecond⟩
  · refine .done ⟨attempts ++ others, ?_, ?_, ?_⟩
    · rw [hsecond.calls, hcalls, List.map_append]
    · rw [List.filterMap_append, hfirst.loops, hsecond.loops, hoverlay]
    · rw [List.map_append, hfirst.sources, hsecond.sources]
  have hboth : loopCalls second = (attempts ++ others).map .attach := by
    rw [hsecond.calls, hcalls, List.map_append]
  have hbuild := asks_detachesLast (chain.build_asks baseDevice overlayDevice)
    (fun _ _ hkind ↦ hkind.2) (keepsLoops_of_loopCalls_eq hboth)
  apply Program.asks_bind
  refine hbuild.mono ?_
  rintro result last ⟨-, hsame⟩
  refine .done ⟨attempts ++ others, hsame.trans hboth, ?_, ?_⟩
  · rw [List.filterMap_append, hfirst.loops, hsecond.loops]
  · rw [List.map_append, hfirst.sources, hsecond.sources]

/-- Attaching, building and detaching. -/
theorem assemble_asks_loopUse {device : Device} {base : String} (overlay : String) {isBlock : Bool}
    (htested : ⟨.isBlockDevice base, isBlock⟩ ∈ past) (hpast : loopCalls past = [])
    (hloops : device.loops = [])
    (hsources : device.sources = if isBlock then [] else [(base, true)])
    (hactivate : device.activate.attempt.Asks DetachesLast past fun result later ↦
      ∃ attempts, device.Attaches past attempts result later) :
    (Task.attempt (do
      let (result, base, overlay) ← assemble chain device (.loop overlay false none)
      let _ ← ExceptT.lift base.release.attempt
      let _ ← ExceptT.lift overlay.release.attempt
      Task.ofExcept result : Task Devices String)).Asks DetachesLast past fun _ later ↦
        ∃ isBlock attempts, IsLoopUse base overlay later isBlock attempts := by
  have hassemble : (assemble chain device (.loop overlay false none)).Asks DetachesLast past
      (Holds device (.loop overlay false none)) :=
    chain.assemble_holds hloops rfl hpast hactivate
      fun past ↦ Device.loop_activate_attaches overlay false
  apply Task.asks_liftM_bind
  refine hassemble.extends.mono ?_
  rintro ⟨result, baseDevice, overlayDevice⟩ built ⟨hbuilt, attempts, hcalls, hheld, hfiles⟩
  apply Task.asks_liftM_bind
  refine baseDevice.release_detaches.extends.mono ?_
  rintro _ released ⟨hreleased, hbase⟩
  apply Task.asks_liftM_bind
  refine overlayDevice.release_detaches.extends.mono ?_
  rintro _ last ⟨hlast, hoverlay⟩
  refine .done ⟨isBlock, attempts, ?_, ?_, fun _ ↦ ?_⟩
  · rw [hoverlay, hbase, hcalls, hheld, List.map_append, List.append_assoc]
  · rw [hsources] at hfiles
    exact hfiles
  · exact ((hbuilt.trans hreleased).trans hlast).subset htested

theorem activateLocked_asks_loopUse (base overlay : String) (hpast : loopCalls past = []) :
    (activateLocked chain base overlay).attempt.Asks DetachesLast past fun _ later ↦
      ∃ isBlock attempts, IsLoopUse base overlay later isBlock attempts := by
  unfold activateLocked
  apply Task.asks_liftM_bind
  apply Program.asks_perform nofun
  intro found
  have hlooked : loopCalls (past ++ [⟨.deviceExists chain.devicePath, found⟩]) = [] :=
    (loopCalls_concat_of_other rfl).trans hpast
  cases found with
  | true => exact .done ⟨false, [], isLoopUse_nil hlooked⟩
  | false =>
    apply Task.asks_liftM_bind
    refine (baseDevice_asks_image base).mono ?_
    rintro device tested ⟨isBlock, rfl, rfl⟩
    have htested : loopCalls (past ++ [⟨.deviceExists chain.devicePath, false⟩] ++
        [⟨.isBlockDevice base, isBlock⟩]) = [] := (loopCalls_concat_of_other rfl).trans hlooked
    cases isBlock with
    | false =>
      exact chain.assemble_asks_loopUse overlay List.mem_concat_self htested rfl rfl
        (Device.loop_activate_attaches base true)
    | true =>
      exact chain.assemble_asks_loopUse overlay List.mem_concat_self htested rfl rfl
        (Device.physical_activate_attaches base)

theorem withLock_asks_loopUse {path base overlay : String} {task : Task Devices String}
    (hpast : loopCalls past = [])
    (htask : ∀ past, loopCalls past = [] → task.attempt.Asks DetachesLast past fun _ later ↦
      ∃ isBlock attempts, IsLoopUse base overlay later isBlock attempts) :
    (Devices.withLock path task).attempt.Asks DetachesLast past fun _ later ↦
      ∃ isBlock attempts, IsLoopUse base overlay later isBlock attempts := by
  apply Task.asks_bind
  apply Program.asks_perform nofun
  intro acquired
  have hacquired : loopCalls (past ++ [⟨.acquireLock path, acquired⟩]) = [] :=
    (loopCalls_concat_of_other rfl).trans hpast
  cases acquired with
  | error failure => exact ⟨false, [], isLoopUse_nil hacquired⟩
  | ok value =>
    apply Task.asks_liftM_bind
    refine (htask _ hacquired).mono ?_
    rintro result past ⟨isBlock, attempts, huse⟩
    apply Task.asks_liftM_bind
    apply Program.asks_perform nofun
    exact fun released ↦ .done ⟨isBlock, attempts, huse.concat rfl⟩

theorem activate_asks_loopUse (base overlay : String) :
    (chain.activate base overlay).attempt.Asks DetachesLast [] fun _ later ↦
      ∃ isBlock attempts, IsLoopUse base overlay later isBlock attempts := by
  unfold activate
  apply Task.asks_liftM_bind
  apply Program.asks_perform nofun
  intro found
  have hlooked : loopCalls ([] ++ [⟨.deviceExists chain.devicePath, found⟩]) = [] := rfl
  cases found with
  | true => exact .done ⟨false, [], isLoopUse_nil hlooked⟩
  | false =>
    exact withLock_asks_loopUse hlooked
      fun past ↦ chain.activateLocked_asks_loopUse base overlay

/-- An activation leaves no loop behind, whatever fails in it. The image is attached read only
unless it is a block device, and the overlay is attached to be written. Each loop that was attached
is detached once, the one of the image first, and after all calls on mappings. Nothing else is
detached. -/
theorem activate_detaches_loops {base overlay : String} {history : History Devices}
    {result : Option (Except Failure String)}
    (hrun : (chain.activate base overlay).attempt.IsRun history result) :
    (∃ outcome, result = some outcome) ∧
      (∃ isBlock attempts, IsLoopUse base overlay history isBlock attempts) ∧
      ∀ before event after, history = before ++ event :: after →
        DeviceRequest.usesMappings event.request = true →
          ∀ node, LoopCall.detach node ∉ loopCalls before := by
  have hasks := chain.activate_asks_loopUse base overlay
  obtain ⟨outcome, rfl, huse⟩ := hasks.exists_value hrun
  have hordered := hasks.isOfKind hrun.leaves
  refine ⟨⟨outcome, rfl⟩, huse, ?_⟩
  rintro before event after rfl
  exact hordered.of_append

/-- An activation that can neither attach the overlay nor detach the image. -/
def failedAttaching (chain : Chain) (failure : Failure) : History Devices :=
  [⟨.deviceExists chain.devicePath, false⟩,
    ⟨.acquireLock chain.lockPath, .ok ()⟩,
    ⟨.deviceExists chain.devicePath, false⟩,
    ⟨.isBlockDevice "image", false⟩,
    ⟨.attachLoop "image" true, .ok (loopNode 0)⟩,
    ⟨.attachLoop "overlay" false, .error failure⟩,
    ⟨.detachLoop (loopNode 0), .error failure⟩,
    ⟨.releaseLock chain.lockPath, ()⟩]

theorem isRun_failedAttaching (failure : Failure) :
    (chain.activate "image" "overlay").attempt.IsRun (chain.failedAttaching failure)
      (some (.error (.within (.attachingLoop "overlay") failure))) := by
  iterate 8 refine .ask _ ?_
  exact .done _

/-- The loop over the image is detached although the overlay gets none, and although detaching
fails. -/
theorem activate_detaches_loops_failed_attaching :
    let chain : Chain := ⟨"abc", "/run/lock", 8⟩
    let history := chain.failedAttaching (.cause .deviceInactive)
    (∃ result, (chain.activate "image" "overlay").attempt.IsRun history result) ∧
      ∃ isBlock attempts, IsLoopUse "image" "overlay" history isBlock attempts := by
  intro chain history
  have hrun := chain.isRun_failedAttaching (.cause .deviceInactive)
  obtain ⟨-, huse, -⟩ := chain.activate_detaches_loops hrun
  exact ⟨⟨_, hrun⟩, huse⟩

end Chain

end MicroVm.Storage

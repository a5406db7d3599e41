import MicroVm.Proofs.Storage.Activation
import MicroVm.Proofs.Storage.Deactivation
import MicroVm.Proofs.Storage.Operations

/-!
# Activation and deactivation in turn

A deactivation takes away both mappings of a machine that an activation has made, or has found to be
there, as long as locking, removing and detaching do not fail. The loops that the activation has
attached are gone as well then: their nodes were free in the beginning, because nothing is taken
away before all loops are attached, and in the end there are only nodes of the beginning.
-/

namespace MicroVm.Storage

open HostDevices

/-- Faults that leave locking, removing and detaching alone. -/
structure FaultPattern.SparesRelease (faults : FaultPattern) : Prop where
  locks : ∀ past path, ¬ faults past (.acquireLock path)
  removes : ∀ past names, ¬ faults past (.removeMappings names)
  detaches : ∀ past node, ¬ faults past (.detachLoop node)

theorem FaultPattern.SparesRelease.sparesCleanUp {faults : FaultPattern}
    (hfaults : faults.SparesRelease) : faults.SparesCleanUp where
  detaches := hfaults.detaches
  rollsBack := fun past names _ ↦ hfaults.removes past names

/-! ## Requests that take nothing away -/

section Requests

variable {faults : FaultPattern} {past asked history : History Devices} {host after : HostDevices}

/-- A host is unchanged by calls that change no nodes. -/
theorem eq_self_of_allows
    (hkeeps : ∀ event ∈ history, DeviceRequest.changesNodes event.request = false)
    (hallows : (conduct faults).Allows past host history after) : after = host := by
  induction hallows with
  | nil => rfl
  | cons first _ ih =>
    obtain ⟨hfirst, hlater⟩ := List.forall_mem_cons.1 hkeeps
    exact (ih hlater).trans (first.eq_self hfirst)

theorem HostDevices.Serves.nodes_subset {mayFail : Prop} {request : DeviceRequest}
    {answer : request.Answer} (hserves : host.Serves mayFail request answer after)
    (hkeeps : request.takesAway = false) : host.nodes ⊆ after.nodes := by
  have hsame (hafter : after = host) : host.nodes ⊆ after.nodes := by rw [hafter]
  cases request with
  | detachLoop | removeMappings => cases hkeeps
  | attachLoop =>
    cases answer with
    | error failure => exact hsame hserves.2
    | ok node =>
      obtain ⟨-, rfl⟩ := hserves
      exact Set.subset_insert node _
  | createMapping =>
    cases answer with
    | error failure => exact hsame hserves.2
    | ok value =>
      obtain rfl := hserves
      exact Set.subset_insert _ _
  | _ => exact hsame (hserves.eq_self rfl)

/-- Loops that are attached before anything is taken away get nodes that were free in the
beginning. -/
theorem notMem_of_wasAttached {chain : Chain} {nodes : Set String} {node : String}
    (hkind : Program.IsOfKind (fun past request ↦ chain.KeepsOrder past request) asked history)
    (hkept : NothingTaken asked → nodes ⊆ host.nodes)
    (hallows : (conduct faults).Allows past host history after)
    (hattached : WasAttached history node) : node ∉ nodes := by
  induction hallows generalizing asked with
  | nil =>
    obtain ⟨_, _, hmem⟩ := hattached
    cases hmem
  | cons first _ ih =>
    obtain ⟨file, readOnly, hmem⟩ := hattached
    cases hkind with
    | cons hfirst hrest =>
      obtain hnow | hlater := List.mem_cons.1 hmem
      · cases hnow
        obtain ⟨⟨hfree, -⟩, -⟩ := first
        exact fun hnode ↦ hfree (hkept hfirst hnode)
      · refine ih hrest (fun hpast ↦ ?_) ⟨file, readOnly, hlater⟩
        obtain ⟨hearlier, hlast⟩ := List.forall_mem_append.1 hpast
        exact (hkept hearlier).trans (first.nodes_subset (hlast _ (List.mem_singleton_self _)))

end Requests

namespace Chain

/-! ## What an activation leaves -/

/-- A host with the root device that is otherwise like another host, apart from the padded base. -/
structure AddsDevice (chain : Chain) (host after : HostDevices) : Prop where
  present : chain.devicePath ∈ after.nodes
  others : after.nodes \ chain.mappingNodes true = host.nodes \ chain.mappingNodes true

variable {chain : Chain} {host after : HostDevices}

theorem AllOrNothing.addsDevice {isPadded : Bool} {device : String}
    (hafter : chain.AllOrNothing host.nodes isPadded (.ok device) after.nodes) :
    chain.AddsDevice host after := by
  obtain ⟨-, hnodes⟩ := hafter
  have hmappings : chain.mappingNodes isPadded ⊆ chain.mappingNodes true := by
    cases isPadded with
    | false => exact Set.singleton_subset_iff.2 (.inl rfl)
    | true => exact subset_rfl
  have hpadded : {chain.paddedBasePath} ⊆ chain.mappingNodes true :=
    Set.singleton_subset_iff.2 (.inr rfl)
  constructor
  · rw [hnodes]
    right
    cases isPadded with
    | false => exact rfl
    | true => exact .inl rfl
  · calc
      _ = (host.nodes \ {chain.paddedBasePath} ∪ chain.mappingNodes isPadded) \
          chain.mappingNodes true := by rw [hnodes]
      _ = (host.nodes \ {chain.paddedBasePath}) \ chain.mappingNodes true := by
        rw [Set.union_sdiff_distrib, Set.sdiff_eq_empty.2 hmappings, Set.union_empty]
      _ = host.nodes \ chain.mappingNodes true := by
        rw [Set.sdiff_sdiff, Set.union_eq_right.2 hpadded]

variable (chain) {faults : FaultPattern} {past : History Devices}

/-- After an activation that succeeds the root device is there, and other nodes are as before. -/
theorem activate_ensures (hfaults : faults.SparesCleanUp) (base overlay : String) :
    (chain.activate base overlay).attempt.Ensures (conduct faults) past host
      fun result _ after ↦ ∀ device, result = .ok device → chain.AddsDevice host after := by
  apply Task.ensures_liftM_bind
  apply Program.ensures_perform
  rintro (_ | _) after ⟨hfound, rfl⟩
  · have hdevice : chain.devicePath ∉ after.nodes := fun hmem ↦ nomatch hfound.2 hmem
    refine withLock_ensures (fun past ↦ ?_) fun _ _ _ hok ↦ nomatch hok
    refine (chain.activateLocked_ensures hfaults base overlay hdevice).mono ?_
    rintro _ _ ended hbuilt device rfl
    exact hbuilt.addsDevice
  · exact Program.ensures_done fun _ _ ↦ ⟨hfound.1 rfl, rfl⟩

/-! ## What is left in the end -/

/-- A host on which nothing is left of the mappings of a machine and of the loops attached in a
history, and which is otherwise like another host. -/
structure IsCleared (chain : Chain) (host : HostDevices) (history : History Devices)
    (after : HostDevices) : Prop where
  mappings : ∀ path ∈ chain.mappingNodes true, path ∉ after.nodes
  loops : ∀ node, WasAttached history node → node ∉ after.nodes
  others : ∀ path, path ∉ chain.mappingNodes true → (path ∈ after.nodes ↔ path ∈ host.nodes)

variable {chain} in
/-- What comes before does not matter if it changes no nodes. -/
theorem IsCleared.later {looked history : History Devices}
    (hcleared : chain.IsCleared host history after)
    (hkeeps : ∀ event ∈ looked, DeviceRequest.changesNodes event.request = false) :
    chain.IsCleared host (looked ++ history) after := by
  refine ⟨hcleared.mappings, ?_, hcleared.others⟩
  rintro node ⟨file, readOnly, hmem⟩
  obtain hlooked | hlater := List.mem_append.1 hmem
  · cases hkeeps _ hlooked
  · exact hcleared.loops node ⟨file, readOnly, hlater⟩

theorem deactivate_ensures_isRemoved (hfaults : faults.SparesRelease) :
    chain.deactivate.attempt.Ensures (conduct faults) past host
      fun _ _ after ↦ chain.IsRemoved host after := by
  refine withLock_ensures (fun past ↦ ?_) ?_
  · refine (chain.deactivateLocked_ensures hfaults.removes).mono ?_
    exact fun _ _ _ hremoved ↦ hremoved.2
  · exact fun _ hfault ↦ absurd hfault (hfaults.locks _ _)

theorem activate_asks (base overlay : String) :
    (Operation.activate chain base overlay).program.Asks
      (fun past request ↦ chain.KeepsOrder past request) [] fun _ _ ↦ True := by
  refine Operation.asks_of_locked (fun _ _ ↦ trivial) (fun _ _ ↦ trivial) (fun _ _ ↦ trivial) ?_
  exact (Operation.locked_asks _).weaken fun _ _ hkind ↦ hkind.2

theorem activate_keepsOrder {base overlay : String} {history : History Devices}
    {result : Except Failure String}
    (hrun : (chain.activate base overlay).attempt.IsRun history (some result)) :
    Program.IsOfKind (fun past request ↦ chain.KeepsOrder past request) [] history :=
  (chain.activate_asks base overlay).isOfKind (hrun.map (Except.map some)).leaves

/-- An activation may fail but it does not crash. -/
theorem activate_not_halts {base overlay : String} {history : History Devices} :
    ¬ (chain.activate base overlay).attempt.IsRun history none := by
  intro hcrash
  obtain ⟨_, hnone, -⟩ := (chain.activate_asks base overlay).exists_value hcrash.bind_none
  cases hnone

/-- Removing a root device attaches no loop. -/
theorem deactivate_attaches_nothing {history : History Devices} {result : Except Failure Unit}
    (hrun : chain.deactivate.attempt.IsRun history (some result)) {node : String} :
    ¬ WasAttached history node := by
  have hasks : (Operation.deactivate chain).program.Asks
      (fun _ request ↦ DeviceRequest.attaches request = false) [] fun _ _ ↦ True := by
    refine Operation.asks_of_locked (fun _ _ ↦ rfl) (fun _ _ ↦ rfl) (fun _ _ ↦ rfl) ?_
    exact (Operation.locked_asks _).weaken fun _ _ hkind ↦ hkind.2
  have hleaves := (hrun.map (Except.map fun () ↦ (none : Option String))).leaves
  rintro ⟨file, readOnly, hmem⟩
  obtain ⟨_, hattaches⟩ := (hasks.isOfKind hleaves).of_mem hmem
  cases hattaches

/-- A deactivation after an activation that succeeded leaves nothing of what was there for the
machine, whether the activation has made it or found it. -/
theorem isCleared_of_isRun (hfaults : faults.SparesRelease) {base overlay device : String}
    {activation deactivation : History Devices} {result : Except Failure Unit}
    (hactivate : (chain.activate base overlay).attempt.IsRun activation (some (.ok device)))
    (hdeactivate : chain.deactivate.attempt.IsRun deactivation (some result))
    (hallows : (conduct faults).Allows past host (activation ++ deactivation) after) :
    chain.IsCleared host (activation ++ deactivation) after := by
  obtain ⟨middle, hmaking, hremoving⟩ := Conduct.allows_append_iff.1 hallows
  obtain ⟨_, hresult, hadded⟩ :=
    chain.activate_ensures hfaults.sparesCleanUp base overlay hactivate hmaking
  have hadded := hadded device (Option.some.inj hresult).symm
  obtain ⟨_, -, hremoved⟩ := chain.deactivate_ensures_isRemoved hfaults hdeactivate hremoving
  have hnodes : after.nodes = host.nodes \ chain.mappingNodes true :=
    (hremoved.whenThere hadded.present).trans hadded.others
  refine ⟨fun path hpath ↦ ?_, ?_, fun path hpath ↦ ?_⟩
  · rw [hnodes]
    exact fun hmem ↦ hmem.2 hpath
  · rintro node ⟨file, readOnly, hmem⟩
    obtain hmade | hlater := List.mem_append.1 hmem
    · have hfree := notMem_of_wasAttached (chain.activate_keepsOrder hactivate)
        (fun _ ↦ subset_rfl) hmaking ⟨file, readOnly, hmade⟩
      rw [hnodes]
      exact fun hnode ↦ hfree hnode.1
    · exact absurd ⟨file, readOnly, hlater⟩ (chain.deactivate_attaches_nothing hdeactivate)
  · rw [hnodes]
    exact and_iff_left hpath

end Chain

end MicroVm.Storage

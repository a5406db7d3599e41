import MicroVm.Machine.Uid
import MicroVm.Proofs.Storage.Operations

/-!
# Mappings of other machines

An operation on a root device makes and removes mappings of its own two names only, whatever fails.
That spares the mappings of another machine as long as the two machines have no name in common. An
id may end in `-base`, however, and then the root device of one machine has the name of the padded
base of another one.
-/

namespace MicroVm.Storage

open HostDevices

/-! ## Nodes that stay as they are -/

/-- The mappings that a request makes or removes. -/
def DeviceRequest.mappings : DeviceRequest → List String
  | .createMapping name _ => [name]
  | .removeMappings names => names
  | _ => []

namespace HostDevices

variable {host after : HostDevices} {path : String}

theorem add_mem_iff {node : String} (hother : node ≠ path) :
    path ∈ (host.add node).nodes ↔ path ∈ host.nodes :=
  Set.mem_insert_iff.trans (or_iff_right hother.symm)

theorem remove_mem_iff {node : String} (hother : node ≠ path) :
    path ∈ (host.remove node).nodes ↔ path ∈ host.nodes :=
  and_iff_left hother.symm

/-- A removal leaves the nodes that it does not name. -/
theorem Removes.mem_iff {names : List String} {missing : Option String}
    (hremoves : host.Removes names missing after)
    (hothers : ∀ name ∈ names, mapperPath name ≠ path) :
    path ∈ after.nodes ↔ path ∈ host.nodes := by
  induction hremoves with
  | nil => exact Iff.rfl
  | missing => exact Iff.rfl
  | present _ _ ih =>
    obtain ⟨hfirst, hlater⟩ := List.forall_mem_cons.1 hothers
    exact (ih hlater).trans (remove_mem_iff hfirst)

/-- A path that is no loop and belongs to no mapping of a request is there after the request exactly
when it was there before. -/
theorem Serves.mem_iff {mayFail : Prop} {request : DeviceRequest} {answer : request.Answer}
    (hserves : host.Serves mayFail request answer after)
    (hmappings : ∀ name ∈ request.mappings, mapperPath name ≠ path)
    (hloop : ∀ number, loopNode number ≠ path) (hdetach : request ≠ .detachLoop path) :
    path ∈ after.nodes ↔ path ∈ host.nodes := by
  have hsame (hafter : after = host) : path ∈ after.nodes ↔ path ∈ host.nodes := by rw [hafter]
  cases request with
  | attachLoop file readOnly =>
    cases answer with
    | error failure => exact hsame hserves.2
    | ok node =>
      obtain ⟨⟨-, number, rfl⟩, rfl⟩ := hserves
      exact add_mem_iff (hloop number)
  | detachLoop node =>
    cases answer with
    | error failure => exact hsame hserves.2
    | ok value =>
      obtain rfl := hserves
      exact remove_mem_iff fun hequal ↦ hdetach (congrArg _ hequal)
  | createMapping name table =>
    cases answer with
    | error failure => exact hsame hserves.2
    | ok value =>
      obtain rfl := hserves
      exact add_mem_iff (hmappings name (List.mem_singleton_self name))
  | removeMappings names =>
    cases answer with
    | ok value => exact Removes.mem_iff hserves hmappings
    | error failure =>
      obtain ⟨-, hafter⟩ | ⟨-, name, hremoves⟩ := hserves
      · exact hsame hafter
      · exact hremoves.mem_iff hmappings
  | _ => exact hsame (hserves.eq_self rfl)

end HostDevices

/-- Whether all nodes that were attached are loops. -/
def AttachedLoops (past : History Devices) : Prop :=
  ∀ node, WasAttached past node → ∃ number, node = loopNode number

theorem AttachedLoops.concat {past : History Devices} {mayFail : Prop} {host after : HostDevices}
    {request : DeviceRequest} {answer : request.Answer} (hpast : AttachedLoops past)
    (hserves : host.Serves mayFail request answer after) :
    AttachedLoops (past ++ [⟨request, answer⟩]) := by
  rintro node ⟨file, readOnly, hmem⟩
  obtain hearlier | hlast := List.mem_append.1 hmem
  · exact hpast node ⟨file, readOnly, hearlier⟩
  · cases List.mem_singleton.1 hlast
    exact hserves.1.2

namespace Chain

variable {chain : Chain} {path : String}

/-- Whether two machines have different ids, of which none is the other one with the ending of
padded bases. -/
def IsApart (uid other : String) : Prop :=
  uid ≠ other ∧ uid ≠ other ++ "-base" ∧ other ≠ uid ++ "-base"

instance (uid other : String) : Decidable (IsApart uid other) :=
  inferInstanceAs (Decidable (_ ∧ _ ∧ _))

/-- Two machines share no mapping exactly when they are apart. -/
theorem disjoint_mappingNames_iff {other : Chain} :
    (chain.mappingNames true).Disjoint (other.mappingNames true) ↔
      IsApart chain.uid other.uid := by
  have hnames (one : Chain) :
      one.mappingNames true = [snapshotName one.uid, paddedBaseName one.uid] := rfl
  rw [hnames, hnames]
  simp only [List.disjoint_cons_left, List.disjoint_nil_left, List.mem_cons, List.not_mem_nil,
    or_false, not_or, and_true, snapshotName_inj, paddedBaseName_inj,
    snapshotName_eq_paddedBaseName_iff, @eq_comm _ (paddedBaseName chain.uid)
    (snapshotName other.uid), IsApart]
  grind

/-- The nodes of mappings tell their names apart. -/
theorem mapperPath_ne {other : Chain} {name different : String}
    (hname : name ∈ chain.mappingNames true) (hdifferent : different ∈ other.mappingNames true)
    (hne : name ≠ different) : mapperPath name ≠ mapperPath different := by
  have hpath {chain : Chain} {name : String} (hname : name ∈ chain.mappingNames true) :
      mapperPath name = "/dev/mapper/" ++ name := by
    apply mapperPath_eq
    obtain rfl | hpadded := List.mem_cons.1 hname
    · simp [snapshotName_eq]
    · rw [List.mem_singleton.1 hpadded]
      simp [paddedBaseName_eq]
  rw [hpath hname, hpath hdifferent]
  exact fun hequal ↦ hne (String.append_right_inj _ |>.1 hequal)

end Chain

namespace Operation

/-- The lock aside, an operation touches nothing of other machines. -/
def OuterKind (operation : Operation) : Program.RequestKind Devices :=
  fun past request ↦ request.isLocking = true ∨ operation.chain.KeepsToItself past request

theorem program_asks (operation : Operation) :
    operation.program.Asks operation.OuterKind [] fun _ _ ↦ True := by
  refine asks_of_locked (fun _ _ ↦ .inr trivial) (fun _ _ ↦ .inl rfl) (fun _ _ ↦ .inl rfl) ?_
  exact (locked_asks operation).weaken fun _ _ hkind ↦ .inr hkind.keepsToItself

variable {operation : Operation} {other : Chain} {past history : History Devices}

/-- The mappings that an operation makes or removes are those of its machine. -/
theorem OuterKind.mappings_subset {request : DeviceRequest}
    (hkind : operation.OuterKind past request) :
    request.mappings ⊆ operation.chain.mappingNames true := by
  intro name hmem
  cases request with
  | createMapping made table =>
    rw [List.mem_singleton.1 hmem]
    exact hkind.resolve_left Bool.false_ne_true
  | removeMappings names => exact hkind.resolve_left Bool.false_ne_true hmem
  | _ => exact absurd hmem List.not_mem_nil

theorem OuterKind.mem_iff {faults : FaultPattern} {host after : HostDevices}
    {request : DeviceRequest} {answer : request.Answer} {name : String}
    (hkind : operation.OuterKind past request)
    (hapart : (operation.chain.mappingNames true).Disjoint (other.mappingNames true))
    (hloops : AttachedLoops past) (hname : name ∈ other.mappingNames true)
    (hstep : conduct faults past host request answer after) :
    mapperPath name ∈ after.nodes ↔ mapperPath name ∈ host.nodes := by
  have hloop (number : Nat) : loopNode number ≠ mapperPath name := by
    obtain rfl | hpadded := List.mem_cons.1 hname
    · exact other.loopNode_ne_devicePath number
    · obtain rfl := List.mem_singleton.1 hpadded
      exact other.loopNode_ne_paddedBasePath number
  refine hstep.mem_iff ?_ hloop ?_
  · intro made hmade
    have howned := hkind.mappings_subset hmade
    refine Chain.mapperPath_ne howned hname ?_
    rintro rfl
    exact hapart howned hname
  · rintro rfl
    obtain ⟨number, hnode⟩ := hloops _ (hkind.resolve_left Bool.false_ne_true)
    exact hloop number hnode.symm

/-- The calls of an operation leave the mappings of a machine apart from its own. -/
theorem mem_iff_of_isOfKind {faults : FaultPattern} {host after : HostDevices} {name : String}
    (hapart : (operation.chain.mappingNames true).Disjoint (other.mappingNames true))
    (hname : name ∈ other.mappingNames true)
    (hkind : Program.IsOfKind operation.OuterKind past history)
    (hloops : AttachedLoops past) (hallows : (conduct faults).Allows past host history after) :
    mapperPath name ∈ after.nodes ↔ mapperPath name ∈ host.nodes := by
  induction hallows with
  | nil => exact Iff.rfl
  | cons first rest ih =>
    cases hkind with
    | cons hfirst hrest =>
      exact (ih hrest (hloops.concat first)).trans (hfirst.mem_iff hapart hloops hname first)

/-- Two machines have no name in common exactly when they are apart. Then no part of an activation
or a deactivation for the one makes or removes a mapping of the other, whatever fails. -/
theorem spares_machines_apart (operation : Operation) (other : Chain) :
    ((operation.chain.mappingNames true).Disjoint (other.mappingNames true) ↔
      Chain.IsApart operation.chain.uid other.uid) ∧
    (Chain.IsApart operation.chain.uid other.uid →
      ∀ ⦃faults : FaultPattern⦄ ⦃host history rest after⦄,
        operation.program.Leaves history rest →
        (conduct faults).Allows [] host history after →
        (∀ event ∈ history,
          (DeviceRequest.mappings event.request).Disjoint (other.mappingNames true)) ∧
        ∀ name ∈ other.mappingNames true,
          (mapperPath name ∈ after.nodes ↔ mapperPath name ∈ host.nodes)) := by
  refine ⟨Chain.disjoint_mappingNames_iff, fun hapart faults host history rest after hleaves
    hallows ↦ ?_⟩
  have hdisjoint := Chain.disjoint_mappingNames_iff.2 hapart
  have hkind := operation.program_asks.isOfKind hleaves
  constructor
  · intro event hmem
    obtain ⟨before, hevent⟩ := hkind.of_mem hmem
    exact List.disjoint_of_subset_left hevent.mappings_subset hdisjoint
  · intro name hname
    have hnone : AttachedLoops [] := fun _ ⟨_, _, hmem⟩ ↦ nomatch hmem
    exact mem_iff_of_isOfKind hdisjoint hname hkind hnone hallows

/-- The removal for one machine leaves the device of a machine apart from it. -/
theorem removal_spares_machine_apart :
    let chain : Chain := ⟨"abc", "/run/lock", 8⟩
    let other : Chain := ⟨"abd", "/run/lock", 8⟩
    ∃ host after, Chain.IsApart chain.uid other.uid ∧
      (Operation.deactivate chain).program.IsRun (removal chain) (some (.ok none)) ∧
      (conduct fun _ _ ↦ False).Allows [] host (removal chain) after ∧
      other.devicePath ∈ host.nodes ∧ other.devicePath ∈ after.nodes := by
  intro chain other
  let host : HostDevices := ⟨{chain.devicePath, chain.paddedBasePath, other.devicePath},
    fun _ ↦ none, fun _ ↦ 0, fun _ ↦ false⟩
  have hthere : other.devicePath ∈ host.nodes := .inr (.inr rfl)
  have hallows : (conduct fun _ _ ↦ False).Allows [] host (removal chain)
      ((host.remove chain.devicePath).remove chain.paddedBasePath) :=
    allows_removal (.inl rfl) (.inr (.inl rfl))
  have hapart : Chain.IsApart chain.uid other.uid := by decide
  obtain ⟨-, hspares⟩ := spares_machines_apart (.deactivate chain) other
  obtain ⟨-, hnodes⟩ := hspares hapart (isRun_removal chain).leaves hallows
  have hkept := hnodes (snapshotName other.uid) List.mem_cons_self
  exact ⟨host, _, hapart, isRun_removal chain, hallows, hthere, hkept.2 hthere⟩

/-- Two ids that are accepted and differ, and a deactivation for the one that removes the root
device of the other. -/
theorem removal_takes_other_device :
    let chain : Chain := ⟨"abc", "/run/lock", 8⟩
    let other : Chain := ⟨"abc-base", "/run/lock", 8⟩
    Machine.checkUid chain.uid = .ok () ∧ Machine.checkUid other.uid = .ok () ∧
    chain.uid ≠ other.uid ∧ ¬ (chain.mappingNames true).Disjoint (other.mappingNames true) ∧
    ∃ host after, (Operation.deactivate chain).program.IsRun (removal chain) (some (.ok none)) ∧
      (conduct fun _ _ ↦ False).Allows [] host (removal chain) after ∧
      other.devicePath ∈ host.nodes ∧ other.devicePath ∉ after.nodes := by
  intro chain other
  let host : HostDevices :=
    ⟨{chain.devicePath, other.devicePath}, fun _ ↦ none, fun _ ↦ 0, fun _ ↦ false⟩
  have hallows : (conduct fun _ _ ↦ False).Allows [] host (removal chain)
      ((host.remove chain.devicePath).remove chain.paddedBasePath) :=
    allows_removal (.inl rfl) (.inr rfl)
  refine ⟨by decide, by decide, by decide, ?_, host, _, isRun_removal chain, hallows, .inr rfl, ?_⟩
  · intro hdisjoint
    exact hdisjoint chain.paddedBaseName_mem List.mem_cons_self
  · exact fun hmem ↦ hmem.2 rfl

end Operation

end MicroVm.Storage

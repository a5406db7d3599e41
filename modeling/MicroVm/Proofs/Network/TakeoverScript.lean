import Mathlib.Data.List.Nodup
import MicroVm.Proofs.Network.CallSequence
import MicroVm.Proofs.Network.GuestDevices

/-!
# The script of a takeover

A takeover makes nine changes for each leased candidate and four for each redirected one, in the
order of the candidates. They are known beforehand, up to the hardware addresses that are drawn at
random. The first change that fails is the last one made, and the failure names the interface of the
candidate that the change was for.
-/

namespace MicroVm.Network

variable {plan : NetworkPlan} {dns : GuestDns} {setup : NetworkSetup} {interface : String}
  {candidate : Candidate} {candidates : List Candidate}

/-! ## What is done for each candidate -/

/-- The tap made for an interface whose devices can be named. -/
def tapOf (interface : String) : String := (tapName? interface).getD ""

/-- The bridge made for an interface whose devices can be named. -/
def bridgeOf (interface : String) : String := (bridgeName? interface).getD ""

theorem IsNamed.tapName?_eq (hnamed : IsNamed interface) :
    tapName? interface = some (tapOf interface) := by
  have htap : (tapName? interface).isSome := by
    rw [tapName?_eq_map, Option.isSome_map]
    exact hnamed
  rw [tapOf, Option.eq_some_of_isSome htap]
  rfl

theorem IsNamed.bridgeName?_eq (hnamed : IsNamed interface) :
    bridgeName? interface = some (bridgeOf interface) := by
  have hbridge : (bridgeName? interface).isSome := by
    rw [bridgeName?_eq_map, Option.isSome_map]
    exact hnamed
  rw [bridgeOf, Option.eq_some_of_isSome hbridge]
  rfl

/-- The changes that hand a candidate over, up to random bytes. -/
def Candidate.changes : Candidate → List (Octets 6 → Change)
  | .leased interface _ address _ => [
    fun _ ↦ .removeAddress interface address,
    fun bytes ↦ .setMac interface (Mac.localOfRandom bytes),
    fun _ ↦ .createBridge (bridgeOf interface),
    fun _ ↦ .createTap (tapOf interface),
    fun _ ↦ .setMaster interface (bridgeOf interface),
    fun _ ↦ .setMaster (tapOf interface) (bridgeOf interface),
    fun _ ↦ .setUp (bridgeOf interface),
    fun _ ↦ .setUp (tapOf interface),
    fun _ ↦ .setUp interface]
  | .redirected interface _ => [
    fun _ ↦ .createTap (tapOf interface),
    fun _ ↦ .setUp (tapOf interface),
    fun _ ↦ .redirect interface (tapOf interface),
    fun _ ↦ .redirect (tapOf interface) interface]

/-- What is being done while a candidate is handed over. -/
def Candidate.activity : Candidate → Activity
  | .leased interface _ _ _ => .takingOver interface
  | .redirected interface _ => .redirecting interface

/-- The lease of a candidate whose address is taken over. -/
def Candidate.lease? (dns : GuestDns) : Candidate → Option Lease
  | .leased interface mac address gateway =>
    some { interface, bridge := bridgeOf interface, tap := tapOf interface, address, gateway, mac,
           dns := dns.v4, dns6 := dns.v6 }
  | .redirected _ _ => none

/-- The guest card of a candidate that is redirected. -/
def Candidate.passthrough? : Candidate → Option Passthrough
  | .leased _ _ _ _ => none
  | .redirected interface mac => some { interface, tap := tapOf interface, mac }

/-- What handing candidates over gives. -/
def handedOver (dns : GuestDns) (candidates : List Candidate) : NetworkSetup :=
  ⟨candidates.filterMap (Candidate.lease? dns), candidates.filterMap Candidate.passthrough?⟩

/-! ## The script -/

/-- A change that is made for a candidate. -/
structure ScriptStep where
  owner : Candidate
  change : Octets 6 → Change

/-- All that a takeover does. -/
def script (candidates : List Candidate) : List ScriptStep :=
  candidates.flatMap fun candidate ↦ candidate.changes.map (ScriptStep.mk candidate)

/-- A failure of a step names the candidate that it is for. -/
def ScriptStep.call (step : ScriptStep) : Call :=
  { change := step.change, report := .within step.owner.activity }

/-- The changes that steps at the beginning of a takeover are. -/
def issued (plan : NetworkPlan) (steps : List ScriptStep) : List Change :=
  steps.mapIdx fun number step ↦ step.change (plan.bytes number)

theorem leaseInterface_follows (plan : NetworkPlan) (dns : GuestDns)
    (hnamed : IsNamed interface) (mac : Mac) (address : Cidr) (gateway : Option Ipv4) :
    Follows plan (leaseInterface interface mac address gateway dns)
      ((Candidate.leased interface mac address gateway).changes.map fun change ↦ { change })
      { interface, bridge := bridgeOf interface, tap := tapOf interface, address, gateway, mac,
        dns := dns.v4, dns6 := dns.v6 } := by
  rw [leaseInterface, hnamed.tapName?_eq, hnamed.bridgeName?_eq]
  exact (follows_change _).bind
    (follows_drawn ((follows_changeAll (bridgeChanges _ _ _)).bind (follows_pure _)))

theorem redirectInterface_follows (plan : NetworkPlan) (hnamed : IsNamed interface) (mac : Mac) :
    Follows plan (redirectInterface interface mac)
      ((Candidate.redirected interface mac).changes.map fun change ↦ { change })
      { interface, tap := tapOf interface, mac } := by
  rw [redirectInterface, hnamed.tapName?_eq]
  exact (follows_changeAll (redirectChanges _ _)).bind (follows_pure _)

theorem handedOver_cons : handedOver dns (candidate :: candidates) =
    (handedOver dns [candidate]).append (handedOver dns candidates) := by
  cases candidate <;> rfl

theorem takeOverOne_follows (hnamed : IsNamed candidate.interface) :
    Follows plan (takeOverOne dns setup candidate) ((script [candidate]).map ScriptStep.call)
      (setup.append (handedOver dns [candidate])) := by
  cases candidate with
  | leased interface mac address gateway =>
    have hlease := (leaseInterface_follows plan dns hnamed mac address gateway).within
      (.takingOver interface)
    have hgiven : setup.append (handedOver dns [.leased interface mac address gateway]) = _ :=
      setup.append_lease _
    rw [hgiven]
    exact hlease.bind (follows_pure _)
  | redirected interface mac =>
    have hnic := (redirectInterface_follows plan hnamed mac).within (.redirecting interface)
    have hgiven : setup.append (handedOver dns [.redirected interface mac]) = _ :=
      setup.append_passthrough _
    rw [hgiven]
    exact hnic.bind (follows_pure _)

/-- A takeover follows its script. -/
theorem takeOverFrom_follows (hnamed : ∀ candidate ∈ candidates, IsNamed candidate.interface) :
    Follows plan (takeOverFrom dns setup candidates) ((script candidates).map ScriptStep.call)
      (setup.append (handedOver dns candidates)) := by
  induction candidates generalizing setup with
  | nil =>
    have hempty : setup.append (handedOver dns []) = setup := setup.append_empty
    rw [takeOverFrom, hempty]
    exact follows_pure setup
  | cons candidate candidates ih =>
    obtain ⟨hcandidate, hcandidates⟩ := List.forall_mem_cons.1 hnamed
    have hscript : script (candidate :: candidates) = script [candidate] ++ script candidates := by
      rw [script, script, script, List.flatMap_singleton, List.flatMap_cons]
    rw [takeOverFrom, handedOver_cons, ← NetworkSetup.append_assoc, hscript, List.map_append]
    exact (takeOverOne_follows hcandidate).bind (ih hcandidates)

/-! ## What is done of the script -/

theorem asked_map_call (steps : List ScriptStep) :
    plan.asked 0 (steps.map ScriptStep.call) = issued plan steps := by
  apply List.mapIdx_eq_iff.2
  intro number
  rw [issued, List.getElem?_mapIdx, List.getElem?_map, Option.map_map]
  congr 1
  funext step
  rw [Function.comp_apply, Nat.zero_add]
  rfl

theorem number_start (clock : Duration) (number : ℕ) :
    (Progress.start clock).changes.length + number = number := Nat.zero_add number

/-- A script of which no step fails is played to its end. -/
theorem play_script_of_ok {clock : Duration}
    (hok : ∀ number < (script candidates).length, plan.ending number = .ok ()) :
    plan.play ((script candidates).map ScriptStep.call) (.start clock) =
      (.ok (), { Progress.start clock with changes := issued plan (script candidates) }) := by
  rw [play_of_ok, ← asked_map_call]
  · rfl
  · intro number hnumber
    rw [List.length_map] at hnumber
    rw [number_start]
    exact hok number hnumber

/-- A script is played up to its first step that fails. -/
theorem play_script_of_error {clock : Duration} {number : ℕ} {step : ScriptStep}
    {failure : Failure} (hstep : (script candidates)[number]? = some step)
    (hok : ∀ earlier < number, plan.ending earlier = .ok ())
    (herror : plan.ending number = .error failure) :
    plan.play ((script candidates).map ScriptStep.call) (.start clock) =
      (.error (.within step.owner.activity failure), { Progress.start clock with
        changes := issued plan ((script candidates).take (number + 1)) }) := by
  have hcall : ((script candidates).map ScriptStep.call)[number]? = some step.call := by
    rw [List.getElem?_map, hstep]
    rfl
  rw [play_of_error hcall, ← asked_map_call, List.map_take]
  · rfl
  · intro earlier hearlier
    rw [number_start]
    exact hok earlier hearlier
  · rwa [number_start]

/-- Whatever fails, only changes of the script are made. -/
theorem exists_step_of_mem_play {clock : Duration} {change : Change}
    (hchange : change ∈
      (plan.play ((script candidates).map ScriptStep.call) (.start clock)).2.changes) :
    ∃ step ∈ script candidates, ∃ bytes, step.change bytes = change := by
  obtain ⟨count, hcount⟩ :=
    exists_changes_play plan ((script candidates).map ScriptStep.call) (.start clock)
  have hissued : change ∈ issued plan ((script candidates).take count) := by
    rw [hcount, ← List.map_take] at hchange
    rw [← asked_map_call]
    exact hchange
  obtain ⟨number, hnumber, rfl⟩ := List.mem_mapIdx.1 hissued
  exact ⟨_, List.mem_of_mem_take (List.getElem_mem hnumber), _, rfl⟩

theorem run_takeOver_eq (hnamed : ∀ candidate ∈ candidates, IsNamed candidate.interface)
    (progress : Progress) :
    (takeOver dns candidates).attempt.run plan.handler progress =
      (some ((plan.play ((script candidates).map ScriptStep.call) progress).1.map
        fun _ ↦ handedOver dns candidates),
        (plan.play ((script candidates).map ScriptStep.call) progress).2) :=
  takeOverFrom_follows hnamed progress

/-- A change of an interface or of a device. -/
def Change.devices : Change → List String
  | .removeAddress device _ => [device]
  | .setMac device _ => [device]
  | .createTap name => [name]
  | .createBridge name => [name]
  | .setMaster device master => [device, master]
  | .setUp device => [device]
  | .redirect source target => [source, target]

/-- The interface of a candidate and what is made for it. -/
def Candidate.devices : Candidate → List String
  | .leased interface _ _ _ => [interface, tapOf interface, bridgeOf interface]
  | .redirected interface _ => [interface, tapOf interface]

/-- What is done for a candidate is done to its own devices. -/
theorem ScriptStep.devices_subset {step : ScriptStep} (hstep : step ∈ script candidates)
    (bytes : Octets 6) :
    step.owner ∈ candidates ∧ (step.change bytes).devices ⊆ step.owner.devices := by
  obtain ⟨candidate, hcandidate, hmade⟩ := List.mem_flatMap.1 hstep
  obtain ⟨change, hchange, rfl⟩ := List.mem_map.1 hmade
  refine ⟨hcandidate, ?_⟩
  have hall : ∀ change ∈ candidate.changes, (change bytes).devices ⊆ candidate.devices := by
    cases candidate <;> simp [Candidate.changes, Change.devices, Candidate.devices]
  exact hall change hchange

/-- What becomes of a takeover, whichever change fails first. -/
structure FollowsScript (plan : NetworkPlan) (dns : GuestDns) (candidates : List Candidate) :
    Prop where
  /-- If no change fails, all of them are made and every candidate gives what it is for. -/
  succeeds : ∀ clock,
    (∀ number < (script candidates).length, plan.ending number = .ok ()) →
      (takeOver dns candidates).attempt.run plan.handler (.start clock) =
        (some (.ok (handedOver dns candidates)),
          { Progress.start clock with changes := issued plan (script candidates) })
  /-- The first change that fails is the last one made, and all that is given is a failure that
  names the interface of its candidate. -/
  fails : ∀ clock number step failure, (script candidates)[number]? = some step →
    (∀ earlier < number, plan.ending earlier = .ok ()) → plan.ending number = .error failure →
      (takeOver dns candidates).attempt.run plan.handler (.start clock) =
        (some (.error (.within step.owner.activity failure)),
          { Progress.start clock with
            changes := issued plan ((script candidates).take (number + 1)) })
  /-- In any case nothing else is changed than the interfaces, their taps and their bridges. -/
  spares : ∀ clock,
    ∀ change ∈ ((takeOver dns candidates).attempt.run plan.handler (.start clock)).2.changes,
      ∀ device ∈ change.devices, ∃ candidate ∈ candidates, device ∈ candidate.devices
  /-- What is done for one candidate spares the interfaces of the others. -/
  apart : (candidates.map Candidate.interface).Nodup →
    (∀ candidate ∈ candidates, isOwnDevice candidate.interface = false) →
      ∀ step ∈ script candidates, ∀ bytes, ∀ other ∈ candidates,
        other.interface ∈ (step.change bytes).devices → step.owner = other

theorem isOwnDevice_of_mem_devices {device : String} (hnamed : IsNamed candidate.interface)
    (hdevice : device ∈ candidate.devices) :
    device = candidate.interface ∨ isOwnDevice device = true := by
  have htap := isOwnDevice_of_tapName? hnamed.tapName?_eq
  have hbridge := isOwnDevice_of_bridgeName? hnamed.bridgeName?_eq
  cases candidate with
  | leased interface mac address gateway =>
    obtain hinterface | hmade := List.mem_cons.1 hdevice
    · exact .inl hinterface
    · obtain rfl | hlast := List.mem_cons.1 hmade
      · exact .inr htap
      · rw [List.mem_singleton.1 hlast]
        exact .inr hbridge
  | redirected interface mac =>
    obtain hinterface | hmade := List.mem_cons.1 hdevice
    · exact .inl hinterface
    · rw [List.mem_singleton.1 hmade]
      exact .inr htap

/-- Distinct interfaces that are none of the devices made here are spared by one another. -/
theorem eq_of_mem_devices {step : ScriptStep} {bytes : Octets 6} {other : Candidate}
    (hnamed : ∀ candidate ∈ candidates, IsNamed candidate.interface)
    (hdistinct : (candidates.map Candidate.interface).Nodup)
    (hforeign : ∀ candidate ∈ candidates, isOwnDevice candidate.interface = false)
    (hstep : step ∈ script candidates) (hother : other ∈ candidates)
    (hdevice : other.interface ∈ (step.change bytes).devices) : step.owner = other := by
  obtain ⟨howner, hdevices⟩ := step.devices_subset hstep bytes
  obtain hinterface | hown := isOwnDevice_of_mem_devices (hnamed _ howner) (hdevices hdevice)
  · exact List.inj_on_of_nodup_map hdistinct howner hother hinterface.symm
  · rw [hforeign other hother] at hown
    cases hown

/-- A takeover of interfaces whose devices can be named makes the changes of its script up to the
first that fails. -/
theorem takeOver_followsScript (plan : NetworkPlan) (dns : GuestDns)
    (hnamed : ∀ candidate ∈ candidates, IsNamed candidate.interface) :
    FollowsScript plan dns candidates where
  succeeds clock hok := by
    rw [run_takeOver_eq hnamed, play_script_of_ok hok]
    rfl
  fails clock number step failure hstep hok herror := by
    rw [run_takeOver_eq hnamed, play_script_of_error hstep hok herror]
    rfl
  spares clock change hchange device hdevice := by
    rw [run_takeOver_eq hnamed] at hchange
    obtain ⟨step, hstep, bytes, rfl⟩ := exists_step_of_mem_play hchange
    obtain ⟨howner, hdevices⟩ := step.devices_subset hstep bytes
    exact ⟨step.owner, howner, hdevices hdevice⟩
  apart hdistinct hforeign step hstep bytes other hother hdevice :=
    eq_of_mem_devices hnamed hdistinct hforeign hstep hother hdevice

namespace Sample

/-- A network that refuses the change of the given number. -/
def refusing (number : ℕ) : NetworkPlan where
  poll _ := ⟨.ok [], fun _ ↦ .ok none⟩
  ending asked := if asked = number then .error (.cause (.reported "busy")) else .ok ()
  bytes _ := deviceMac.octets

end Sample

/-- After nine changes for the first interface, the second one for the other interface is
refused. -/
theorem takeOver_followsScript_refused :
    (∀ candidate ∈ Sample.plainCandidates, IsNamed candidate.interface) ∧
    FollowsScript (Sample.refusing 10) Sample.deviceDns Sample.plainCandidates ∧
    (takeOver Sample.deviceDns Sample.plainCandidates).attempt.run
        (Sample.refusing 10).handler (.start ⟨0⟩) =
      (some (.error (.within (.redirecting "eth1") (.cause (.reported "busy")))),
        { Progress.start ⟨0⟩ with
          changes := issued (Sample.refusing 10) ((script Sample.plainCandidates).take 11) }) := by
  have hnamed : ∀ candidate ∈ Sample.plainCandidates, IsNamed candidate.interface := by decide
  have hfollows := takeOver_followsScript (Sample.refusing 10) Sample.deviceDns hnamed
  refine ⟨hnamed, hfollows, hfollows.fails ⟨0⟩ 10 _ _ rfl ?_ rfl⟩
  intro earlier hearlier
  exact if_neg (Nat.ne_of_lt hearlier)

end MicroVm.Network

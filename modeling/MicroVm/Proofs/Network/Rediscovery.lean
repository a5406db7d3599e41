import MicroVm.Proofs.Network.Candidates
import MicroVm.Proofs.Network.TakeoverScript
import MicroVm.Proofs.Program.Requests

/-!
# Discovery on a host that was taken over before

A takeover leaves a tap for every candidate and a bridge for every leased one. They are named so
that each reading passes them over, whatever it is told of them. So the candidates of a discovery
are interfaces of the container, chosen one by one, however many takeovers came before.
-/

namespace MicroVm.Network

variable {dns : GuestDns} {setup : NetworkSetup} {interface : String} {candidate : Candidate}
  {candidates : List Candidate} {past history : History Links} {change : Change}
  {changes : List Change}

/-! ## What a takeover creates -/

/-- The device that a change creates. -/
def Change.created? : Change → Option String
  | .createTap name => some name
  | .createBridge name => some name
  | _ => none

/-- Whether a change creates no device but one that is told by its name. -/
def Change.CreatesOwn (change : Change) : Prop :=
  ∀ name, change.created? = some name → isOwnDevice name = true

theorem createsOwn_of_created?_eq_none (hnone : change.created? = none) : change.CreatesOwn := by
  intro name hname
  rw [hnone] at hname
  cases hname

/-- Requests that create no device but those told by their names. -/
def CreationsOwn : Program.RequestKind Links := fun _ request ↦
  ∀ change, request = .change change → change.CreatesOwn

theorem creationsOwn_randomBytes : CreationsOwn past .randomBytes := by
  intro change hrequest
  cases hrequest

/-- Making a change creates own devices only, if the change does. -/
theorem change_asks (hown : change.CreatesOwn) :
    (Links.change change).attempt.Asks CreationsOwn past fun _ _ ↦ True := by
  apply Program.asks_perform
  · intro other hrequest
    cases hrequest
    exact hown
  · exact fun _ ↦ trivial

theorem changeAll_asks (hown : ∀ change ∈ changes, change.CreatesOwn) :
    (changeAll changes).attempt.Asks CreationsOwn past fun _ _ ↦ True := by
  induction changes generalizing past with
  | nil => exact .done trivial
  | cons change changes ih =>
    obtain ⟨hfirst, hlater⟩ := List.forall_mem_cons.1 hown
    exact Task.asks_seq (change_asks hfirst) fun _ _ ↦ ih hlater

section Named

variable (hnamed : IsNamed interface)
include hnamed

theorem createsOwn_bridgeChanges :
    ∀ change ∈ bridgeChanges interface (bridgeOf interface) (tapOf interface),
      change.CreatesOwn := by
  have htap := isOwnDevice_of_tapName? hnamed.tapName?_eq
  have hbridge := isOwnDevice_of_bridgeName? hnamed.bridgeName?_eq
  simp [bridgeChanges, Change.CreatesOwn, Change.created?, htap, hbridge]

theorem createsOwn_redirectChanges :
    ∀ change ∈ redirectChanges interface (tapOf interface), change.CreatesOwn := by
  have htap := isOwnDevice_of_tapName? hnamed.tapName?_eq
  simp [redirectChanges, Change.CreatesOwn, Change.created?, htap]

theorem leaseInterface_asks (mac : Mac) (address : Cidr) (gateway : Option Ipv4) :
    (leaseInterface interface mac address gateway dns).attempt.Asks CreationsOwn past
      fun _ _ ↦ True := by
  rw [leaseInterface, hnamed.tapName?_eq, hnamed.bridgeName?_eq, requireName_some_bind,
    requireName_some_bind]
  refine Task.asks_seq (change_asks (createsOwn_of_created?_eq_none rfl)) fun _ past ↦ ?_
  refine Task.asks_liftM_bind (Program.asks_perform creationsOwn_randomBytes fun bytes ↦ ?_)
  refine Task.asks_seq (change_asks (createsOwn_of_created?_eq_none rfl)) fun _ past ↦ ?_
  refine Task.asks_seq (changeAll_asks (createsOwn_bridgeChanges hnamed)) fun _ past ↦ ?_
  exact .done trivial

theorem redirectInterface_asks (mac : Mac) :
    (redirectInterface interface mac).attempt.Asks CreationsOwn past fun _ _ ↦ True := by
  rw [redirectInterface, hnamed.tapName?_eq, requireName_some_bind]
  refine Task.asks_seq (changeAll_asks (createsOwn_redirectChanges hnamed)) fun _ past ↦ ?_
  exact .done trivial

end Named

/-- Taking one interface over creates own devices only. -/
theorem takeOverOne_asks (hnamed : IsNamed candidate.interface) :
    (takeOverOne dns setup candidate).attempt.Asks CreationsOwn past fun _ _ ↦ True := by
  cases candidate with
  | leased interface mac address gateway =>
    exact Task.asks_seq (Task.asks_within (leaseInterface_asks hnamed mac address gateway))
      fun _ _ ↦ .done trivial
  | redirected interface mac =>
    exact Task.asks_seq (Task.asks_within (redirectInterface_asks hnamed mac))
      fun _ _ ↦ .done trivial

/-- Taking interfaces over creates own devices only. -/
theorem takeOverFrom_asks (hnamed : ∀ candidate ∈ candidates, IsNamed candidate.interface) :
    (takeOverFrom dns setup candidates).attempt.Asks CreationsOwn past fun _ _ ↦ True := by
  induction candidates generalizing setup past with
  | nil => exact .done trivial
  | cons candidate candidates ih =>
    obtain ⟨hcandidate, hcandidates⟩ := List.forall_mem_cons.1 hnamed
    exact Task.asks_seq (takeOverOne_asks hcandidate) fun _ _ ↦ ih hcandidates

/-- Each device was created by a change. -/
theorem exists_change_of_created {name : String}
    (hcreated : name ∈ createdTaps history ++ createdBridges history) :
    ∃ change answer, ⟨.change change, answer⟩ ∈ history ∧ change.created? = some name := by
  obtain htap | hbridge := List.mem_append.1 hcreated
  · obtain ⟨event, hevent, hname⟩ := List.mem_filterMap.1 htap
    unfold createdTap? at hname
    split at hname
    next => exact ⟨_, _, hevent, hname⟩
    next => cases hname
  · obtain ⟨event, hevent, hname⟩ := List.mem_filterMap.1 hbridge
    unfold createdBridge? at hname
    split at hname
    next => exact ⟨_, _, hevent, hname⟩
    next => cases hname

/-- Whatever fails, the devices that a takeover creates are told by their names. -/
theorem isOwnDevice_of_created {result : Option (Except Failure NetworkSetup)} {name : String}
    (hnamed : ∀ candidate ∈ candidates, IsNamed candidate.interface)
    (hrun : (takeOver dns candidates).attempt.IsRun history result)
    (hcreated : name ∈ createdTaps history ++ createdBridges history) :
    isOwnDevice name = true := by
  have hasks : (takeOver dns candidates).attempt.Asks CreationsOwn [] fun _ _ ↦ True :=
    takeOverFrom_asks hnamed
  obtain ⟨_, rfl, -⟩ := hasks.exists_value hrun
  obtain ⟨change, answer, hevent, hname⟩ := exists_change_of_created hcreated
  obtain ⟨_, hown⟩ := (hasks.isOfKind hrun.leaves).of_mem hevent
  exact hown change rfl name hname

/-! ## What a discovery offers -/

/-- A discovery offers no interface that is told by its name. -/
theorem isOwnDevice_of_isRun_discover {options : DiscoveryOptions}
    (hrun : (discover options).attempt.IsRun history (some (.ok candidates)))
    (hcandidate : candidate ∈ candidates) : isOwnDevice candidate.interface = false := by
  obtain ⟨before, last, rfl, hlast⟩ := exists_survey_of_isRun_discover hrun
  cases isRun_survey_iff.1 hlast with
  | listed sightings =>
    obtain ⟨sighting, -, hoffered⟩ := List.mem_filterMap.1 hcandidate
    obtain ⟨hforeign, hverdict⟩ := Sighting.candidate?_eq_some_iff_verdict.1 hoffered
    have hname : candidate.interface = sighting.link.name := by
      cases (Sighting.offers_of_candidate? hoffered) <;> rfl
    rw [hname, isOwnDevice_eq_false_iff]
    exact ⟨hforeign.notTap, hforeign.notBridge⟩

/-- How readings judge the interfaces under given annotations, and what becomes of the devices of
takeovers in later discoveries. -/
structure JudgesExactly (annotations : Annotations) : Prop where
  /-- A reading asks about each interface by itself and gives those that are candidates. -/
  isRun_survey_iff : ∀ history result,
    (survey annotations.interfaceModes).attempt.IsRun history result ↔
      IsReading annotations.interfaceModes history result
  /-- Which candidate an interface is. -/
  candidate?_eq_some_iff : ∀ (sighting : Sighting) candidate,
    sighting.candidate? annotations.interfaceModes = some candidate ↔
      sighting.IsOffered annotations candidate
  /-- What one interface is found to be makes no difference to the others. -/
  filterMap_append : ∀ (before after : List Sighting) sighting,
    (before ++ sighting :: after).filterMap (Sighting.candidate? annotations.interfaceModes) =
      before.filterMap (Sighting.candidate? annotations.interfaceModes) ++
        (sighting.candidate? annotations.interfaceModes).toList ++
          after.filterMap (Sighting.candidate? annotations.interfaceModes)
  /-- The gateway of an interface to be redirected is not read. -/
  spares_gateway : ∀ history result device gateway,
    (survey annotations.interfaceModes).attempt.IsRun history result →
      ⟨.gateway device, gateway⟩ ∈ history → ¬ annotations.Redirects device
  /-- The devices of an interface can be named when its name is ASCII. -/
  isNamed : ∀ interface, IsAscii interface → IsNamed interface
  /-- No discovery offers a device that a takeover created, whatever became of the takeover. -/
  not_offered : ∀ (dns : GuestDns) (taken : List Candidate) earlier outcome name,
    (∀ candidate ∈ taken, IsNamed candidate.interface) →
      (takeOver dns taken).attempt.IsRun earlier outcome →
        name ∈ createdTaps earlier ++ createdBridges earlier → isOwnDevice name = true ∧
          ∀ options later candidates,
            (discover options).attempt.IsRun later (some (.ok candidates)) →
              ∀ candidate ∈ candidates, candidate.interface ≠ name

/-- About an interface to be redirected no gateway is asked for. -/
theorem not_redirects_of_mem_history {annotations : Annotations}
    {result : Option (Except Failure (List Candidate))} {device : String}
    {gateway : Except Failure (Option Ipv4)}
    (hrun : (survey annotations.interfaceModes).attempt.IsRun history result)
    (hasked : ⟨.gateway device, gateway⟩ ∈ history) : ¬ annotations.Redirects device := by
  rw [← annotations.modeOf_interfaceModes_eq_redirect_iff]
  cases isRun_survey_iff.1 hrun with
  | failed failure => cases List.mem_singleton.1 hasked
  | listed sightings =>
    obtain hlisting | hlater := List.mem_cons.1 hasked
    · cases hlisting
    · obtain ⟨sighting, -, hsighted⟩ := List.mem_flatMap.1 hlater
      obtain ⟨hevent, hmode⟩ | ⟨_, hevent⟩ := Sighting.eq_of_mem_events hsighted
      · cases hevent
        rw [hmode]
        exact nofun
      · cases hevent

/-- Each interface is judged by itself and by what the annotations say of it, and devices that a
takeover created are never offered again. -/
theorem survey_judgesExactly (annotations : Annotations) : JudgesExactly annotations where
  isRun_survey_iff history result := Network.isRun_survey_iff
  candidate?_eq_some_iff sighting candidate := Sighting.candidate?_eq_some_iff
  filterMap_append before after sighting := by
    rw [List.filterMap_append, filterMap_cons_eq_append, List.append_assoc]
  spares_gateway history result device gateway hrun hasked :=
    not_redirects_of_mem_history hrun hasked
  isNamed _ hascii := hascii.isNamed
  not_offered dns taken earlier outcome name hnamed htaken hcreated := by
    have hown := isOwnDevice_of_created hnamed htaken hcreated
    refine ⟨hown, ?_⟩
    rintro options later candidates hrun candidate hcandidate rfl
    rw [isOwnDevice_of_isRun_discover hrun hcandidate] at hown
    cases hown

end MicroVm.Network

import Mathlib.Data.List.Forall2
import MicroVm.Proofs.Network.Classification

/-!
# Where the candidates come from

A discovery that succeeds takes its candidates from the last reading of the interfaces. Each of them
is an interface of that reading, with its hardware address, and a leased one is so with its first
address.
-/

namespace MicroVm.Network

variable {modes : InterfaceModes} {links : List Link} {link : Link} {candidate : Candidate}
  {candidates : List Candidate} {past history : History Links}

/-- Whether an interface can be handed over as a candidate. -/
inductive Link.Offers : Link → Candidate → Prop
  | leased {link : Link} {mac : Mac} {address : Cidr} {others : List Cidr}
      (gateway : Option Ipv4) (hmac : link.mac = some mac)
      (haddresses : link.addresses = address :: others) :
      Offers link (.leased link.name mac address gateway)
  | redirected {link : Link} {mac : Mac} (hmac : link.mac = some mac) :
      Offers link (.redirected link.name mac)

theorem isRun_now_iff {result : Option Duration} :
    Links.now.IsRun history result ↔ ∃ now, history = [⟨.now, now⟩] ∧ result = some now :=
  Program.isRun_perform_iff

theorem isRun_sleep_iff {duration : Duration} {result : Option Unit} :
    (Links.sleep duration).IsRun history result ↔
      ∃ answer, history = [⟨.sleep duration, answer⟩] ∧ result = some answer :=
  Program.isRun_perform_iff

theorem Sighting.offers_of_candidate? {sighting : Sighting}
    (hcandidate : sighting.candidate? modes = some candidate) :
    sighting.link.Offers candidate := by
  obtain ⟨-, hverdict⟩ := candidate?_eq_some_iff_verdict.1 hcandidate
  cases hmode : modes.modeOf sighting.link.name with
  | redirect =>
    rw [hmode, verdict_redirect_eq_ok_iff] at hverdict
    obtain ⟨mac, hmac, rfl⟩ := hverdict
    exact .redirected hmac
  | bridge =>
    rw [hmode, verdict_bridge_eq_ok_iff] at hverdict
    obtain ⟨mac, address, gateway, hmac, haddress, -, rfl⟩ := hverdict
    obtain ⟨others, haddresses⟩ := List.head?_eq_some_iff.1 haddress
    exact .leased gateway hmac haddresses

/-- The candidates of a reading are interfaces of it, each at most once and in their order. -/
theorem exists_chosen (modes : InterfaceModes) (sightings : List Sighting) :
    ∃ chosen, chosen.Sublist (sightings.map Sighting.link) ∧
      List.Forall₂ Link.Offers chosen (sightings.filterMap (Sighting.candidate? modes)) := by
  induction sightings with
  | nil => exact ⟨[], List.Sublist.slnil, .nil⟩
  | cons sighting sightings ih =>
    obtain ⟨chosen, hchosen, hoffers⟩ := ih
    cases hcandidate : sighting.candidate? modes with
    | none =>
      rw [List.filterMap_cons_none hcandidate]
      exact ⟨chosen, hchosen.cons sighting.link, hoffers⟩
    | some candidate =>
      rw [List.filterMap_cons_some hcandidate]
      exact ⟨sighting.link :: chosen, hchosen.cons_cons sighting.link,
        .cons (Sighting.offers_of_candidate? hcandidate) hoffers⟩

/-! ## The last reading -/

/-- Whether a history ends with a reading of the interfaces and what is asked about them. -/
def EndsWithListing (history : History Links) (links : List Link) : Prop :=
  ∃ before after, history = before ++ ⟨.list, .ok links⟩ :: after ∧
    ∀ event ∈ after, event.request ≠ .list

/-- Where candidates come from: the interfaces that were chosen from the last reading. -/
def AreChosen (history : History Links) (links : List Link) (candidates : List Candidate) : Prop :=
  EndsWithListing history links ∧
    ∃ chosen, chosen.Sublist links ∧ List.Forall₂ Link.Offers chosen candidates

theorem AreChosen.append (h : AreChosen history links candidates) (before : History Links) :
    AreChosen (before ++ history) links candidates := by
  obtain ⟨⟨first, after, rfl, hafter⟩, hchosen⟩ := h
  exact ⟨⟨before ++ first, after, (List.append_assoc _ _ _).symm, hafter⟩, hchosen⟩

/-- A candidate is an interface of the reading. -/
theorem AreChosen.exists_offers (h : AreChosen history links candidates)
    (hmem : candidate ∈ candidates) : ∃ link ∈ links, link.Offers candidate := by
  obtain ⟨-, chosen, hsublist, hoffers⟩ := h
  obtain ⟨link, hlink, hoffer⟩ : ∃ link ∈ chosen, link.Offers candidate := by
    clear hsublist
    induction hoffers with
    | nil => cases hmem
    | @cons link other _ _ hfirst _ ih =>
      obtain rfl | hlater := List.mem_cons.1 hmem
      · exact ⟨link, List.mem_cons_self, hfirst⟩
      · obtain ⟨found, hfound, hoffer⟩ := ih hlater
        exact ⟨found, List.mem_cons_of_mem _ hfound, hoffer⟩
  exact ⟨link, hsublist.subset hlink, hoffer⟩

/-- Every reading of the interfaces chooses its candidates among the interfaces that it lists. -/
theorem areChosen_of_isRun_survey
    (hrun : (survey modes).attempt.IsRun history (some (.ok candidates))) :
    ∃ links, AreChosen history links candidates := by
  cases isRun_survey_iff.1 hrun with
  | listed sightings =>
    refine ⟨_, ⟨[], _, rfl, fun event hevent ↦ ?_⟩, exists_chosen modes sightings⟩
    obtain ⟨sighting, -, hsighted⟩ := List.mem_flatMap.1 hevent
    obtain ⟨rfl, -⟩ | ⟨text, rfl⟩ := Sighting.eq_of_mem_events hsighted
    · exact nofun
    · exact nofun

/-- What is left of a discovery that succeeds ends with the reading that it takes. -/
theorem exists_survey_of_isRun_discoverUntil {options : DiscoveryOptions} {deadline : Duration}
    {attempts : Nat}
    (hrun : (discoverUntil options deadline attempts).attempt.IsRun history
      (some (.ok candidates))) :
    ∃ before last, history = before ++ last ∧
      (survey options.modes).attempt.IsRun last (some (.ok candidates)) := by
  induction attempts generalizing history with
  | zero => exact absurd hrun (by simp [discoverUntil, Task.crash])
  | succ attempts ih =>
    have hagain {history : History Links}
        (hrun : (discoverUntil.again options deadline attempts).attempt.IsRun history
          (some (.ok candidates))) : ∃ before last, history = before ++ last ∧
            (survey options.modes).attempt.IsRun last (some (.ok candidates)) := by
      rw [discoverUntil.again, Task.isRun_request_bind_iff fun _ _ ↦ isRun_now_iff] at hrun
      obtain ⟨now, rest, rfl, hrun⟩ := hrun
      split at hrun
      · simp [Task.fail] at hrun
      · rw [Task.isRun_request_bind_iff fun _ _ ↦ isRun_sleep_iff] at hrun
        obtain ⟨_, rest, rfl, hrun⟩ := hrun
        obtain ⟨before, last, rfl, hlast⟩ := ih hrun
        exact ⟨_ :: _ :: before, last, rfl, hlast⟩
    rw [discoverUntil, Task.lift_eq_liftM, Task.isRun_liftM_bind_iff] at hrun
    obtain ⟨failure | found, first, after, rfl, hsurvey, hrun⟩ | ⟨-, hnone⟩ := hrun
    · obtain ⟨before, last, rfl, hlast⟩ := hagain hrun
      exact ⟨first ++ before, last, (List.append_assoc _ _ _).symm, hlast⟩
    · dsimp only at hrun
      split at hrun
      · obtain ⟨rfl, rfl⟩ := Task.isRun_pure_ok_iff.1 hrun
        exact ⟨[], first, List.append_nil first, hsurvey⟩
      · obtain ⟨before, last, rfl, hlast⟩ := hagain hrun
        exact ⟨first ++ before, last, (List.append_assoc _ _ _).symm, hlast⟩
    · cases hnone

/-- A discovery that succeeds ends with the reading that it takes. -/
theorem exists_survey_of_isRun_discover {options : DiscoveryOptions}
    (hrun : (discover options).attempt.IsRun history (some (.ok candidates))) :
    ∃ before last, history = before ++ last ∧
      (survey options.modes).attempt.IsRun last (some (.ok candidates)) := by
  rw [discover, Task.isRun_request_bind_iff fun _ _ ↦ isRun_now_iff] at hrun
  obtain ⟨now, rest, rfl, hrun⟩ := hrun
  dsimp only at hrun
  split at hrun
  · obtain ⟨before, last, rfl, hlast⟩ := exists_survey_of_isRun_discoverUntil hrun
    exact ⟨_ :: before, last, rfl, hlast⟩
  · simp [Task.crash] at hrun

/-- The candidates of a discovery are chosen from its last reading. -/
theorem areChosen_of_isRun_discover {options : DiscoveryOptions}
    (hrun : (discover options).attempt.IsRun history (some (.ok candidates))) :
    ∃ links, AreChosen history links candidates := by
  obtain ⟨before, last, rfl, hlast⟩ := exists_survey_of_isRun_discover hrun
  obtain ⟨links, hchosen⟩ := areChosen_of_isRun_survey hlast
  exact ⟨links, hchosen.append before⟩

end MicroVm.Network
